import CommandMachine.Fault
import CommandMachine.Proofs.Memory.Session
namespace CommandMachine

/-!
# Whose slots they are

Several engines may use one memory.  A book records what was asked of it, what it
answered and who asked, so that one can tell from a book who was issued a handle,
who took a slot last and what an engine put there.  Memory knows nothing of engines.
But as long as handles do not come back, each one belongs to one engine; and if no
engine uses or gives away a handle of another one, what an engine finds under its own
handles was put there by itself.
-/

namespace Memory

/-- The handle that an exchange issued. -/
def Exchange.issued? : Exchange → Option Handle
  | ⟨.allocate _, .issued handle⟩ => some handle
  | _ => none

theorem Exchange.eq_of_issued {exchange : Exchange} {handle : Handle}
    (issued : exchange.issued? = some handle) :
    ∃ value, exchange = ⟨.allocate value, .issued handle⟩ := by
  unfold issued? at issued
  split at issued
  · cases issued
    exact ⟨_, rfl⟩
  · cases issued

/-- The value that an exchange put under a handle. -/
def Exchange.put? (exchange : Exchange) (handle : Handle) : Option Value :=
  match exchange with
  | ⟨.allocate value, .issued address⟩ => if handle = address then some value else none
  | ⟨.write address value, .written⟩ => if handle = address then some value else none
  | _ => none

/-- The value that memory is asked to keep. -/
def Request.given? : Request → Option Value
  | .allocate value => some value
  | .write _ value => some value
  | _ => none

/-- A value that was put under a handle was given by one who got the handle just then
or used it. -/
theorem Exchange.given_of_put {exchange : Exchange} {handle : Handle} {value : Value}
    (put : exchange.put? handle = some value) :
    exchange.request.given? = some value ∧
      (exchange.issued? = some handle ∨ exchange.request.handle? = some handle) := by
  unfold put? at put
  split at put
  · split at put
    · rename_i same
      cases put
      exact ⟨rfl, Or.inl (congrArg some same.symm)⟩
    · cases put
  · split at put
    · rename_i same
      cases put
      exact ⟨rfl, Or.inr (congrArg some same.symm)⟩
    · cases put
  · cases put

/-- The record of an exchange makes a handle live with a value if the value was put
there, and else leaves it live. -/
theorem live_of_record {ledger : Ledger} {exchange : Exchange} {handle : Handle}
    {value : Value} (live : ledger.record exchange handle = .live value) :
    exchange.put? handle = some value ∨
      exchange.put? handle = none ∧ ledger handle = .live value := by
  unfold Ledger.record at live
  split at live
  · unfold Ledger.issue at live
    split at live
    · rename_i same
      cases live
      exact Or.inl (if_pos same)
    · rename_i differs
      split at live
      · cases live
      · exact Or.inr ⟨if_neg differs, live⟩
  · unfold Ledger.settle at live
    split at live
    · cases live
    · exact Or.inr ⟨rfl, live⟩
  · unfold Ledger.settle at live
    split at live
    · rename_i same
      cases live
      exact Or.inl (if_pos same)
    · rename_i differs
      exact Or.inr ⟨if_neg differs, live⟩
  · rename_i allocate _ write
    refine Or.inr ⟨?_, live⟩
    unfold Exchange.put?
    split
    · exact absurd rfl (allocate _ _)
    · exact absurd rfl (write _ _)
    · rfl

/-- A request that is granted about a handle finds the slot that the handle fits. -/
theorem fits_of_granted {memory : Memory} {request : Request} {handle : Handle}
    (about : request.handle? = some handle)
    (granted : ∀ error, (memory.serve request).2 ≠ .refused error) :
    Fits (memory.cell handle) handle := by
  have served := memory.served_serve request
  generalize (memory.serve request).1 = next, (memory.serve request).2 = reply at served granted
  cases served with
  | allocate value => cases about
  | free fits | read fits | write fits =>
      cases about
      exact fits
  | refused => exact absurd rfl (granted _)

/-- A value that memory shows is what it holds under the handle of the request. -/
theorem read_of_held {memory : Memory} {request : Request} {value : Value}
    (held : (memory.serve request).2 = .held value) :
    ∃ handle, request.handle? = some handle ∧ memory.read handle = .ok value := by
  have served := memory.served_serve request
  generalize (memory.serve request).1 = next at served
  rw [held] at served
  cases served with
  | free fits => exact ⟨_, rfl, (read_eq_ok_iff _).mpr ⟨fits, rfl⟩⟩
  | read fits => exact ⟨_, rfl, (read_eq_ok_iff _).mpr ⟨fits, rfl⟩⟩

theorem issued?_of_serve {memory : Memory} {request : Request} {handle : Handle}
    (issued : (memory.serve request).2 = .issued handle) :
    (Exchange.mk request (memory.serve request).2).issued? = some handle := by
  have served := memory.served_serve request
  generalize (memory.serve request).1 = next at served
  rw [issued] at served ⊢
  cases served with
  | allocate value => rfl

/-- Memory says that a handle points outside only if there is no such slot. -/
theorem slot?_of_outOfRange {memory : Memory} {request : Request} {other : Handle}
    (refused : (memory.serve request).2 = .refused (.outOfRange other)) :
    ∃ handle, request.handle? = some handle ∧ memory.slot? handle = none := by
  have outside {handle : Handle} (failed : memory.live handle = .error (.outOfRange other)) :
      memory.slot? handle = none := by
    unfold live at failed
    split at failed
    · assumption
    · split at failed <;> cases failed
  cases request with
  | allocate value => cases refused
  | free handle =>
      refine ⟨handle, rfl, ?_⟩
      cases freed : memory.free handle with
      | ok pair => simp [serve, freed] at refused
      | error error =>
          have same : error = .outOfRange other := by simpa [serve, freed] using refused
          subst same
          unfold free at freed
          split at freed
          · assumption
          · repeat' split at freed
            all_goals cases freed
  | read handle =>
      refine ⟨handle, rfl, outside ?_⟩
      cases found : memory.live handle with
      | ok slot => simp [serve, read, found, Except.map] at refused
      | error error => simpa [serve, read, found, Except.map] using refused
  | write handle value =>
      refine ⟨handle, rfl, outside ?_⟩
      cases found : memory.live handle with
      | ok slot => simp [serve, write, found, Except.map] at refused
      | error error => simpa [serve, write, found, Except.map] using refused

end Memory

/-! ## Books -/

/-- What engines have asked of one memory, and what it answered. -/
structure Book where
  /-- The exchanges with the engines that had them, the latest first. -/
  entries : List (ThreadId × Memory.Exchange)
deriving DecidableEq

namespace Book

/-- The book of a memory of which nothing has been asked. -/
def blank : Book :=
  ⟨[]⟩

/-- Adds an exchange that an engine has had. -/
def enter (book : Book) (thread : ThreadId) (exchange : Memory.Exchange) : Book :=
  ⟨(thread, exchange) :: book.entries⟩

/-- The exchanges without the engines. -/
def history (book : Book) : List Memory.Exchange :=
  book.entries.map Prod.snd

/-- A book together with the memory of which it tells. -/
def session (book : Book) (memory : Memory) : Memory.Session :=
  ⟨memory, book.history⟩

/-- The book records all that was ever asked of the memory. -/
inductive Records (pageSize : Nat) : Book → Memory → Prop where
  | blank : Records pageSize blank (.ofPageSize pageSize)
  | enter {book : Book} {memory : Memory} (thread : ThreadId) (request : Memory.Request)
      (earlier : Records pageSize book memory) :
      Records pageSize (book.enter thread ⟨request, (memory.serve request).2⟩)
        (memory.serve request).1

/-- The engine was issued the handle. -/
def Issued (book : Book) (thread : ThreadId) (handle : Handle) : Prop :=
  ∃ exchange, (thread, exchange) ∈ book.entries ∧ exchange.issued? = some handle

/-- Who took the slot at a place last, and the handle that was issued for it. -/
def tenant? (book : Book) (place : UInt32 × UInt32) : Option (ThreadId × Handle) :=
  book.entries.findSome? fun entry =>
    (entry.2.issued?.filter fun handle => handle.place = place).map (Prod.mk entry.1)

/-- Who put a value under the handle last, and the value. -/
def lastPut? (book : Book) (handle : Handle) : Option (ThreadId × Value) :=
  book.entries.findSome? fun entry => (entry.2.put? handle).map (Prod.mk entry.1)

/-- No engine has used or given away a handle that it was not issued. -/
structure Orderly (book : Book) : Prop where
  used : ∀ thread exchange, (thread, exchange) ∈ book.entries →
    ∀ handle, exchange.request.handle? = some handle → book.Issued thread handle
  given : ∀ thread exchange, (thread, exchange) ∈ book.entries →
    ∀ handle, exchange.request.given? = some (.handle handle) → book.Issued thread handle

section Entries

variable {book : Book} {thread : ThreadId} {exchange : Memory.Exchange} {handle : Handle}

theorem Issued.enter (issued : book.Issued thread handle) (other : ThreadId)
    (exchange : Memory.Exchange) : (book.enter other exchange).Issued thread handle := by
  rcases issued with ⟨earlier, listed, issued⟩
  exact ⟨earlier, List.mem_cons_of_mem _ listed, issued⟩

theorem issued_enter (issued : exchange.issued? = some handle) :
    (book.enter thread exchange).Issued thread handle :=
  ⟨exchange, List.mem_cons_self, issued⟩

theorem Issued.of_enter {other : ThreadId}
    (issued : (book.enter other exchange).Issued thread handle) :
    (thread = other ∧ exchange.issued? = some handle) ∨ book.Issued thread handle := by
  rcases issued with ⟨found, listed, issued⟩
  rcases List.mem_cons.mp listed with same | earlier
  · cases same
    exact Or.inl ⟨rfl, issued⟩
  · exact Or.inr ⟨found, earlier, issued⟩

theorem Issued.ledger_ne (issued : book.Issued thread handle) :
    Ledger.ofHistory book.history handle ≠ .unissued := by
  rcases issued with ⟨exchange, listed, issued⟩
  rcases Memory.Exchange.eq_of_issued issued with ⟨value, rfl⟩
  exact Ledger.ofHistory_ne_unissued (List.mem_map_of_mem listed)

theorem orderly_blank : Orderly blank :=
  ⟨fun _ _ listed => (nomatch listed), fun _ _ listed => (nomatch listed)⟩

theorem Orderly.enter (orderly : book.Orderly)
    (used : ∀ handle, exchange.request.handle? = some handle → book.Issued thread handle)
    (given : ∀ handle, exchange.request.given? = some (.handle handle) →
      book.Issued thread handle) :
    (book.enter thread exchange).Orderly := by
  constructor
  · intro other found listed handle about
    rcases List.mem_cons.mp listed with same | earlier
    · cases same
      exact (used handle about).enter thread exchange
    · exact (orderly.used other found earlier handle about).enter thread exchange
  · intro other found listed handle about
    rcases List.mem_cons.mp listed with same | earlier
    · cases same
      exact (given handle about).enter thread exchange
    · exact (orderly.given other found earlier handle about).enter thread exchange

/-- Under a live handle there is what was put there last. -/
theorem lastPut?_of_live {value : Value}
    (live : Ledger.ofHistory book.history handle = .live value) :
    ∃ thread, book.lastPut? handle = some (thread, value) := by
  rcases book with ⟨entries⟩
  induction entries with
  | nil => cases live
  | cons entry earlier ih =>
      unfold lastPut?
      rw [List.findSome?_cons]
      rcases Memory.live_of_record live with put | ⟨silent, before⟩
      · rw [put]
        exact ⟨entry.1, rfl⟩
      · rw [silent]
        exact ih before

/-- In an orderly book the one who put a value under a handle was issued the handle,
and also the value if that is a handle. -/
theorem Orderly.issued_of_lastPut? (orderly : book.Orderly) {value : Value}
    (put : book.lastPut? handle = some (thread, value)) :
    book.Issued thread handle ∧ ∀ other, value = .handle other → book.Issued thread other := by
  rcases List.exists_of_findSome?_eq_some put with ⟨⟨owner, exchange⟩, listed, found⟩
  rcases Option.map_eq_some_iff.mp found with ⟨held, put, same⟩
  cases same
  rcases Memory.Exchange.given_of_put put with ⟨given, issued | about⟩
  · exact ⟨⟨exchange, listed, issued⟩, fun other same =>
      orderly.given _ _ listed other (given.trans (congrArg some same))⟩
  · exact ⟨orderly.used _ _ listed handle about, fun other same =>
      orderly.given _ _ listed other (given.trans (congrArg some same))⟩

theorem tenant?_enter_of_issued (issued : exchange.issued? = some handle) :
    (book.enter thread exchange).tenant? handle.place = some (thread, handle) := by
  simp [tenant?, enter, issued]

theorem tenant?_enter_of_other {place : UInt32 × UInt32}
    (other : ∀ handle, exchange.issued? = some handle → handle.place ≠ place) :
    (book.enter thread exchange).tenant? place = book.tenant? place := by
  have silent : exchange.issued?.filter (fun handle => decide (handle.place = place)) = none := by
    rw [Option.filter_eq_none_iff]
    intro handle issued
    simpa using other handle issued
  simp only [tenant?, enter, List.findSome?_cons, silent, Option.map_none]

theorem issued_of_tenant? {place : UInt32 × UInt32}
    (tenant : book.tenant? place = some (thread, handle)) : book.Issued thread handle := by
  rcases List.exists_of_findSome?_eq_some tenant with ⟨⟨owner, exchange⟩, listed, found⟩
  rcases Option.map_eq_some_iff.mp found with ⟨held, kept, same⟩
  cases same
  exact ⟨exchange, listed, (Option.filter_eq_some_iff.mp kept).1⟩

end Entries

/-! ## As long as handles do not come back -/

section Numbered

variable {pageSize : Nat} {book : Book} {memory : Memory}

theorem session_enter (book : Book) (memory : Memory) (thread : ThreadId)
    (request : Memory.Request) :
    (book.enter thread ⟨request, (memory.serve request).2⟩).session (memory.serve request).1 =
      (book.session memory).serve request :=
  rfl

theorem Records.faithful (records : Records pageSize book memory)
    (bounded : pageSize ≤ UInt32.size) (numbered : (book.session memory).Numbered) :
    (book.session memory).Faithful := by
  induction records with
  | blank => exact Memory.Session.faithful_start bounded
  | @enter book memory thread request earlier ih =>
      rw [session_enter] at numbered
      exact (ih numbered.of_serve).serve numbered

/-- A new handle was never issued before. -/
theorem not_issued_allocate (faithful : (book.session memory).Faithful) {value : Value}
    (pages : (memory.allocate value).1.pages.length ≤ UInt32.size) (thread : ThreadId) :
    ¬ book.Issued thread (memory.allocate value).2 := by
  intro issued
  have allocated := Memory.allocated_allocate faithful.formed faithful.slots value pages
  apply issued.ledger_ne
  rw [← show memory.ledger = Ledger.ofHistory book.history from faithful.ledger_eq]
  exact allocated.ledger_unissued

/-- A request that is answered with a handle asks for one. -/
theorem eq_allocate_of_issued {request : Memory.Request} {handle : Handle}
    (issued : (Memory.Exchange.mk request (memory.serve request).2).issued? = some handle) :
    ∃ value, request = .allocate value ∧ handle = (memory.allocate value).2 := by
  rcases Memory.Exchange.eq_of_issued issued with ⟨value, same⟩
  cases request with
  | allocate given =>
      cases same
      exact ⟨_, rfl, rfl⟩
  | free address => cases same
  | read address => cases same
  | write address given => cases same

/-- No two engines are issued the same handle. -/
theorem Records.owner_unique (records : Records pageSize book memory)
    (bounded : pageSize ≤ UInt32.size) (numbered : (book.session memory).Numbered)
    {first second : ThreadId} {handle : Handle} (left : book.Issued first handle)
    (right : book.Issued second handle) : first = second := by
  induction records with
  | blank =>
      rcases left with ⟨exchange, listed, -⟩
      cases listed
  | @enter book memory thread request earlier ih =>
      rw [session_enter] at numbered
      have before := numbered.of_serve
      have faithful := earlier.faithful bounded before
      have fresh {other : ThreadId}
          (issued : (Memory.Exchange.mk request (memory.serve request).2).issued? = some handle) :
          ¬ book.Issued other handle := by
        rcases eq_allocate_of_issued issued with ⟨value, rfl, rfl⟩
        exact not_issued_allocate faithful numbered.pages other
      rcases left.of_enter with ⟨rfl, leftNew⟩ | leftOld
      · rcases right.of_enter with ⟨rfl, -⟩ | rightOld
        · rfl
        · exact absurd rightOld (fresh leftNew)
      · rcases right.of_enter with ⟨rfl, rightNew⟩ | rightOld
        · exact absurd leftOld (fresh rightNew)
        · exact ih before leftOld rightOld

/-- A handle is brought to life only by being issued. -/
theorem live_before_enter (faithful : (book.session memory).Faithful) {thread : ThreadId}
    {request : Memory.Request} {handle : Handle} {value : Value}
    (live : Ledger.ofHistory (book.enter thread ⟨request, (memory.serve request).2⟩).history
      handle = .live value)
    (old : (Memory.Exchange.mk request (memory.serve request).2).issued? ≠ some handle) :
    ∃ earlier, memory.ledger handle = .live earlier := by
  have books : memory.ledger = Ledger.ofHistory book.history := faithful.ledger_eq
  rcases Memory.live_of_record live with put | ⟨-, before⟩
  · rcases Memory.Exchange.given_of_put put with ⟨-, issued | about⟩
    · exact absurd issued old
    · cases request with
      | allocate given => cases about
      | free address => cases put
      | read address => cases put
      | write address given =>
          cases about
          cases written : memory.write handle given with
          | ok next => exact (Memory.write_eq_ok_iff given).mp ⟨next, written⟩
          | error error => simp [Memory.serve, written, Memory.Exchange.put?] at put
  · exact ⟨value, by rw [books]; exact before⟩

/-- The slot of a live handle was taken last by the one who was issued the handle. -/
theorem Records.tenant?_of_live (records : Records pageSize book memory)
    (bounded : pageSize ≤ UInt32.size) (numbered : (book.session memory).Numbered)
    {handle : Handle} {value : Value}
    (live : Ledger.ofHistory book.history handle = .live value) :
    ∃ thread, book.tenant? handle.place = some (thread, handle) := by
  induction records generalizing value with
  | blank => cases live
  | @enter book memory thread request earlier ih =>
      rw [session_enter] at numbered
      have before := numbered.of_serve
      have faithful := earlier.faithful bounded before
      have books : memory.ledger = Ledger.ofHistory book.history := faithful.ledger_eq
      by_cases new : (Memory.Exchange.mk request (memory.serve request).2).issued? = some handle
      · exact ⟨thread, tenant?_enter_of_issued new⟩
      · -- A slot in use is not given out again, so nothing was issued for this place.
        rcases live_before_enter faithful live new with ⟨held, liveBefore⟩
        have elsewhere (other : Handle)
            (issued : (Memory.Exchange.mk request (memory.serve request).2).issued? =
              some other) : other.place ≠ handle.place := by
          rcases eq_allocate_of_issued issued with ⟨given, rfl, rfl⟩
          intro place
          have unused := (Memory.allocated_allocate faithful.formed faithful.slots given
            numbered.pages).unused
          have fits := ((Memory.ledger_eq_live_iff held).mp liveBefore).1
          rw [show (book.session memory).memory = memory from rfl, memory.cell_congr place,
            fits.1] at unused
          cases unused
        rw [tenant?_enter_of_other elsewhere]
        rw [books] at liveBefore
        exact ih before liveBefore

/-! ## What an engine finds under its own handles -/

section Own

variable {thread : ThreadId} {handle : Handle}

/-- A request about a handle that was issued is never said to point outside. -/
theorem Issued.reply_ne_outOfRange (issued : book.Issued thread handle)
    (faithful : (book.session memory).Faithful) {request : Memory.Request}
    (about : request.handle? = some handle) (other : Handle) :
    (memory.serve request).2 ≠ .refused (.outOfRange other) := by
  intro refused
  rcases Memory.slot?_of_outOfRange refused with ⟨found, same, missing⟩
  rw [about] at same
  cases same
  apply issued.ledger_ne
  rw [← show memory.ledger = Ledger.ofHistory book.history from faithful.ledger_eq,
    Memory.ledger, Memory.cell, missing]
  exact Slot.fate_fresh handle.generation

/-- What an engine reads under its own handle it has put there itself. -/
theorem Records.lastPut?_of_read (records : Records pageSize book memory)
    (bounded : pageSize ≤ UInt32.size) (numbered : (book.session memory).Numbered)
    (orderly : book.Orderly) (issued : book.Issued thread handle) {value : Value}
    (found : memory.read handle = .ok value) :
    book.lastPut? handle = some (thread, value) := by
  have books : memory.ledger = Ledger.ofHistory book.history :=
    (records.faithful bounded numbered).ledger_eq
  rw [Memory.read_eq_ok_iff, ← Memory.ledger_eq_live_iff, books] at found
  rcases lastPut?_of_live found with ⟨owner, put⟩
  have same := records.owner_unique bounded numbered issued (orderly.issued_of_lastPut? put).1
  rw [put, same]

/-- A slot that an engine can use through its own handle was taken last by itself. -/
theorem Records.tenant?_of_fits (records : Records pageSize book memory)
    (bounded : pageSize ≤ UInt32.size) (numbered : (book.session memory).Numbered)
    (issued : book.Issued thread handle) (fits : Memory.Fits (memory.cell handle) handle) :
    book.tenant? handle.place = some (thread, handle) := by
  have books : memory.ledger = Ledger.ofHistory book.history :=
    (records.faithful bounded numbered).ledger_eq
  have live := (Memory.ledger_eq_live_iff (memory.cell handle).value).mpr ⟨fits, rfl⟩
  rw [books] at live
  rcases records.tenant?_of_live bounded numbered live with ⟨owner, tenant⟩
  have same := records.owner_unique bounded numbered issued (issued_of_tenant? tenant)
  rw [tenant, same]

end Own
end Numbered
end Book
end CommandMachine
