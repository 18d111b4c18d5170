import CommandMachine.Proofs.Memory.Ledger
import Mathlib.Data.List.Induction
namespace CommandMachine
namespace Memory

/-!
# Memory answers as its history demands

Requests are served one after the other, and the history of a session keeps them
with their answers.  Since each request changes the fates of the handles as the
ledger does, the fates read off the slots are those of the history at any time, and
the answers of memory follow from the fates.  The generations are the weak point:
they count how often a slot was given back, but only up to what 32 bits can hold.
-/

/-! ## Serving requests -/

/-- The ways in which a request can be served. -/
inductive Served (memory : Memory) : Request → Memory → Reply → Prop where
  | allocate (value : Value) :
      Served memory (.allocate value) (memory.allocate value).1
        (.issued (memory.allocate value).2)
  | free {handle : Handle} (fits : Fits (memory.cell handle) handle) :
      Served memory (.free handle)
        (memory.onPage handle fun page => page.release handle.slot.toNat)
        (.held (memory.cell handle).value)
  | read {handle : Handle} (fits : Fits (memory.cell handle) handle) :
      Served memory (.read handle) memory (.held (memory.cell handle).value)
  | write {handle : Handle} {value : Value} (fits : Fits (memory.cell handle) handle) :
      Served memory (.write handle value)
        (memory.onPage handle fun page => page.store handle.slot.toNat value) .written
  | refused {request : Request} {error : MemoryError} :
      Served memory request memory (.refused error)

theorem served_serve (memory : Memory) (request : Request) :
    memory.Served request (memory.serve request).1 (memory.serve request).2 := by
  cases request with
  | allocate value => exact .allocate value
  | free handle =>
      by_cases fits : Fits (memory.cell handle) handle
      · rw [serve, free_of_fits fits]
        exact .free fits
      · rcases free_of_not_fits fits with ⟨error, failed⟩
        rw [serve, failed]
        exact .refused
  | read handle =>
      by_cases fits : Fits (memory.cell handle) handle
      · rw [serve, (read_eq_ok_iff _).mpr ⟨fits, rfl⟩]
        exact .read fits
      · rcases live_of_not_fits fits with ⟨error, failed⟩
        rw [serve, read, failed]
        exact .refused
  | write handle value =>
      by_cases fits : Fits (memory.cell handle) handle
      · rw [serve, write_of_fits fits]
        exact .write fits
      · rcases write_of_not_fits fits value with ⟨error, failed⟩
        rw [serve, failed]
        exact .refused

theorem pages_le_allocate (memory : Memory) (value : Value) :
    memory.pages.length ≤ (memory.allocate value).1.pages.length := by
  rw [length_allocate]
  unfold prepare
  split <;> simp

/-- Pages are never given up. -/
theorem Served.pages_le {memory next : Memory} {request : Request} {reply : Reply}
    (served : memory.Served request next reply) :
    memory.pages.length ≤ next.pages.length := by
  cases served with
  | allocate value => exact memory.pages_le_allocate value
  | free => simp [onPage]
  | read => exact Nat.le_refl _
  | write => simp [onPage]
  | refused => exact Nat.le_refl _

theorem Served.pageSize_eq {memory next : Memory} {request : Request} {reply : Reply}
    (served : memory.Served request next reply) : next.pageSize = memory.pageSize := by
  cases served <;> rfl

/-- A value is lost only through a request about its own handle. -/
theorem Served.cell_eq {memory next : Memory} {request : Request} {reply : Reply}
    (formed : memory.Formed) (slots : memory.pageSize ≤ UInt32.size)
    (pages : memory.pages.length < UInt32.size) (served : memory.Served request next reply)
    {other : Handle} (fits : Fits (memory.cell other) other)
    (apart : request.handle? ≠ some other) : next.cell other = memory.cell other := by
  cases served with
  | allocate value =>
      have allocated := allocated_allocate formed slots value
        (Nat.le_trans (memory.pages_allocate_le value) pages)
      rw [allocated.cell_eq]
      apply if_neg
      intro place
      have unused := allocated.unused
      rw [← memory.cell_congr place, fits.1] at unused
      cases unused
  | free held =>
      rw [(replaces_free formed held).cell_eq]
      apply if_neg
      intro place
      exact apart (congrArg some (held.eq_of_place fits place).symm)
  | read => rfl
  | write held =>
      rw [(replaces_write formed held _).cell_eq]
      apply if_neg
      intro place
      exact apart (congrArg some (held.eq_of_place fits place).symm)
  | refused => rfl

/-! ## Sessions -/

/-- Memory together with all that was asked of it so far. -/
structure Session where
  memory : Memory
  /-- The latest exchange first. -/
  history : List Exchange

namespace Session

def start (pageSize : Nat) : Session :=
  ⟨.ofPageSize pageSize, []⟩

def serve (session : Session) (request : Request) : Session :=
  let (memory, reply) := session.memory.serve request
  ⟨memory, ⟨request, reply⟩ :: session.history⟩

/-- Serves the requests one after the other, beginning with memory without pages. -/
def run (pageSize : Nat) (requests : List Request) : Session :=
  requests.foldl serve (start pageSize)

/-- There are fewer pages, and each slot was given back less often, than a number of
32 bits can tell. -/
structure Small (session : Session) : Prop where
  pages : session.memory.pages.length < UInt32.size
  releases : ∀ place, Memory.releases session.history place < UInt32.size

/-- There are no more pages, and each slot was given back less often, than there are numbers
of 32 bits. -/
structure Numbered (session : Session) : Prop where
  pages : session.memory.pages.length ≤ UInt32.size
  releases : ∀ place, Memory.releases session.history place < UInt32.size

theorem Small.numbered {session : Session} (small : session.Small) : session.Numbered :=
  ⟨Nat.le_of_lt small.pages, small.releases⟩

/-- What memory knows of its handles is what its history says, and the generation of a
slot counts how often it was given back. -/
structure Faithful (session : Session) : Prop where
  formed : session.memory.Formed
  slots : session.memory.pageSize ≤ UInt32.size
  ledger_eq : session.memory.ledger = Ledger.ofHistory session.history
  generation_eq : ∀ handle, (session.memory.cell handle).generation.toNat =
    Memory.releases session.history handle.place

theorem Numbered.of_serve {session : Session} {request : Request}
    (numbered : (session.serve request).Numbered) : session.Numbered := by
  constructor
  · exact Nat.le_trans (session.memory.served_serve request).pages_le numbered.pages
  · intro place
    exact Nat.lt_of_le_of_lt (releases_le_cons _ _ place) (numbered.releases place)

theorem faithful_start {pageSize : Nat} (bounded : pageSize ≤ UInt32.size) :
    (start pageSize).Faithful where
  formed := formed_ofPageSize pageSize
  slots := Nat.max_le.mpr ⟨bounded, by decide⟩
  ledger_eq := ledger_ofPageSize pageSize
  generation_eq := fun _ => rfl

section Step

variable {session : Session} {exchange : Exchange}

/-- An exchange that changes nothing keeps the books in order. -/
theorem Faithful.idle (faithful : session.Faithful)
    (silent : ∀ ledger : Ledger, ledger.record exchange = ledger)
    (keeps : ∀ place, exchange.releases place = false) :
    Faithful ⟨session.memory, exchange :: session.history⟩ := by
  refine ⟨faithful.formed, faithful.slots, ?_, ?_⟩
  · rw [faithful.ledger_eq, Ledger.ofHistory, silent]
  · intro handle
    rw [faithful.generation_eq, releases_cons_of_keeps (keeps _)]

/-- So does an exchange that changes one place, if ledger and generation follow. -/
theorem Faithful.replaced (faithful : session.Faithful) {next : Memory} {handle : Handle}
    {slot : Slot} (replaces : session.memory.Replaces next handle slot)
    (records : next.ledger = session.memory.ledger.record exchange)
    (counts : slot.generation.toNat =
      Memory.releases (exchange :: session.history) handle.place)
    (keeps : ∀ place, place ≠ handle.place → exchange.releases place = false) :
    Faithful ⟨next, exchange :: session.history⟩ := by
  refine ⟨replaces.formed, replaces.pageSize_eq ▸ faithful.slots, ?_, ?_⟩
  · rw [records, faithful.ledger_eq, Ledger.ofHistory]
  · intro other
    rw [replaces.cell_eq]
    by_cases place : other.place = handle.place
    · rw [if_pos place, place]
      exact counts
    · rw [if_neg place, faithful.generation_eq, releases_cons_of_keeps (keeps _ place)]

theorem Faithful.allocate (faithful : session.Faithful) (value : Value)
    (pages : (session.memory.allocate value).1.pages.length ≤ UInt32.size) :
    Faithful ⟨(session.memory.allocate value).1,
      ⟨.allocate value, .issued (session.memory.allocate value).2⟩ :: session.history⟩ := by
  have allocated := allocated_allocate faithful.formed faithful.slots value pages
  refine faithful.replaced allocated.toReplaces allocated.ledger_issue ?_ fun _ _ => rfl
  rw [releases_cons_of_keeps rfl, allocated.generation_eq]
  exact faithful.generation_eq _

theorem Faithful.free (faithful : session.Faithful) {handle : Handle}
    (fits : Fits (session.memory.cell handle) handle)
    (small : Memory.releases (⟨.free handle, .held (session.memory.cell handle).value⟩ ::
      session.history) handle.place < UInt32.size) :
    Faithful ⟨session.memory.onPage handle fun page => page.release handle.slot.toNat,
      ⟨.free handle, .held (session.memory.cell handle).value⟩ :: session.history⟩ := by
  have count : Memory.releases session.history handle.place = handle.generation.toNat := by
    rw [← faithful.generation_eq, fits.2]
  rw [releases_cons_free, count] at small
  refine faithful.replaced (replaces_free faithful.formed fits)
    (ledger_free faithful.formed fits small) ?_ ?_
  · rw [releases_cons_free, count, UInt32.toNat_add]
    exact Nat.mod_eq_of_lt small
  · intro place differs
    exact decide_eq_false differs.symm

theorem Faithful.write (faithful : session.Faithful) {handle : Handle}
    (fits : Fits (session.memory.cell handle) handle) (value : Value) :
    Faithful ⟨session.memory.onPage handle fun page => page.store handle.slot.toNat value,
      ⟨.write handle value, .written⟩ :: session.history⟩ := by
  refine faithful.replaced (replaces_write faithful.formed fits value)
    (ledger_write faithful.formed fits value) ?_ fun _ _ => rfl
  rw [releases_cons_of_keeps rfl, ← fits.2]
  exact faithful.generation_eq handle

theorem Faithful.served (faithful : session.Faithful) {request : Request} {next : Memory}
    {reply : Reply} (served : session.memory.Served request next reply)
    (numbered : Numbered ⟨next, ⟨request, reply⟩ :: session.history⟩) :
    Faithful ⟨next, ⟨request, reply⟩ :: session.history⟩ := by
  cases served with
  | allocate value => exact faithful.allocate value numbered.pages
  | free fits => exact faithful.free fits (numbered.releases _)
  | read fits => exact faithful.idle (fun _ => rfl) fun _ => rfl
  | write fits => exact faithful.write fits _
  | refused =>
      apply faithful.idle
      · intro ledger
        cases request <;> rfl
      · intro place
        cases request <;> rfl

end Step

theorem Faithful.serve {session : Session} {request : Request} (faithful : session.Faithful)
    (numbered : (session.serve request).Numbered) : (session.serve request).Faithful :=
  faithful.served (session.memory.served_serve request) numbered

/-- The books are in order after any sequence of requests. -/
theorem faithful_run {pageSize : Nat} (bounded : pageSize ≤ UInt32.size) (requests : List Request)
    (numbered : (run pageSize requests).Numbered) : (run pageSize requests).Faithful := by
  -- The bounds are known at the end only, so the last request is taken off first.
  induction requests using List.reverseRecOn with
  | nil => exact faithful_start bounded
  | append_singleton earlier last ih =>
      rw [run, List.foldl_append] at numbered ⊢
      exact (ih numbered.of_serve).serve numbered

end Session

/-! ## Answers -/

/-- Memory answers the next request, whichever it is, as the ledger of its history
demands. -/
structure Honours (memory : Memory) (history : List Exchange) : Prop where
  /-- A new handle is none that was issued before. -/
  fresh : ∀ value earlier,
    ⟨.allocate earlier, .issued (memory.allocate value).2⟩ ∉ history
  read_iff : ∀ handle value,
    memory.read handle = .ok value ↔ Ledger.ofHistory history handle = .live value
  free_iff : ∀ handle value,
    (∃ next, memory.free handle = .ok (next, value)) ↔
      Ledger.ofHistory history handle = .live value
  write_iff : ∀ handle new,
    (∃ next, memory.write handle new = .ok next) ↔
      ∃ value, Ledger.ofHistory history handle = .live value
  /-- A handle that was freed is recognised for good. -/
  stale : ∀ handle, Ledger.ofHistory history handle = .vacated ∨
      Ledger.ofHistory history handle = .reused →
    memory.read handle = .error (.staleHandle handle) ∧
      ∀ new, memory.write handle new = .error (.staleHandle handle)
  free_vacated : ∀ handle, Ledger.ofHistory history handle = .vacated →
    memory.free handle = .error (.doubleFree handle)
  free_reused : ∀ handle, Ledger.ofHistory history handle = .reused →
    memory.free handle = .error (.staleHandle handle)
  refused : ∀ request error, (memory.serve request).2 = .refused error →
    (memory.serve request).1 = memory
  /-- A request leaves the values of all other handles alone. -/
  others : ∀ request other value, Ledger.ofHistory history other = .live value →
    request.handle? ≠ some other → (memory.serve request).1.read other = .ok value

section Answers

variable {memory : Memory} {handle : Handle}

theorem past_of_freed (freed : memory.ledger handle = .vacated ∨ memory.ledger handle = .reused) :
    handle.generation < (memory.cell handle).generation := by
  rcases freed with vacated | reused
  · exact (Slot.fate_eq_vacated_iff.mp vacated).1
  · exact (Slot.fate_eq_reused_iff.mp reused).1

theorem live_of_freed (freed : memory.ledger handle = .vacated ∨ memory.ledger handle = .reused) :
    memory.live handle = .error (.staleHandle handle) := by
  have touched := touched_of_past (past_of_freed freed)
  exact live_of_touched touched.1 touched.2

/-- Of the two checks that free makes on an empty slot, the one for the handle freed
last comes first. -/
theorem free_of_vacated (vacated : memory.ledger handle = .vacated) :
    memory.free handle = .error (.doubleFree handle) := by
  have touched := touched_of_past (past_of_freed (Or.inl vacated))
  rw [free, slot?_of_cell touched.1]
  exact if_pos (Slot.fate_eq_vacated_iff.mp vacated).2

theorem free_of_reused (reused : memory.ledger handle = .reused) :
    memory.free handle = .error (.staleHandle handle) := by
  have touched := touched_of_past (past_of_freed (Or.inr reused))
  rw [free, slot?_of_cell touched.1]
  simp only [if_neg (Slot.fate_eq_reused_iff.mp reused).2, if_neg touched.2]

theorem free_eq_ok_iff (value : Value) :
    (∃ next, memory.free handle = .ok (next, value)) ↔ memory.ledger handle = .live value := by
  rw [ledger_eq_live_iff]
  by_cases fits : Fits (memory.cell handle) handle
  · simp [free_of_fits fits, fits]
  · rcases free_of_not_fits fits with ⟨error, failed⟩
    simp [failed, fits]

theorem write_eq_ok_iff (new : Value) :
    (∃ next, memory.write handle new = .ok next) ↔
      ∃ value, memory.ledger handle = .live value := by
  simp only [ledger_eq_live_iff]
  by_cases fits : Fits (memory.cell handle) handle
  · simp [write_of_fits fits, fits]
  · rcases write_of_not_fits fits new with ⟨error, failed⟩
    simp [failed, fits]

theorem serve_of_refused {request : Request} {error : MemoryError}
    (refused : (memory.serve request).2 = .refused error) :
    (memory.serve request).1 = memory := by
  have served := memory.served_serve request
  generalize (memory.serve request).1 = next at served ⊢
  rw [refused] at served
  cases served with
  | refused => rfl

end Answers

/-- Memory refines the ledger of its history.  After any sequence of requests, with
pages of any size up to `2 ^ 32`, it issues only new handles; a handle can be used
exactly as long as it has not been freed, and stands for the value given last; a
handle that was freed is refused for the reason that fits what has become of its
place; a refusal changes nothing, and no request touches the value of another
handle. -/
theorem run_honours_history {pageSize : Nat} (bounded : pageSize ≤ UInt32.size)
    (requests : List Request) (small : (Session.run pageSize requests).Small) :
    Honours (Session.run pageSize requests).memory (Session.run pageSize requests).history := by
  have faithful := Session.faithful_run bounded requests small.numbered
  have pages := small.pages
  generalize Session.run pageSize requests = session at faithful pages ⊢
  rcases faithful with ⟨formed, slots, books, -⟩
  constructor
  · intro value earlier issued
    have allocated := allocated_allocate formed slots value
      (Nat.le_trans (session.memory.pages_allocate_le value) pages)
    apply Ledger.ofHistory_ne_unissued issued
    rw [← books]
    exact allocated.ledger_unissued
  · intro handle value
    rw [← books, read_eq_ok_iff, ledger_eq_live_iff]
  · intro handle value
    rw [← books]
    exact free_eq_ok_iff value
  · intro handle new
    rw [← books]
    exact write_eq_ok_iff new
  · intro handle freed
    rw [← books] at freed
    have failed := live_of_freed freed
    constructor
    · rw [read, failed]
      rfl
    · intro new
      rw [write, failed]
      rfl
  · intro handle vacated
    rw [← books] at vacated
    exact free_of_vacated vacated
  · intro handle reused
    rw [← books] at reused
    exact free_of_reused reused
  · intro request error failed
    exact serve_of_refused failed
  · intro request other value live apart
    rw [← books, ledger_eq_live_iff] at live
    have kept := (session.memory.served_serve request).cell_eq formed slots pages live.1 apart
    rw [read_eq_ok_iff, kept]
    exact live

/-- The only slot of a memory is taken, given back, taken again and given back. -/
def recycling : List Request :=
  [.allocate (.integer 1), .free ⟨0, 0, 0⟩, .allocate (.integer 2), .free ⟨0, 0, 1⟩]

/-- Of the two handles that were freed, one has lost its place to the other. -/
theorem recycling_honours_history :
    (Session.run 1 recycling).Small ∧
      Ledger.ofHistory (Session.run 1 recycling).history ⟨0, 0, 0⟩ = .reused ∧
      (Session.run 1 recycling).memory.free ⟨0, 0, 0⟩ = .error (.staleHandle ⟨0, 0, 0⟩) ∧
      Ledger.ofHistory (Session.run 1 recycling).history ⟨0, 0, 1⟩ = .vacated ∧
      (Session.run 1 recycling).memory.free ⟨0, 0, 1⟩ = .error (.doubleFree ⟨0, 0, 1⟩) := by
  have small : (Session.run 1 recycling).Small := by
    refine ⟨by decide, fun place => ?_⟩
    exact Nat.lt_of_le_of_lt List.countP_le_length (by decide)
  have honours := run_honours_history (by decide) recycling small
  have lost : Ledger.ofHistory (Session.run 1 recycling).history ⟨0, 0, 0⟩ = .reused := by
    decide
  have left : Ledger.ofHistory (Session.run 1 recycling).history ⟨0, 0, 1⟩ = .vacated := by
    decide
  exact ⟨small, lost, honours.free_reused _ lost, left, honours.free_vacated _ left⟩

end Memory
end CommandMachine
