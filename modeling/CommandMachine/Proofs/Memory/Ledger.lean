import CommandMachine.Proofs.Memory.Slots
namespace CommandMachine

/-!
# The fate of a handle

The users of memory see requests and answers only.  From these alone one can tell of
every handle whether it was issued, which value it stands for, and, once it has been
freed, whether its place has been taken again; that is the ledger of a history.
Memory itself keeps no such books: of each place it stores a generation and a value.
Yet the fate of a handle can be read off the slot it points to, and each operation
changes the fates as the ledger says.
-/

/-! ## Ledgers -/

/-- What has become of a handle. -/
inductive Fate where
  /-- It has not been issued. -/
  | unissued
  /-- It may be used, and the value is the latest one. -/
  | live (value : Value)
  /-- It has been freed, and its place is still free. -/
  | vacated
  /-- It has been freed, and its place has been taken again since. -/
  | reused
deriving DecidableEq

/-- The fate of every handle. -/
def Ledger := Handle → Fate

namespace Ledger

/-- Nothing has been issued. -/
def empty : Ledger :=
  fun _ => .unissued

/-- A handle is issued for a value.  Handles that were freed at its place learn that
the place has been taken. -/
def issue (ledger : Ledger) (handle : Handle) (value : Value) : Ledger :=
  fun other =>
    if other = handle then .live value
    else if other.place = handle.place ∧ ledger other = .vacated then .reused
    else ledger other

/-- The fate of one handle is replaced. -/
def settle (ledger : Ledger) (handle : Handle) (fate : Fate) : Ledger :=
  fun other => if other = handle then fate else ledger other

end Ledger

namespace Memory

/-- A request to memory. -/
inductive Request where
  | allocate (value : Value)
  | free (handle : Handle)
  | read (handle : Handle)
  | write (handle : Handle) (value : Value)
deriving DecidableEq

/-- The handle that a request is about, unless it asks for one. -/
def Request.handle? : Request → Option Handle
  | .allocate _ => none
  | .free handle => some handle
  | .read handle => some handle
  | .write handle _ => some handle

/-- An answer of memory. -/
inductive Reply where
  | issued (handle : Handle)
  | held (value : Value)
  | written
  | refused (error : MemoryError)
deriving DecidableEq

/-- A request with its answer. -/
structure Exchange where
  request : Request
  reply : Reply
deriving DecidableEq

/-- Serves one request. -/
def serve (memory : Memory) : Request → Memory × Reply
  | .allocate value =>
    let (next, handle) := memory.allocate value
    (next, .issued handle)
  | .free handle =>
    match memory.free handle with
    | .ok (next, value) => (next, .held value)
    | .error error => (memory, .refused error)
  | .read handle =>
    match memory.read handle with
    | .ok value => (memory, .held value)
    | .error error => (memory, .refused error)
  | .write handle value =>
    match memory.write handle value with
    | .ok next => (next, .written)
    | .error error => (memory, .refused error)

/-- Whether the exchange gave back the slot at a place. -/
def Exchange.releases (exchange : Exchange) (place : UInt32 × UInt32) : Bool :=
  match exchange with
  | ⟨.free handle, .held _⟩ => handle.place = place
  | _ => false

/-- How often the slot at a place has been given back. -/
def releases (history : List Exchange) (place : UInt32 × UInt32) : Nat :=
  history.countP fun exchange => exchange.releases place

theorem releases_cons_of_keeps {exchange : Exchange} {place : UInt32 × UInt32}
    (keeps : exchange.releases place = false) (history : List Exchange) :
    releases (exchange :: history) place = releases history place := by
  apply List.countP_cons_of_neg
  rw [keeps]
  exact Bool.false_ne_true

theorem releases_cons_free (handle : Handle) (value : Value) (history : List Exchange) :
    releases (⟨.free handle, .held value⟩ :: history) handle.place =
      releases history handle.place + 1 := by
  apply List.countP_cons_of_pos
  exact decide_eq_true rfl

theorem releases_le_cons (exchange : Exchange) (history : List Exchange)
    (place : UInt32 × UInt32) :
    releases history place ≤ releases (exchange :: history) place := by
  rw [releases, releases, List.countP_cons]
  exact Nat.le_add_right _ _

end Memory

namespace Ledger

/-- What an exchange says about the handles. -/
def record (ledger : Ledger) : Memory.Exchange → Ledger
  | ⟨.allocate value, .issued handle⟩ => ledger.issue handle value
  | ⟨.free handle, .held _⟩ => ledger.settle handle .vacated
  | ⟨.write handle value, .written⟩ => ledger.settle handle (.live value)
  | _ => ledger

/-- What a history, the latest exchange first, says about the handles. -/
def ofHistory : List Memory.Exchange → Ledger
  | [] => empty
  | latest :: earlier => (ofHistory earlier).record latest

theorem record_ne_unissued {ledger : Ledger} {handle : Handle}
    (known : ledger handle ≠ .unissued) (exchange : Memory.Exchange) :
    ledger.record exchange handle ≠ .unissued := by
  unfold record
  split
  · unfold issue
    split
    · exact Fate.noConfusion
    · split
      · exact Fate.noConfusion
      · exact known
  · unfold settle
    split
    · exact Fate.noConfusion
    · exact known
  · unfold settle
    split
    · exact Fate.noConfusion
    · exact known
  · exact known

/-- A ledger never forgets a handle. -/
theorem ofHistory_ne_unissued {history : List Memory.Exchange} {value : Value}
    {handle : Handle} (issued : ⟨.allocate value, .issued handle⟩ ∈ history) :
    ofHistory history handle ≠ .unissued := by
  induction history with
  | nil => cases issued
  | cons latest earlier ih =>
      rcases List.mem_cons.mp issued with rfl | before
      · intro unissued
        simp [ofHistory, record, issue] at unissued
      · exact record_ne_unissued (ih before) latest

end Ledger

/-! ## Fates read off the slots -/

namespace Slot

/-- What has become of the handles with a generation that point to the slot.  An
earlier generation has been freed, and its place is still free only if nobody has
used the slot since. -/
def fate (slot : Slot) (generation : UInt32) : Fate :=
  if generation < slot.generation then
    if slot.used = false ∧ slot.generation = generation + 1 then .vacated else .reused
  else if slot.used = true ∧ slot.generation = generation then .live slot.value
  else .unissued

theorem fate_of_past (slot : Slot) {generation : UInt32} (past : generation < slot.generation) :
    slot.fate generation =
      if slot.used = false ∧ slot.generation = generation + 1 then .vacated else .reused :=
  if_pos past

theorem fate_of_not_past (slot : Slot) {generation : UInt32}
    (later : ¬ generation < slot.generation) :
    slot.fate generation =
      if slot.used = true ∧ slot.generation = generation then .live slot.value else .unissued :=
  if_neg later

theorem fate_fresh (generation : UInt32) : Slot.fresh.fate generation = .unissued := by
  rw [fate_of_not_past _ UInt32.not_lt_zero]
  exact if_neg fun both => nomatch both.1

variable {slot : Slot} {generation : UInt32}

theorem fate_eq_live_iff (value : Value) :
    slot.fate generation = .live value ↔
      (slot.used = true ∧ slot.generation = generation) ∧ slot.value = value := by
  by_cases past : generation < slot.generation
  · have differs : slot.generation ≠ generation := by
      rintro rfl
      exact UInt32.lt_irrefl _ past
    rw [fate_of_past slot past]
    split <;> simp [differs]
  · rw [fate_of_not_past slot past]
    split <;> simp_all

theorem fate_eq_vacated_iff :
    slot.fate generation = .vacated ↔ generation < slot.generation ∧
      slot.used = false ∧ slot.generation = generation + 1 := by
  by_cases past : generation < slot.generation
  · rw [fate_of_past slot past]
    split <;> simp_all
  · rw [fate_of_not_past slot past]
    split <;> simp [past]

theorem fate_eq_reused_iff :
    slot.fate generation = .reused ↔ generation < slot.generation ∧
      ¬ (slot.used = false ∧ slot.generation = generation + 1) := by
  by_cases past : generation < slot.generation
  · rw [fate_of_past slot past]
    split <;> simp_all
  · rw [fate_of_not_past slot past]
    split <;> simp [past]

/-- Taking a free slot brings its generation to life, and the handle freed last loses
its place. -/
theorem fate_occupied (unused : slot.used = false) (value : Value) (generation : UInt32) :
    (Slot.mk true slot.generation value).fate generation =
      if generation = slot.generation then .live value
      else if slot.fate generation = .vacated then .reused
      else slot.fate generation := by
  by_cases present : generation = slot.generation
  · rw [if_pos present, fate_eq_live_iff]
    exact ⟨⟨rfl, present.symm⟩, rfl⟩
  · rw [if_neg present]
    by_cases past : generation < slot.generation
    · rw [fate_of_past ⟨true, slot.generation, value⟩ past, fate_of_past slot past]
      by_cases last : slot.generation = generation + 1
      · simp [unused, last]
      · simp [last]
    · rw [fate_of_not_past ⟨true, slot.generation, value⟩ past, fate_of_not_past slot past]
      simp [unused, Ne.symm present]

theorem fate_stored (used : slot.used = true) (value : Value) (generation : UInt32) :
    (Slot.mk true slot.generation value).fate generation =
      if generation = slot.generation then .live value else slot.fate generation := by
  by_cases present : generation = slot.generation
  · rw [if_pos present, fate_eq_live_iff]
    exact ⟨⟨rfl, present.symm⟩, rfl⟩
  · rw [if_neg present]
    by_cases past : generation < slot.generation
    · rw [fate_of_past ⟨true, slot.generation, value⟩ past, fate_of_past slot past, used]
    · rw [fate_of_not_past ⟨true, slot.generation, value⟩ past, fate_of_not_past slot past]
      simp [Ne.symm present]

/-- Giving a slot back retires its generation, as long as there is a next one. -/
theorem fate_released (used : slot.used = true)
    (bound : slot.generation.toNat + 1 < UInt32.size) (generation : UInt32) :
    (Slot.mk false (slot.generation + 1) .unset).fate generation =
      if generation = slot.generation then .vacated else slot.fate generation := by
  have next : (slot.generation + 1).toNat = slot.generation.toNat + 1 := by
    rw [UInt32.toNat_add]
    exact Nat.mod_eq_of_lt bound
  have past_iff : generation < slot.generation + 1 ↔
      generation = slot.generation ∨ generation < slot.generation := by
    rw [UInt32.lt_iff_toNat_lt, UInt32.lt_iff_toNat_lt, ← UInt32.toNat_inj, next]
    omega
  by_cases present : generation = slot.generation
  · rw [if_pos present, fate_eq_vacated_iff]
    exact ⟨past_iff.mpr (Or.inl present), rfl, by rw [present]⟩
  · rw [if_neg present]
    by_cases past : generation < slot.generation
    · rw [fate_of_past _ (past_iff.mpr (Or.inr past)), fate_of_past slot past]
      simp [used, Ne.symm present]
    · rw [fate_of_not_past _ (by simp [past_iff, present, past]), fate_of_not_past slot past]
      simp [Ne.symm present]

end Slot

namespace Memory

/-- What has become of every handle, as far as memory can tell. -/
def ledger (memory : Memory) : Ledger :=
  fun handle => (memory.cell handle).fate handle.generation

theorem ledger_ofPageSize (pageSize : Nat) : (ofPageSize pageSize).ledger = Ledger.empty := by
  funext handle
  exact Slot.fate_fresh handle.generation

theorem ledger_eq_live_iff {memory : Memory} {handle : Handle} (value : Value) :
    memory.ledger handle = .live value ↔
      Fits (memory.cell handle) handle ∧ (memory.cell handle).value = value :=
  Slot.fate_eq_live_iff value

/-- A handle that was freed points to a slot that has been used. -/
theorem touched_of_past {memory : Memory} {handle : Handle}
    (past : handle.generation < (memory.cell handle).generation) :
    memory.cell handle ≠ Slot.fresh ∧ ¬ Fits (memory.cell handle) handle := by
  constructor
  · intro fresh
    rw [fresh] at past
    exact UInt32.not_lt_zero past
  · intro fits
    rw [fits.2] at past
    exact UInt32.lt_irrefl _ past

section Transitions

variable {memory next : Memory} {handle : Handle}

/-- A change at one place changes only the fates of the handles that point there. -/
theorem Replaces.ledger_eq {slot : Slot} (replaces : memory.Replaces next handle slot)
    (other : Handle) :
    next.ledger other =
      if other.place = handle.place then slot.fate other.generation
      else memory.ledger other := by
  unfold ledger
  rw [replaces.cell_eq]
  split <;> rfl

theorem Allocated.ledger_issue {value : Value}
    (allocated : memory.Allocated next value handle) :
    next.ledger = memory.ledger.issue handle value := by
  funext other
  rw [allocated.toReplaces.ledger_eq, Ledger.issue]
  by_cases place : other.place = handle.place
  · have taken := Slot.fate_occupied allocated.unused value other.generation
    rw [← allocated.generation_eq] at taken
    simp only [place, true_and, if_true, Handle.eq_iff_of_place place, taken, ledger,
      memory.cell_congr place]
  · have differs : other ≠ handle := fun same => place (congrArg Handle.place same)
    simp only [place, differs, false_and, if_false]

theorem Allocated.ledger_unissued {value : Value}
    (allocated : memory.Allocated next value handle) : memory.ledger handle = .unissued := by
  unfold ledger
  rw [allocated.generation_eq, Slot.fate_of_not_past _ (UInt32.lt_irrefl _)]
  exact if_neg fun both => by simp [allocated.unused] at both

/-- A change that gives a new fate to one generation only is a change of one handle. -/
theorem Replaces.ledger_settle {slot : Slot} {fate : Fate}
    (replaces : memory.Replaces next handle slot)
    (moves : ∀ generation, slot.fate generation =
      if generation = handle.generation then fate else (memory.cell handle).fate generation) :
    next.ledger = memory.ledger.settle handle fate := by
  funext other
  rw [replaces.ledger_eq, Ledger.settle, moves]
  by_cases place : other.place = handle.place
  · simp only [if_pos place, Handle.eq_iff_of_place place, ledger, memory.cell_congr place]
  · have differs : other ≠ handle := fun same => place (congrArg Handle.place same)
    rw [if_neg place, if_neg differs]

theorem ledger_write (formed : memory.Formed) (fits : Fits (memory.cell handle) handle)
    (value : Value) :
    (memory.onPage handle fun page => page.store handle.slot.toNat value).ledger =
      memory.ledger.settle handle (.live value) := by
  have moves := Slot.fate_stored fits.1 value
  rw [fits.2] at moves
  exact (replaces_write formed fits value).ledger_settle moves

theorem ledger_free (formed : memory.Formed) (fits : Fits (memory.cell handle) handle)
    (bound : handle.generation.toNat + 1 < UInt32.size) :
    (memory.onPage handle fun page => page.release handle.slot.toNat).ledger =
      memory.ledger.settle handle .vacated := by
  rw [← fits.2] at bound
  have moves := Slot.fate_released fits.1 bound
  rw [fits.2] at moves
  exact (replaces_free formed fits).ledger_settle moves

end Transitions

end Memory
end CommandMachine
