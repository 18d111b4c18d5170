import CommandMachine.Proofs.Registers
import Mathlib.Data.Prod.Lex
import Mathlib.Data.String.Basic
namespace CommandMachine

/-!
# Registers in the order of their creation

A register file lists its registers in the order in which they were created.  It may as well
be kept in a table that has no order of its own and lists its contents differently each time:
the numbers that registers get when they are created only grow, so that sorting by them gives
the order back.  This holds however often registers have been swept out and created again.

The table is compared with the register file, and both with the list of names and values that
a reader of the operations would write down.
-/

namespace RegisterFile

/-- What can be asked of registers. -/
inductive Operation where
  | allocate (name : String)
  | write (name : String) (value : Value)
  | read (name : String)
  | sweep
deriving DecidableEq

inductive Answer where
  /-- The number of a register. -/
  | number (id : Nat)
  | done
  | value (content : Value)
  /-- The names of the registers that were swept out. -/
  | names (swept : List String)
deriving DecidableEq

def perform (registers : RegisterFile) : Operation → RegisterFile × Answer
  | .allocate name => (registers.allocate name, .number (registers.idOf name))
  | .write name value => (registers.write name value, .done)
  | .read name => (registers, .value (registers.read name))
  | .sweep => (registers.sweep, .names registers.unwritten)

/-- The registers after some operations, and the answers. -/
def performAll (registers : RegisterFile) : List Operation → RegisterFile × List Answer
  | [] => (registers, [])
  | operation :: later =>
    let rest := (registers.perform operation).1.performAll later
    (rest.1, (registers.perform operation).2 :: rest.2)

/-- The numbers of the registers that an operation creates. -/
def created (registers : RegisterFile) (operation : Operation) : List Nat :=
  ((registers.perform operation).1.entries.filter fun register =>
    !registers.contains register.name).map Register.id

/-- All numbers that are given to new registers, in the order in which they are given. -/
def issued (registers : RegisterFile) : List Operation → List Nat
  | [] => []
  | operation :: later =>
    registers.created operation ++ (registers.perform operation).1.issued later

/-! ## Numbers -/

/-- Registers stand in the order of their numbers, all of which have been used up. -/
structure Ordered (registers : RegisterFile) : Prop where
  distinct : registers.Distinct
  increasing : registers.entries.Pairwise fun earlier later => earlier.id < later.id
  below : ∀ register ∈ registers.entries, register.id < registers.nextId

section Numbers

variable {registers : RegisterFile}

theorem ordered_empty : empty.Ordered :=
  ⟨distinct_empty, .nil, fun _ member => absurd member List.not_mem_nil⟩

theorem nextId_allocate_of_missing {name : String}
    (missing : registers.contains name = false) :
    (registers.allocate name).nextId = registers.nextId + 1 := by
  rw [allocate, if_neg (by simp [missing])]

theorem Ordered.allocate (ordered : registers.Ordered) (name : String) :
    (registers.allocate name).Ordered := by
  cases present : registers.contains name with
  | true => rwa [allocate_of_contains present]
  | false =>
      refine ⟨ordered.distinct.allocate name, ?_, ?_⟩
      · rw [entries_allocate_of_missing present]
        refine List.pairwise_append.mpr ⟨ordered.increasing, List.pairwise_singleton _ _, ?_⟩
        intro earlier member later last
        rw [List.mem_singleton.mp last]
        exact ordered.below earlier member
      · rw [entries_allocate_of_missing present, nextId_allocate_of_missing present]
        intro register member
        rcases List.mem_append.mp member with old | new
        · exact Nat.lt_succ_of_lt (ordered.below register old)
        · rw [List.mem_singleton.mp new]
          exact Nat.lt_succ_self _

/-- Setting a value leaves names and numbers alone. -/
theorem set_keeps (name : String) (value : Value) (register : Register) :
    let changed := if register.name == name then { register with value } else register
    changed.name = register.name ∧ changed.id = register.id := by
  dsimp only
  split <;> exact ⟨rfl, rfl⟩

theorem Ordered.write (ordered : registers.Ordered) (name : String) (value : Value) :
    (registers.write name value).Ordered := by
  have fresh := ordered.allocate name
  refine ⟨ordered.distinct.write name value, ?_, fun register member => ?_⟩
  · refine List.pairwise_map.mpr (fresh.increasing.imp fun {earlier later} less => ?_)
    rw [(set_keeps name value earlier).2, (set_keeps name value later).2]
    exact less
  · rcases List.mem_map.mp member with ⟨old, listed, rfl⟩
    rw [(set_keeps name value old).2]
    exact fresh.below old listed

theorem Ordered.sweep (ordered : registers.Ordered) : registers.sweep.Ordered :=
  ⟨ordered.distinct.sweep, ordered.increasing.filter _,
    fun register member => ordered.below register (List.mem_of_mem_filter member)⟩

theorem Ordered.perform (ordered : registers.Ordered) (operation : Operation) :
    (registers.perform operation).1.Ordered := by
  cases operation with
  | allocate name => exact ordered.allocate name
  | write name value => exact ordered.write name value
  | read name => exact ordered
  | sweep => exact ordered.sweep

theorem Ordered.performAll (ordered : registers.Ordered) (operations : List Operation) :
    (registers.performAll operations).1.Ordered := by
  induction operations generalizing registers with
  | nil => exact ordered
  | cons operation later ih => exact ih (ordered.perform operation)

theorem performAll_concat (operations : List Operation) (operation : Operation) :
    registers.performAll (operations ++ [operation]) =
      (((registers.performAll operations).1.perform operation).1,
        (registers.performAll operations).2 ++
          [((registers.performAll operations).1.perform operation).2]) := by
  induction operations generalizing registers with
  | nil => rfl
  | cons first later ih =>
      rw [List.cons_append, RegisterFile.performAll, ih]
      rfl

theorem contains_of_mem {register : Register} (member : register ∈ registers.entries) :
    registers.contains register.name = true :=
  contains_iff.mpr (List.mem_map_of_mem member)

theorem filter_missing_of_subset {entries : List Register}
    (known : ∀ register ∈ entries, registers.contains register.name = true) :
    entries.filter (fun register => !registers.contains register.name) = [] :=
  List.filter_eq_nil_iff.mpr fun register member => by simp [known register member]

theorem created_allocate_of_missing {name : String}
    (missing : registers.contains name = false) :
    registers.created (.allocate name) = [registers.nextId] := by
  change List.map _ (List.filter _ (registers.allocate name).entries) = _
  rw [entries_allocate_of_missing missing, List.filter_append,
    filter_missing_of_subset fun _ => contains_of_mem, List.nil_append]
  simp [missing]

/-- Writing creates what allocating creates. -/
theorem created_write (name : String) (value : Value) :
    registers.created (.write name value) = registers.created (.allocate name) := by
  change List.map _ (List.filter _ (List.map _ (registers.allocate name).entries)) = _
  rw [List.filter_map, List.map_map]
  have names : (fun register : Register => !registers.contains register.name) ∘
      (fun register => if register.name == name then { register with value } else register) =
      fun register => !registers.contains register.name := by
    funext register
    dsimp only [Function.comp]
    rw [(set_keeps name value register).1]
  rw [names]
  refine List.map_congr_left fun register _ => ?_
  exact (set_keeps name value register).2

/-- An operation creates nothing, or a register that gets the next number. -/
theorem created_cases (operation : Operation) :
    (registers.created operation = [] ∧
        (registers.perform operation).1.nextId = registers.nextId) ∨
      (registers.created operation = [registers.nextId] ∧
        (registers.perform operation).1.nextId = registers.nextId + 1) := by
  have allocated (name : String) :
      (registers.created (.allocate name) = [] ∧
          (registers.allocate name).nextId = registers.nextId) ∨
        (registers.created (.allocate name) = [registers.nextId] ∧
          (registers.allocate name).nextId = registers.nextId + 1) := by
    cases present : registers.contains name with
    | true =>
        refine Or.inl ⟨?_, by rw [allocate_of_contains present]⟩
        change List.map _ (List.filter _ (registers.allocate name).entries) = _
        rw [allocate_of_contains present, filter_missing_of_subset fun _ => contains_of_mem]
        rfl
    | false =>
        exact Or.inr ⟨created_allocate_of_missing present, nextId_allocate_of_missing present⟩
  cases operation with
  | allocate name => exact allocated name
  | write name value =>
      rw [created_write]
      exact allocated name
  | read name =>
      refine Or.inl ⟨?_, rfl⟩
      exact congrArg (List.map _) (filter_missing_of_subset fun _ => contains_of_mem)
  | sweep =>
      refine Or.inl ⟨?_, rfl⟩
      exact congrArg (List.map _) (filter_missing_of_subset fun _ member =>
        contains_of_mem (List.mem_of_mem_filter member))

/-- No number is given twice. -/
theorem issued_increasing (registers : RegisterFile) (operations : List Operation) :
    (registers.issued operations).Pairwise (· < ·) ∧
      ∀ id ∈ registers.issued operations, registers.nextId ≤ id := by
  induction operations generalizing registers with
  | nil => exact ⟨.nil, fun _ member => absurd member List.not_mem_nil⟩
  | cons operation later ih =>
      rcases ih (registers.perform operation).1 with ⟨increasing, above⟩
      rw [issued]
      rcases registers.created_cases operation with ⟨none, same⟩ | ⟨one, next⟩
      · rw [none, List.nil_append]
        exact ⟨increasing, same ▸ above⟩
      · rw [one, List.singleton_append, List.pairwise_cons]
        rw [next] at above
        refine ⟨⟨above, increasing⟩, fun id member => ?_⟩
        rcases List.mem_cons.mp member with rfl | member
        · exact Nat.le_refl _
        · exact Nat.le_of_succ_le (above id member)

theorem mem_allocate {register : Register} {name : String}
    (member : register ∈ (registers.allocate name).entries)
    (present : registers.contains register.name = true) : register ∈ registers.entries := by
  cases known : registers.contains name with
  | true => rwa [allocate_of_contains known] at member
  | false =>
      rw [entries_allocate_of_missing known] at member
      rcases List.mem_append.mp member with old | new
      · exact old
      · rw [List.mem_singleton.mp new, known] at present
        cases present

/-- A register after an operation has a number that was there before, or a new one. -/
theorem id_mem_of_perform {operation : Operation} {register : Register}
    (member : register ∈ (registers.perform operation).1.entries) :
    register.id ∈ registers.entries.map Register.id ∨
      register.id ∈ registers.created operation := by
  cases present : registers.contains register.name with
  | false =>
      exact Or.inr (List.mem_map_of_mem (List.mem_filter.mpr ⟨member, by rw [present]; rfl⟩))
  | true =>
      refine Or.inl ?_
      cases operation with
      | allocate name => exact List.mem_map_of_mem (mem_allocate member present)
      | write name value =>
          rcases List.mem_map.mp member with ⟨old, listed, rfl⟩
          rw [(set_keeps name value old).1] at present
          rw [(set_keeps name value old).2]
          exact List.mem_map_of_mem (mem_allocate listed present)
      | read name => exact List.mem_map_of_mem member
      | sweep => exact List.mem_map_of_mem (List.mem_of_mem_filter member)

/-- All numbers of registers were given to new ones, or are there from the beginning. -/
theorem id_mem_of_performAll {operations : List Operation} {register : Register}
    (member : register ∈ (registers.performAll operations).1.entries) :
    register.id ∈ registers.entries.map Register.id ∨
      register.id ∈ registers.issued operations := by
  induction operations generalizing registers with
  | nil => exact Or.inl (List.mem_map_of_mem member)
  | cons operation later ih =>
      rw [issued, List.mem_append]
      rcases ih member with before | later
      · rcases List.mem_map.mp before with ⟨other, listed, same⟩
        rw [← same]
        rcases id_mem_of_perform listed with old | new
        · exact Or.inl old
        · exact Or.inr (Or.inl new)
      · exact Or.inr (Or.inr later)

end Numbers
end RegisterFile

open RegisterFile (Operation Answer)

/-- The names of the registers that hold nothing are not those of others. -/
theorem RegisterFile.Distinct.mem_unwritten_iff {registers : RegisterFile}
    (distinct : registers.Distinct) {register : Register}
    (member : register ∈ registers.entries) :
    register.name ∈ registers.unwritten ↔ register.value.isUnset = true := by
  constructor
  · intro named
    rcases List.mem_map.mp named with ⟨other, listed, same⟩
    rcases List.mem_filter.mp listed with ⟨present, unset⟩
    rwa [List.inj_on_of_nodup_map distinct present member same] at unset
  · intro unset
    exact List.mem_map_of_mem (List.mem_filter.mpr ⟨member, unset⟩)

theorem RegisterFile.unwritten_sweep (registers : RegisterFile) :
    registers.sweep.unwritten = [] := by
  rw [unwritten, sweep, List.filter_filter, List.map_eq_nil_iff]
  refine List.filter_eq_nil_iff.mpr fun register _ => ?_
  simp

/-! ## The list of names and values -/

/-- Names with their values, as a reader of the operations would write them down. -/
abbrev Listing :=
  List (String × Value)

namespace Listing

/-- A new name comes last and holds nothing. -/
def allocate (listing : Listing) (name : String) : Listing :=
  if listing.any fun entry => entry.1 == name then listing else listing ++ [(name, .unset)]

/-- The value is replaced where the name stands. -/
def write (listing : Listing) (name : String) (value : Value) : Listing :=
  (listing.allocate name).map fun entry => if entry.1 == name then (entry.1, value) else entry

def unwritten (listing : Listing) : Listing :=
  listing.filter fun entry => entry.2.isUnset

def sweep (listing : Listing) : Listing :=
  listing.filter fun entry => !entry.2.isUnset

def perform (listing : Listing) : Operation → Listing
  | .allocate name => listing.allocate name
  | .write name value => listing.write name value
  | .read _ => listing
  | .sweep => listing.sweep

/-- What is written down after some operations. -/
def after (operations : List Operation) : Listing :=
  operations.foldl perform []

end Listing

namespace RegisterFile

variable {registers : RegisterFile}

theorem snapshot_allocate (name : String) :
    (registers.allocate name).snapshot = Listing.allocate registers.snapshot name := by
  have listed : (registers.snapshot.any fun entry => entry.1 == name) =
      registers.contains name := by
    rw [snapshot, List.any_map, contains, get?, List.isSome_find?]
    rfl
  unfold Listing.allocate
  rw [listed]
  cases present : registers.contains name with
  | true => rw [allocate_of_contains present, if_pos rfl]
  | false =>
      rw [snapshot, entries_allocate_of_missing present, List.map_append]
      rfl

theorem snapshot_write (name : String) (value : Value) :
    (registers.write name value).snapshot = Listing.write registers.snapshot name value := by
  unfold Listing.write
  rw [← snapshot_allocate, snapshot, snapshot, List.map_map]
  change List.map _ (List.map _ _) = _
  rw [List.map_map]
  refine List.map_congr_left fun register _ => ?_
  dsimp only [Function.comp]
  split <;> rfl

theorem snapshot_perform (operation : Operation) :
    (registers.perform operation).1.snapshot = Listing.perform registers.snapshot operation := by
  cases operation with
  | allocate name => exact snapshot_allocate name
  | write name value => exact snapshot_write name value
  | read name => rfl
  | sweep =>
      change List.map _ (List.filter _ _) = List.filter _ (List.map _ _)
      rw [List.filter_map]
      rfl

/-- The snapshot is what a reader of the operations would write down. -/
theorem snapshot_performAll (operations : List Operation) :
    (registers.performAll operations).1.snapshot =
      operations.foldl Listing.perform registers.snapshot := by
  induction operations generalizing registers with
  | nil => rfl
  | cons operation later ih =>
      rw [List.foldl_cons, ← snapshot_perform]
      exact ih

end RegisterFile

/-! ## A table without an order -/

/-- Registers in a table, in the order in which it happens to list them. -/
structure Scattered where
  cells : List Register
  nextId : Nat

namespace Scattered

def get? (table : Scattered) (name : String) : Option Register :=
  table.cells.find? fun cell => cell.name == name

/-- Creates a register unless it exists.  The number of the register is returned. -/
def allocate (table : Scattered) (name : String) : Scattered × Nat :=
  (table.get? name).elim
    (⟨⟨table.nextId, name, .unset⟩ :: table.cells, table.nextId + 1⟩, table.nextId)
    fun cell => (table, cell.id)

def write (table : Scattered) (name : String) (value : Value) : Scattered :=
  let created := (table.allocate name).1
  { created with
    cells := created.cells.map fun cell =>
      if cell.name == name then { cell with value } else cell }

def read (table : Scattered) (name : String) : Value :=
  (table.get? name).elim .unset Register.value

/-- The registers that hold nothing, sorted by number and name. -/
def evicted (table : Scattered) : List (Nat × String) :=
  ((table.cells.filter fun cell => cell.value.isUnset).map fun cell =>
    (cell.id, cell.name)).mergeSort fun first second => toLex first ≤ toLex second

def remove (table : Scattered) (name : String) : Scattered :=
  { table with cells := table.cells.filter fun cell => cell.name != name }

/-- Removes the registers that hold nothing, one after the other. -/
def sweep (table : Scattered) : Scattered × List String :=
  (table.evicted.foldl (fun rest entry => rest.remove entry.2) table,
    table.evicted.map Prod.snd)

/-- Names and values, sorted by the numbers of the registers. -/
def snapshot (table : Scattered) : Listing :=
  (table.cells.mergeSort fun first second => first.id ≤ second.id).map fun cell =>
    (cell.name, cell.value)

def perform (table : Scattered) : Operation → Scattered × Answer
  | .allocate name => ((table.allocate name).1, .number (table.allocate name).2)
  | .write name value => (table.write name value, .done)
  | .read name => (table, .value (table.read name))
  | .sweep => (table.sweep.1, .names table.sweep.2)

/-- A table that has been used from the start for the operations, with the answers that it
gave.  At any time it may come to list its contents in another order. -/
inductive Runs : List Operation → Scattered → List Answer → Prop where
  | start : Runs [] ⟨[], 0⟩ []
  | rearrange {operations : List Operation} {table : Scattered} {answers : List Answer}
      {cells : List Register} (runs : Runs operations table answers)
      (same : cells.Perm table.cells) : Runs operations { table with cells } answers
  | perform {operations : List Operation} {table : Scattered} {answers : List Answer}
      (runs : Runs operations table answers) (operation : Operation) :
      Runs (operations ++ [operation]) (table.perform operation).1
        (answers ++ [(table.perform operation).2])

/-- The table holds the registers of a register file. -/
structure Represents (table : Scattered) (registers : RegisterFile) : Prop where
  cells : table.cells.Perm registers.entries
  nextId : table.nextId = registers.nextId

variable {table : Scattered} {registers : RegisterFile}

theorem Represents.get?_eq (represents : table.Represents registers)
    (distinct : registers.Distinct) (name : String) :
    table.get? name = registers.get? name := by
  let shuffled : RegisterFile := ⟨table.cells, table.nextId⟩
  have shuffledDistinct : shuffled.Distinct :=
    (represents.cells.map Register.name).nodup_iff.mpr distinct
  cases found : registers.get? name with
  | some register =>
      have listed : register ∈ table.cells :=
        represents.cells.mem_iff.mpr (List.mem_of_find?_eq_some found)
      have same : shuffled.get? register.name = some register :=
        shuffledDistinct.get?_eq_some listed
      rwa [RegisterFile.name_of_get? found] at same
  | none =>
      refine List.find?_eq_none.mpr fun cell listed => ?_
      exact List.find?_eq_none.mp found cell (represents.cells.mem_iff.mp listed)

theorem Represents.allocate (represents : table.Represents registers)
    (distinct : registers.Distinct) (name : String) :
    (table.allocate name).1.Represents (registers.allocate name) ∧
      (table.allocate name).2 = registers.idOf name := by
  unfold Scattered.allocate RegisterFile.idOf
  rw [represents.get?_eq distinct]
  cases found : registers.get? name with
  | some register =>
      have present : registers.contains name = true := by
        rw [RegisterFile.contains, found]
        rfl
      rw [RegisterFile.allocate_of_contains present]
      exact ⟨represents, rfl⟩
  | none =>
      have missing : registers.contains name = false := by
        rw [RegisterFile.contains, found]
        rfl
      refine ⟨⟨?_, ?_⟩, represents.nextId⟩
      · rw [RegisterFile.entries_allocate_of_missing missing, ← represents.nextId]
        exact (represents.cells.cons _).trans (List.perm_append_singleton _ _).symm
      · rw [RegisterFile.nextId_allocate_of_missing missing, ← represents.nextId]
        rfl

/-- Sorting by a key gives back a list in which the keys increase. -/
theorem mergeSort_of_increasing {α κ : Type} [LinearOrder κ] (key : α → κ) {cells entries : List α}
    (same : cells.Perm entries)
    (increasing : entries.Pairwise fun earlier later => key earlier < key later) :
    (cells.mergeSort fun first second => key first ≤ key second) = entries := by
  have keys : (entries.map key).Nodup := List.pairwise_map.mpr (increasing.imp ne_of_lt)
  have sorted : (cells.mergeSort fun first second => key first ≤ key second).Pairwise
      fun first second => decide (key first ≤ key second) = true := by
    refine List.pairwise_mergeSort (fun first second third => ?_) (fun first second => ?_) cells
    · simp only [decide_eq_true_eq]
      exact le_trans
    · simp only [Bool.or_eq_true, decide_eq_true_eq]
      exact le_total _ _
  have permuted := (List.mergeSort_perm cells fun first second => key first ≤ key second).trans same
  refine List.Perm.eq_of_pairwise (fun first second listed member less more => ?_) sorted
    (increasing.imp fun less => decide_eq_true (le_of_lt less)) permuted
  exact List.inj_on_of_nodup_map keys (permuted.mem_iff.mp listed) member
    (le_antisymm (of_decide_eq_true less) (of_decide_eq_true more))

theorem Represents.snapshot_eq (represents : table.Represents registers)
    (ordered : registers.Ordered) : table.snapshot = registers.snapshot :=
  congrArg (List.map _) (mergeSort_of_increasing Register.id represents.cells ordered.increasing)

/-- The registers that hold nothing are found in the order of creation. -/
theorem Represents.evicted_eq (represents : table.Represents registers)
    (ordered : registers.Ordered) :
    table.evicted =
      (registers.entries.filter fun register => register.value.isUnset).map fun register =>
        (register.id, register.name) := by
  refine mergeSort_of_increasing toLex ((represents.cells.filter _).map _) ?_
  refine List.pairwise_map.mpr ((ordered.increasing.filter _).imp fun less => ?_)
  exact Prod.Lex.toLex_lt_toLex.mpr (Or.inl less)

/-- Removing registers one after the other keeps those that are not named. -/
theorem foldl_remove (table : Scattered) (removed : List (Nat × String)) :
    removed.foldl (fun rest entry => rest.remove entry.2) table =
      { table with
        cells := table.cells.filter fun cell =>
          !(removed.map Prod.snd).contains cell.name } := by
  induction removed generalizing table with
  | nil => simp
  | cons entry later ih =>
      rw [List.foldl_cons, ih]
      simp [remove, List.filter_filter, bne, Bool.and_comm]

theorem Represents.sweep_eq (represents : table.Represents registers)
    (ordered : registers.Ordered) :
    table.sweep =
      ({ table with cells := table.cells.filter fun cell => !cell.value.isUnset },
        registers.unwritten) := by
  have names : table.evicted.map Prod.snd = registers.unwritten := by
    rw [represents.evicted_eq ordered, List.map_map]
    rfl
  rw [sweep, foldl_remove, names]
  congr 2
  refine List.filter_congr fun cell listed => ?_
  have member := represents.cells.mem_iff.mp listed
  congr 1
  rw [Bool.eq_iff_iff, List.contains_iff_mem]
  exact ordered.distinct.mem_unwritten_iff member

theorem Represents.perform (represents : table.Represents registers)
    (ordered : registers.Ordered) (operation : Operation) :
    (table.perform operation).1.Represents (registers.perform operation).1 ∧
      (table.perform operation).2 = (registers.perform operation).2 := by
  cases operation with
  | allocate name =>
      rcases represents.allocate ordered.distinct name with ⟨next, number⟩
      exact ⟨next, congrArg Answer.number number⟩
  | write name value =>
      have next := (represents.allocate ordered.distinct name).1
      exact ⟨⟨next.cells.map _, next.nextId⟩, rfl⟩
  | read name =>
      refine ⟨represents, congrArg Answer.value ?_⟩
      rw [read, RegisterFile.read, represents.get?_eq ordered.distinct]
      cases registers.get? name <;> rfl
  | sweep =>
      change Represents table.sweep.1 _ ∧ Answer.names table.sweep.2 = _
      rw [represents.sweep_eq ordered]
      exact ⟨⟨represents.cells.filter _, represents.nextId⟩, rfl⟩

theorem Runs.represents {operations : List Operation} {answers : List Answer}
    (runs : Runs operations table answers) :
    table.Represents (RegisterFile.empty.performAll operations).1 ∧
      answers = (RegisterFile.empty.performAll operations).2 := by
  induction runs with
  | start => exact ⟨⟨.nil, rfl⟩, rfl⟩
  | rearrange runs same ih => exact ⟨⟨same.trans ih.1.cells, ih.1.nextId⟩, ih.2⟩
  | perform runs operation ih =>
      rcases ih with ⟨represents, rfl⟩
      rw [RegisterFile.performAll_concat]
      rcases represents.perform (RegisterFile.ordered_empty.performAll _) operation with
        ⟨next, answer⟩
      exact ⟨next, by rw [answer]⟩

/-- A table that has been used for the operations looks like the list of names and values in
the order of their creation. -/
structure InsertionOrdered (operations : List Operation) (table : Scattered)
    (answers : List Answer) : Prop where
  /-- It holds the registers of the register file and has given the same answers. -/
  registers : table.Represents (RegisterFile.empty.performAll operations).1
  answers : answers = (RegisterFile.empty.performAll operations).2
  distinct : (table.cells.map Register.id).Nodup
  below : ∀ cell ∈ table.cells, cell.id < table.nextId
  /-- Each new register got a larger number than all before it, and kept it. -/
  fresh : (RegisterFile.empty.issued operations).Pairwise (· < ·)
  numbered : ∀ cell ∈ table.cells, cell.id ∈ RegisterFile.empty.issued operations
  /-- The snapshot lists each register once, by increasing numbers. -/
  listed : ∃ listing : List Register, listing.Perm table.cells ∧
    (listing.Pairwise fun earlier later => earlier.id < later.id) ∧
      table.snapshot = listing.map fun register => (register.name, register.value)
  once : (table.snapshot.map Prod.fst).Nodup
  snapshot : table.snapshot = Listing.after operations
  swept : table.sweep.2 = (Listing.after operations).unwritten.map Prod.fst
  /-- The other registers stay as they are, and so does the number for the next one. -/
  kept : table.sweep.1 =
    { table with cells := table.cells.filter fun cell => !cell.value.isUnset }
  remaining : table.sweep.1.snapshot = (Listing.after operations).sweep
  again : table.sweep.1.sweep = (table.sweep.1, [])

/-- **A register file is a list of names and values in the order of their creation**, even if
it is kept in a table that has no order.  This holds after any operations and in whatever
order the table lists its contents at any time. -/
theorem runs_insertionOrdered {operations : List Operation} {table : Scattered}
    {answers : List Answer} (runs : Runs operations table answers) :
    InsertionOrdered operations table answers := by
  rcases runs.represents with ⟨represents, answered⟩
  have ordered : (RegisterFile.empty.performAll operations).1.Ordered :=
    RegisterFile.ordered_empty.performAll operations
  have listing : (RegisterFile.empty.performAll operations).1.snapshot =
      Listing.after operations := RegisterFile.snapshot_performAll operations
  have snapshot := represents.snapshot_eq ordered
  -- What is left after a sweep is what the register file is left with.
  have swept := represents.sweep_eq ordered
  have left : table.sweep.1.Represents (RegisterFile.empty.performAll operations).1.sweep :=
    (represents.perform ordered .sweep).1
  refine ⟨represents, answered, ?_, fun cell member => ?_, ?_, fun cell member => ?_, ?_, ?_, ?_,
    ?_, ?_, ?_, ?_⟩
  · exact ((represents.cells.map Register.id).nodup_iff).mpr
      (List.pairwise_map.mpr (ordered.increasing.imp Nat.ne_of_lt))
  · rw [represents.nextId]
    exact ordered.below cell (represents.cells.mem_iff.mp member)
  · exact (RegisterFile.issued_increasing _ operations).1
  · rcases RegisterFile.id_mem_of_performAll (represents.cells.mem_iff.mp member) with old | new
    · cases old
    · exact new
  · exact ⟨_, represents.cells.symm, ordered.increasing, snapshot⟩
  · rw [snapshot, RegisterFile.snapshot, List.map_map]
    exact ordered.distinct
  · rw [snapshot, listing]
  · rw [swept, ← listing, Listing.unwritten, RegisterFile.snapshot, List.filter_map, List.map_map]
    rfl
  · rw [swept]
  · rw [left.snapshot_eq ordered.sweep, ← listing]
    exact RegisterFile.snapshot_perform .sweep
  · have none : (RegisterFile.empty.performAll operations).1.sweep.unwritten = [] :=
      RegisterFile.unwritten_sweep _
    rw [left.sweep_eq ordered.sweep, none, swept]
    simp

/-- A register is swept out and created again. -/
def recreation : List Operation :=
  [.allocate "b", .write "a" (.integer 1), .sweep, .allocate "b"]

/-- It gets a new number and now comes last, though the table was turned round in between. -/
theorem recreation_insertionOrdered :
    ∃ table answers, Runs recreation table answers ∧
      table.snapshot = [("a", .integer 1), ("b", .unset)] ∧
        answers = [.number 0, .done, .names ["b"], .number 2] ∧
          table.sweep.2 = ["b"] ∧ table.sweep.1.sweep = (table.sweep.1, []) := by
  have created := (Runs.start.perform (.allocate "b")).perform (.write "a" (.integer 1))
  have turned := created.rearrange (List.reverse_perm _)
  have runs := (turned.perform .sweep).perform (.allocate "b")
  have ordered := runs_insertionOrdered runs
  exact ⟨_, _, runs, ordered.snapshot.trans (by decide +kernel),
    ordered.answers.trans (by decide +kernel), ordered.swept.trans (by decide +kernel),
    ordered.again⟩

end Scattered
end CommandMachine
