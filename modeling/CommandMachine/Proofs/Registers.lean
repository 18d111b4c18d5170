import CommandMachine.Registers
import Mathlib.Data.List.Nodup
namespace CommandMachine
namespace RegisterFile

/-!
# What registers hold

The operations on a register file, seen through the values that can be read from
it.  Creating a register changes no value, because a register that does not exist
reads like one that holds nothing.  For the same reason sweeping changes no value
either, provided that no name occurs twice.
-/

/-- No two registers have the same name. -/
def Distinct (registers : RegisterFile) : Prop :=
  (registers.entries.map Register.name).Nodup

theorem read_of_get? {registers : RegisterFile} {name : String} {register : Register}
    (found : registers.get? name = some register) : registers.read name = register.value := by
  rw [read, found]

theorem read_of_missing {registers : RegisterFile} {name : String}
    (missing : registers.get? name = none) : registers.read name = .unset := by
  rw [read, missing]

theorem name_of_get? {registers : RegisterFile} {name : String} {register : Register}
    (found : registers.get? name = some register) : register.name = name := by
  have listed := List.find?_some found
  simpa using listed

/-! ## Creating and writing -/

theorem contains_iff {registers : RegisterFile} {name : String} :
    registers.contains name = true ↔ name ∈ registers.entries.map Register.name := by
  simp [contains, get?]

theorem allocate_of_contains {registers : RegisterFile} {name : String}
    (present : registers.contains name = true) : registers.allocate name = registers :=
  if_pos present

theorem entries_allocate_of_missing {registers : RegisterFile} {name : String}
    (missing : registers.contains name = false) :
    (registers.allocate name).entries =
      registers.entries ++ [⟨registers.nextId, name, .unset⟩] := by
  rw [allocate, if_neg (by simp [missing])]

theorem contains_allocate (registers : RegisterFile) (name : String) :
    (registers.allocate name).contains name = true := by
  cases present : registers.contains name with
  | true => rw [allocate_of_contains present, present]
  | false =>
      rw [contains_iff, entries_allocate_of_missing present]
      simp

theorem read_allocate (registers : RegisterFile) (name other : String) :
    (registers.allocate name).read other = registers.read other := by
  cases present : registers.contains name with
  | true => rw [allocate_of_contains present]
  | false =>
      rw [read, get?, entries_allocate_of_missing present, List.find?_append]
      cases found : registers.get? other with
      | some register =>
          rw [get?] at found
          rw [found, Option.some_or, read_of_get? found]
      | none =>
          rw [read_of_missing found]
          rw [get?] at found
          rw [found, Option.none_or]
          by_cases same : name = other
          · simp [same]
          · simp [same]

theorem get?_set (registers : RegisterFile) (name : String) (value : Value) (other : String) :
    (registers.set name value).get? other =
      (registers.get? other).map fun register =>
        if register.name == name then { register with value } else register := by
  have named : (fun register : Register => register.name == other) ∘
      (fun register => if register.name == name then { register with value } else register) =
      fun register => register.name == other := by
    funext register
    dsimp only [Function.comp]
    split <;> rfl
  rw [get?, set, List.find?_map, named]
  rfl

/-- Writing sets one register, which exists afterwards, and leaves the others alone. -/
theorem read_write (registers : RegisterFile) (name : String) (value : Value) (other : String) :
    (registers.write name value).read other =
      if other = name then value else registers.read other := by
  rw [write, read, get?_set]
  by_cases same : other = name
  · subst same
    have present := registers.contains_allocate other
    rcases Option.isSome_iff_exists.mp present with ⟨register, found⟩
    simp [found, name_of_get? found]
  · rw [if_neg same, ← registers.read_allocate name other]
    cases found : (registers.allocate name).get? other with
    | none => rw [Option.map_none, read_of_missing found]
    | some register =>
        have differs : (register.name == name) = false := by
          rw [name_of_get? found]
          simpa using same
        simp only [Option.map_some, differs, read_of_get? found]
        rfl

theorem distinct_empty : empty.Distinct :=
  List.nodup_nil

theorem Distinct.allocate {registers : RegisterFile} (distinct : registers.Distinct)
    (name : String) : (registers.allocate name).Distinct := by
  cases present : registers.contains name with
  | true => rwa [allocate_of_contains present]
  | false =>
      have fresh : name ∉ registers.entries.map Register.name := by
        rw [← contains_iff, present]
        exact Bool.false_ne_true
      rw [Distinct, entries_allocate_of_missing present, List.map_append, List.map_singleton]
      refine List.nodup_append.mpr ⟨distinct, List.nodup_singleton name, ?_⟩
      intro first member second last same
      rw [same, List.mem_singleton.mp last] at member
      exact fresh member

theorem Distinct.write {registers : RegisterFile} (distinct : registers.Distinct)
    (name : String) (value : Value) : (registers.write name value).Distinct := by
  have created := distinct.allocate name
  have names : (registers.write name value).entries.map Register.name =
      (registers.allocate name).entries.map Register.name := by
    rw [RegisterFile.write, RegisterFile.set, List.map_map]
    apply List.map_congr_left
    intro register _
    dsimp only [Function.comp]
    split <;> rfl
  rw [Distinct, names]
  exact created

/-! ## Sweeping -/

theorem Distinct.sweep {registers : RegisterFile} (distinct : registers.Distinct) :
    registers.sweep.Distinct :=
  distinct.sublist (List.filter_sublist.map _)

/-- Where no name occurs twice, the register that is found is the only one of its
name. -/
theorem Distinct.get?_eq_some {registers : RegisterFile} (distinct : registers.Distinct)
    {register : Register} (member : register ∈ registers.entries) :
    registers.get? register.name = some register := by
  rcases registers with ⟨entries, nextId⟩
  unfold get?
  dsimp only [Distinct] at distinct member ⊢
  induction entries with
  | nil => cases member
  | cons first rest ih =>
      rw [List.map_cons, List.nodup_cons] at distinct
      rcases List.mem_cons.mp member with rfl | later
      · exact List.find?_cons_of_pos (beq_self_eq_true _)
      · have differs : first.name ≠ register.name := fun same =>
          distinct.1 (same ▸ List.mem_map_of_mem later)
        rw [List.find?_cons_of_neg (by simpa using differs)]
        exact ih distinct.2 later

theorem Distinct.read_sweep {registers : RegisterFile} (distinct : registers.Distinct)
    (name : String) : registers.sweep.read name = registers.read name := by
  cases kept : registers.sweep.get? name with
  | some register =>
      have member := List.mem_of_find?_eq_some kept
      have listed := distinct.get?_eq_some (List.mem_of_mem_filter member)
      rw [name_of_get? kept] at listed
      rw [read_of_get? kept, read_of_get? listed]
  | none =>
      rw [read_of_missing kept]
      cases found : registers.get? name with
      | none => rw [read_of_missing found]
      | some register =>
          -- The register has been swept, so it held nothing.
          rw [read_of_get? found]
          have gone := List.find?_eq_none.mp kept register
          have named := name_of_get? found
          by_contra written
          refine gone (List.mem_filter.mpr ⟨List.mem_of_find?_eq_some found, ?_⟩) (by simp [named])
          cases unset : register.value.isUnset with
          | false => rfl
          | true => exact absurd (Value.isUnset_iff.mp unset).symm written

/-! ## What a program can tell apart -/

/-- Two files give a program the same values.  A register that does not exist, one that
holds nothing and one that holds zero are all alike. -/
def Equivalent (left right : RegisterFile) : Prop :=
  ∀ name, (left.read name).orZero = (right.read name).orZero

theorem Equivalent.allocate {left right : RegisterFile} (equivalent : left.Equivalent right)
    (name : String) : (left.allocate name).Equivalent (right.allocate name) := by
  intro other
  rw [read_allocate, read_allocate]
  exact equivalent other

theorem Equivalent.write {left right : RegisterFile} (equivalent : left.Equivalent right)
    (name : String) (value : Value) :
    (left.write name value).Equivalent (right.write name value) := by
  intro other
  rw [read_write, read_write]
  split
  · rfl
  · exact equivalent other

end RegisterFile
end CommandMachine
