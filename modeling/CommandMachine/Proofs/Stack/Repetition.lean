import CommandMachine.Engine.Execute
import Mathlib.Data.List.Induction
namespace CommandMachine

/-!
# Dropping repeated values

The evaluation stack is scanned from its oldest value on, and a value is dropped if it
compares equal to one of those kept before it.  The comparison is no equality: a float
that is not a number differs from itself, and the two zeros are the same.  So nothing
can be said through sets of values.  What is kept is told by the places on the stack
instead: a place stays if its value compares equal to none of those that stay before it.
-/

/-- What is not a number compares equal to nothing, itself included. -/
theorem Value.same_of_isNaN {number : Float} (undefined : number.isNaN = true) (value : Value) :
    value.same (.float number) = false := by
  cases value with
  | float other =>
      change (other.toModel.unpack.compare number.toModel.unpack == some .eq) = false
      change number.toModel.unpack.isNaN = true at undefined
      generalize number.toModel.unpack = unpacked at undefined ⊢
      cases unpacked with
      | notANumber => cases other.toModel.unpack <;> rfl
      | infinity sign | zero sign | finite sign mantissa exponent positive => cases undefined
  | unset => rfl
  | integer other => rfl
  | text content => rfl
  | handle address => rfl

namespace EvaluationStack

/-! ## The scan -/

/-- The scan goes on from what it has kept. -/
theorem distinct_append (kept first second : List Value) :
    distinct kept (first ++ second) =
      distinct kept first ++ distinct (kept ++ distinct kept first) second := by
  induction first generalizing kept with
  | nil => simp [distinct]
  | cons value rest ih =>
      by_cases repeated : kept.any (fun earlier => earlier.same value) = true
      · simp only [List.cons_append, distinct, if_pos repeated, ih]
      · simp only [List.cons_append, distinct, if_neg repeated, ih, List.append_assoc,
          List.nil_append]

/-- A last value is kept unless one of those kept before compares equal to it. -/
theorem distinct_concat (values : List Value) (value : Value) :
    distinct [] (values ++ [value]) = distinct [] values ++
      if (distinct [] values).any (fun earlier => earlier.same value) then [] else [value] := by
  rw [distinct_append, List.nil_append]
  rfl

/-- Nothing that is kept compares equal to what is kept before it. -/
theorem distinct_pairwise (values : List Value) :
    (distinct [] values).Pairwise fun earlier later => earlier.same later = false := by
  induction values using List.reverseRecOn with
  | nil => exact .nil
  | append_singleton values value ih =>
      rw [distinct_concat]
      split
      · rwa [List.append_nil]
      · rename_i new
        refine List.pairwise_append.mpr ⟨ih, List.pairwise_singleton _ _, ?_⟩
        intro earlier kept later last
        rw [List.mem_singleton.mp last]
        refine Bool.eq_false_iff.mpr fun same => new ?_
        exact List.any_eq_true.mpr ⟨earlier, kept, same⟩

/-- The scan leaves a list alone in which nothing compares equal to what stands before. -/
theorem distinct_of_pairwise {values : List Value}
    (apart : values.Pairwise fun earlier later => earlier.same later = false) :
    distinct [] values = values := by
  induction values using List.reverseRecOn with
  | nil => rfl
  | append_singleton values value ih =>
      rcases List.pairwise_append.mp apart with ⟨before, -, last⟩
      have new : (values.any fun earlier => earlier.same value) = false := by
        refine List.any_eq_false.mpr fun earlier member same => ?_
        simp [last earlier member value (List.mem_singleton.mpr rfl)] at same
      rw [distinct_concat, ih before, new, if_neg Bool.false_ne_true]

/-! ## Places -/

/-- Whether the value at a place stays: none of those kept before compares equal to it. -/
def stays (values : List Value) (place : Nat) : Bool :=
  match values[place]? with
  | some value => !(distinct [] (values.take place)).any fun earlier => earlier.same value
  | none => false

theorem stays_append {values : List Value} {place : Nat} (inside : place < values.length)
    (more : List Value) : stays (values ++ more) place = stays values place := by
  unfold stays
  rw [List.getElem?_append_left inside, List.take_append_of_le_length (Nat.le_of_lt inside)]

theorem stays_take {values : List Value} {place bound : Nat} (inside : place < bound)
    (short : bound ≤ values.length) : stays (values.take bound) place = stays values place := by
  have present : place < (values.take bound).length := by
    rw [List.length_take]
    omega
  calc stays (values.take bound) place
      = stays (values.take bound ++ values.drop bound) place := (stays_append present _).symm
    _ = stays values place := by rw [List.take_append_drop]

/-- The values at the places that stay, or at those that do not, in their order. -/
def selected (stays : Nat → Bool) (values : List Value) : List Value :=
  (values.zipIdx.filter fun entry => stays entry.2).map Prod.fst

theorem selected_sublist (stays : Nat → Bool) (values : List Value) :
    (selected stays values).Sublist values := by
  have part : (selected stays values).Sublist (values.zipIdx.map Prod.fst) :=
    List.filter_sublist.map Prod.fst
  rwa [List.zipIdx_map_fst] at part

theorem mem_selected {stays : Nat → Bool} {values : List Value} {value : Value} :
    value ∈ selected stays values ↔
      ∃ place, values[place]? = some value ∧ stays place = true := by
  constructor
  · intro member
    rcases List.mem_map.mp member with ⟨⟨found, place⟩, listed, rfl⟩
    rcases List.mem_filter.mp listed with ⟨present, stays⟩
    exact ⟨place, List.mem_zipIdx_iff_getElem?.mp present, stays⟩
  · rintro ⟨place, present, stays⟩
    refine List.mem_map.mpr ⟨(value, place), List.mem_filter.mpr ⟨?_, stays⟩, rfl⟩
    exact List.mem_zipIdx_iff_getElem?.mpr present

/-- A place either stays or does not. -/
theorem length_selected_add (stays : Nat → Bool) (values : List Value) :
    (selected stays values).length + (selected (fun place => !stays place) values).length =
      values.length := by
  have split := List.length_eq_countP_add_countP
    (fun entry : Value × Nat => stays entry.2) (l := values.zipIdx)
  simp only [List.countP_eq_length_filter, List.length_zipIdx, Bool.not_eq_true,
    Bool.decide_eq_false] at split
  rw [selected, selected, List.length_map, List.length_map, ← split]

theorem selected_concat (stays : Nat → Bool) (values : List Value) (value : Value) :
    selected stays (values ++ [value]) =
      selected stays values ++ if stays values.length then [value] else [] := by
  rw [selected, selected, List.zipIdx_append, List.filter_append, List.map_append]
  cases last : stays values.length with
  | true => simp [last]
  | false => simp [last]

/-- What is kept stands at the places that stay. -/
theorem distinct_eq_selected (values : List Value) :
    distinct [] values = selected (stays values) values := by
  induction values using List.reverseRecOn with
  | nil => rfl
  | append_singleton values value ih =>
      have before :
          selected (stays (values ++ [value])) values = selected (stays values) values := by
        unfold selected
        congr 1
        refine List.filter_congr fun entry listed => ?_
        have present := List.mem_zipIdx_iff_getElem?.mp listed
        exact stays_append (List.getElem?_eq_some_iff.mp present).1 [value]
      have last : stays (values ++ [value]) values.length =
          !(distinct [] values).any fun earlier => earlier.same value := by
        simp [stays]
      rw [distinct_concat, selected_concat, before, ← ih, last]
      cases (distinct [] values).any fun earlier => earlier.same value <;> rfl

/-- A value is dropped because of one before it that is kept. -/
theorem exists_of_not_stays {values : List Value} {place : Nat} {value : Value}
    (present : values[place]? = some value) (dropped : stays values place = false) :
    ∃ other < place, stays values other = true ∧ ∃ earlier, values[other]? = some earlier ∧
      earlier.same value = true := by
  have inside := (List.getElem?_eq_some_iff.mp present).1
  simp only [stays, present, Bool.not_eq_false'] at dropped
  rcases List.any_eq_true.mp dropped with ⟨earlier, kept, same⟩
  rw [distinct_eq_selected] at kept
  rcases mem_selected.mp kept with ⟨other, found, remains⟩
  have before : other < place := by
    have bound := (List.getElem?_eq_some_iff.mp found).1
    rw [List.length_take] at bound
    omega
  rw [List.getElem?_take_of_lt before] at found
  rw [stays_take before (Nat.le_of_lt inside)] at remains
  exact ⟨other, before, remains, earlier, found, same⟩

/-! ## Stacks -/

theorem toList_dedup (stack : EvaluationStack) : stack.dedup.toList = distinct [] stack.toList := by
  simp only [toList, dedup, List.reverse_reverse]

theorem length_toList (stack : EvaluationStack) : stack.toList.length = stack.depth :=
  List.length_reverse

/-- How many values are dropped as repeated ones. -/
def repetitions (stack : EvaluationStack) : Nat :=
  stack.depth - stack.dedup.depth

theorem depth_dedup_le (stack : EvaluationStack) : stack.dedup.depth ≤ stack.depth := by
  rw [← length_toList, ← length_toList, toList_dedup, distinct_eq_selected]
  exact (selected_sublist _ _).length_le

theorem dedup_dedup (stack : EvaluationStack) : stack.dedup.dedup = stack.dedup := by
  have settled : distinct [] stack.dedup.toList = stack.dedup.toList := by
    rw [toList_dedup]
    exact distinct_of_pairwise (distinct_pairwise _)
  unfold dedup at settled ⊢
  simp only [toList, List.reverse_reverse] at settled ⊢
  rw [settled]

/-- What has become of a stack from which the repeated values were dropped, the count of
them included.  `stays` tells the places that are kept. -/
structure Deduplicates (before after : EvaluationStack) (count : Nat) (stays : Nat → Bool) :
    Prop where
  /-- The values that are kept stand in their old order. -/
  kept : after.toList = selected stays before.toList
  sublist : after.toList.Sublist before.toList
  /-- None of them compares equal to an earlier one. -/
  apart : after.toList.Pairwise fun earlier later => earlier.same later = false
  /-- A value is dropped only for one that stood before it and is kept. -/
  dropped : ∀ place value, before.toList[place]? = some value → stays place = false →
    ∃ other < place, stays other = true ∧ ∃ earlier, before.toList[other]? = some earlier ∧
      earlier.same value = true
  /-- The count is that of the values dropped. -/
  count_eq : count = (selected (fun place => !stays place) before.toList).length
  /-- What is not a number is never dropped. -/
  undefined : ∀ place number, before.toList[place]? = some (.float number) →
    number.isNaN = true → stays place = true
  capacity : after.capacity = before.capacity
  evicted : after.evicted = before.evicted

/-- **Only repetitions are dropped, and all of them.**  Whatever is on a stack, those
places are kept whose value compares equal to none of the values kept before it, and it
is counted how many are not.  What is left has no repetitions any more. -/
theorem dedup_deduplicates (stack : EvaluationStack) :
    (∃ stays, stack.Deduplicates stack.dedup stack.repetitions stays) ∧
      stack.dedup.dedup = stack.dedup ∧ stack.dedup.repetitions = 0 := by
  have kept : stack.dedup.toList = selected (stays stack.toList) stack.toList := by
    rw [toList_dedup, distinct_eq_selected]
  have counted := length_selected_add (stays stack.toList) stack.toList
  rw [← kept, length_toList, length_toList] at counted
  refine ⟨⟨stays stack.toList, ?_⟩, stack.dedup_dedup, ?_⟩
  · refine ⟨kept, kept ▸ selected_sublist _ _, ?_, fun _ _ => exists_of_not_stays, ?_, ?_, rfl, rfl⟩
    · rw [toList_dedup]
      exact distinct_pairwise _
    · unfold repetitions
      omega
    · intro place number present undefined
      simp [stays, present, Value.same_of_isNaN undefined]
  · rw [repetitions, dedup_dedup, Nat.sub_self]

/-- Two values that are not a number stay both; of the two zeros only the first does. -/
example :
    let stack : EvaluationStack := ⟨[.float (-0.0), .float (0.0 / 0.0), .integer 0, .integer 0,
      .float 0.0, .float (0.0 / 0.0)], 8, 0⟩
    stack.dedup.items = [.float (0.0 / 0.0), .integer 0, .float 0.0, .float (0.0 / 0.0)] ∧
      stack.repetitions = 2 := by
  decide +kernel

end EvaluationStack
end CommandMachine
