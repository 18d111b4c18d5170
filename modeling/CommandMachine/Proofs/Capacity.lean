import CommandMachine.Proofs.Lockstep
namespace CommandMachine

/-!
# The capacity of the evaluation stack

An engine with a smaller evaluation stack forgets values that an engine with a
larger one still has.  As long as the program does not ask for one of these, it
cannot tell the difference: the smaller stack shows the most recent part of the
larger one, and everything else is equal.  Dropping repeated values is the one
operation that looks at the whole stack, so it has to be excluded.
-/

namespace EvaluationStack

/-- The stack has room for a value and holds no more values than it has room for. -/
structure Sized (stack : EvaluationStack) : Prop where
  positive : 0 < stack.capacity
  depth_le : stack.depth ≤ stack.capacity

theorem sized_ofCapacity (capacity : Nat) : (ofCapacity capacity).Sized :=
  ⟨Nat.le_max_right capacity 1, Nat.zero_le _⟩

/-- A push keeps as many of the old values as leave room for the new one. -/
theorem Sized.push_items {stack : EvaluationStack} (sized : stack.Sized) (value : Value) :
    (stack.push value).items = value :: stack.items.take (stack.capacity - 1) := by
  have bound := sized.depth_le
  unfold push isFull depth at *
  by_cases full : stack.items.length = stack.capacity
  · rw [if_pos (beq_iff_eq.mpr full), ← full, ← List.dropLast_eq_take]
  · rw [if_neg fun same => full (beq_iff_eq.mp same), List.take_of_length_le (by omega)]

theorem push_capacity (stack : EvaluationStack) (value : Value) :
    (stack.push value).capacity = stack.capacity := by
  unfold push
  split <;> rfl

theorem Sized.push {stack : EvaluationStack} (sized : stack.Sized) (value : Value) :
    (stack.push value).Sized := by
  have positive := sized.positive
  refine ⟨(stack.push_capacity value).symm ▸ positive, ?_⟩
  rw [depth, sized.push_items, push_capacity, List.length_cons, List.length_take]
  omega

theorem Sized.compact {stack : EvaluationStack} (sized : stack.Sized) (window : Nat) :
    (stack.compact window).Sized := by
  refine ⟨sized.positive, ?_⟩
  change (stack.items.take (min window stack.capacity)).length ≤ stack.capacity
  rw [List.length_take]
  omega

theorem pop?_of_nil {stack : EvaluationStack} (empty : stack.items = []) :
    stack.pop? = none := by
  rw [pop?, empty]

theorem pop?_of_cons {stack : EvaluationStack} {value : Value} {rest : List Value}
    (top : stack.items = value :: rest) :
    stack.pop? = some (value, { stack with items := rest }) := by
  rw [pop?, top]

/-- The first stack shows the most recent part of the second one and has no more room. -/
structure Shows (left right : EvaluationStack) : Prop where
  recent : left.items <+: right.items
  capacity_le : left.capacity ≤ right.capacity
  left_sized : left.Sized
  right_sized : right.Sized

section Shows

variable {left right : EvaluationStack}

theorem take_isPrefix_take {first second : List Value} (recent : first <+: second)
    {few many : Nat} (le : few ≤ many) : first.take few <+: second.take many := by
  refine List.prefix_take_iff.mpr ⟨(List.take_prefix few first).trans recent, ?_⟩
  exact Nat.le_trans (List.length_take_le few first) le

theorem Shows.push (shows : left.Shows right) (value : Value) :
    (left.push value).Shows (right.push value) := by
  refine ⟨?_, ?_, shows.left_sized.push value, shows.right_sized.push value⟩
  · rw [shows.left_sized.push_items, shows.right_sized.push_items, List.prefix_cons_inj]
    exact take_isPrefix_take shows.recent (Nat.sub_le_sub_right shows.capacity_le 1)
  · rw [push_capacity, push_capacity]
    exact shows.capacity_le

/-- The larger window is cut down at least as far as the smaller one. -/
theorem Shows.compact (shows : left.Shows right) {few many : Nat} (le : few ≤ many) :
    (left.compact few).Shows (right.compact many) where
  recent := take_isPrefix_take shows.recent
    (Nat.le_min.mpr ⟨Nat.le_trans (Nat.min_le_left _ _) le,
      Nat.le_trans (Nat.min_le_right _ _) shows.capacity_le⟩)
  capacity_le := shows.capacity_le
  left_sized := shows.left_sized.compact few
  right_sized := shows.right_sized.compact many

theorem Shows.clear (shows : left.Shows right) : left.clear.Shows right.clear :=
  ⟨List.nil_prefix, shows.capacity_le, ⟨shows.left_sized.positive, Nat.zero_le _⟩,
    ⟨shows.right_sized.positive, Nat.zero_le _⟩⟩

theorem Shows.pop (shows : left.Shows right) :
    PopAlike Shows True left.pop? right.pop? := by
  have fitsLeft := shows.left_sized.depth_le
  have fitsRight := shows.right_sized.depth_le
  cases top : left.items with
  | nil =>
      rw [pop?_of_nil top]
      cases right.pop? with
      | none => exact .neither
      | some popped => exact .second trivial popped
  | cons value rest =>
      rcases shows.recent with ⟨older, whole⟩
      rw [top, List.cons_append] at whole
      rw [depth, top, List.length_cons] at fitsLeft
      rw [depth, ← whole, List.length_cons] at fitsRight
      rw [pop?_of_cons top, pop?_of_cons whole.symm]
      exact .both value ⟨⟨older, rfl⟩, shows.capacity_le,
        ⟨shows.left_sized.positive, Nat.le_of_succ_le fitsLeft⟩,
        ⟨shows.right_sized.positive, Nat.le_of_succ_le fitsRight⟩⟩

/-- Read from the oldest value on, the most recent part is the end. -/
theorem Shows.toList_suffix (shows : left.Shows right) : left.toList <:+ right.toList :=
  List.reverse_suffix.mpr shows.recent

end Shows

theorem shows_ofCapacity {small large : Nat} (le : small ≤ large) :
    (ofCapacity small).Shows (ofCapacity large) where
  recent := List.nil_prefix
  capacity_le := by
    change max small 1 ≤ max large 1
    omega
  left_sized := sized_ofCapacity small
  right_sized := sized_ofCapacity large

end EvaluationStack

/-- Engines whose registers are equal, and of whose stacks the first shows the most
recent part of the second. -/
def Coupling.recent : Coupling where
  onStacks := EvaluationStack.Shows
  registers := Eq
  events := Eq
  lenient := True
  push := fun shows value => shows.push value
  pop := fun shows => shows.pop
  clear := fun shows => shows.clear
  compact := fun shows window => shows.compact (Nat.le_refl window)
  compactFull := fun shows => shows.compact shows.capacity_le
  allocate := fun same name => by rw [same]
  write := fun same name value => by rw [same]
  read := fun same name => by rw [same]
  sweep := fun same => by rw [same]
  evicted := fun same => by rw [same]
  same := fun _ => rfl

/-- The settings with room for another number of values on the evaluation stack. -/
def Settings.withStackSize (settings : Settings) (stackSize : Nat) : Settings :=
  { settings with stackSize }

namespace Engine

variable (settings : Settings)

theorem step_withStackSize (engine : Engine) (program : Program) (stackSize : Nat)
    (surroundings : Surroundings) :
    engine.step ⟨program, settings.withStackSize stackSize⟩ surroundings =
      engine.step ⟨program, settings⟩ surroundings :=
  rfl

/-- Once the engine is there, the settings decide nothing by the room for values. -/
theorem march_withStackSize (engine : Engine) (program : Program) (stackSize : Nat)
    (answers : List Surroundings) :
    engine.march ⟨program, settings.withStackSize stackSize⟩ answers =
      engine.march ⟨program, settings⟩ answers := by
  induction answers generalizing engine with
  | nil => rfl
  | cons now later ih =>
      rw [march, march, step_withStackSize]
      dsimp only
      rw [ih]

theorem recent_create {small large : Nat} (le : small ≤ large) (thread : ThreadId)
    (entry : Nat) (stores : Stores) (faults : FaultSource) :
    Coupling.recent.Coupled (create (settings.withStackSize small) thread entry stores faults)
      (create (settings.withStackSize large) thread entry stores faults) := by
  have started : Coupling.recent.Coupled
      (create (settings.withStackSize small) thread entry stores faults)
      ((create (settings.withStackSize small) thread entry stores faults).refit
        (.ofCapacity large) stores.registers) :=
    .intro (EvaluationStack.shows_ofCapacity le) rfl
  exact started

/-- The capacity of the evaluation stack matters only through underflow.  Take two new
engines of a program that never drops repeated values, alike but for the room on
their stacks, and let them take any number of steps with the same answers.  Unless
the one with less room has run out of values, they are at the same place in the
same state, with the same calls, registers, memory and events, and the smaller
stack is the most recent part of the larger one. -/
theorem march_ignores_capacity {program : Program} (lacking : program.Lacks .optimize)
    {small large : Nat} (le : small ≤ large) (thread : ThreadId) (entry : Nat)
    (stores : Stores) (faults : FaultSource) (answers : List Surroundings) :
    let left := (create (settings.withStackSize small) thread entry stores faults).march
      ⟨program, settings.withStackSize small⟩ answers
    let right := (create (settings.withStackSize large) thread entry stores faults).march
      ⟨program, settings.withStackSize large⟩ answers
    ¬ left.1.Underflowed →
      left.1.counter = right.1.counter ∧ left.1.status = right.1.status ∧
      left.1.steps = right.1.steps ∧ left.1.calls = right.1.calls ∧
      left.1.stores.registers = right.1.stores.registers ∧
      left.1.stores.memory = right.1.stores.memory ∧
      Report.events left.2 = Report.events right.2 ∧
      left.1.stack.toList <:+ right.1.stack.toList := by
  intro left right supplied
  have keeps : Coupling.recent.Keeps left right := by
    have coupled := recent_create settings le thread entry stores faults
    unfold left right
    rw [march_withStackSize, march_withStackSize]
    exact coupled.march (Or.inr lacking) answers
  cases keeps with
  | underflow _ underflowed => exact absurd underflowed supplied
  | agrees engines shown =>
      generalize left.1 = first, right.1 = second at engines ⊢
      have suffix := engines.onStacks.toList_suffix
      cases engines with
      | intro onStacks files =>
          exact ⟨rfl, rfl, rfl, rfl, files, rfl, List.forall₂_eq_eq_eq ▸ shown, suffix⟩

/-- A program that reads three values but uses only the two most recent ones. -/
def forgetful : Program where
  code := [⟨.ofOp .write [.register "a", .literal (.integer 1)], 1⟩,
    ⟨.ofOp .write [.register "b", .literal (.integer 2)], 2⟩, ⟨.ofOp .read [.register "a"], 3⟩,
    ⟨.ofOp .read [.register "b"], 4⟩, ⟨.ofOp .read [.register "a"], 5⟩, ⟨.ofOp .flowCmp [], 6⟩,
    ⟨.ofOp .add [], 7⟩, ⟨.ofOp .print [], 8⟩, ⟨.ofOp .read [.register "b"], 9⟩]

/-- An engine with room for `stackSize` values after nine steps of that program. -/
def forgetfulMarch (stackSize : Nat) : Engine × List Report :=
  (create (Settings.standard.withStackSize stackSize) .initial 0 (.empty .standard)
    (.ofSeed 7)).march ⟨forgetful, Settings.standard.withStackSize stackSize⟩
    (List.replicate 9 (.alone .text))

/-- With room for two values the first one is lost, and nobody notices. -/
theorem forgetful_ignores_capacity :
    forgetful.Lacks .optimize ∧ ¬ (forgetfulMarch 2).1.Underflowed ∧
      (forgetfulMarch 2).1.stack.toList = [.integer 2] ∧
      (forgetfulMarch 3).1.stack.toList = [.integer 1, .integer 2] ∧
      (forgetfulMarch 2).1.counter = (forgetfulMarch 3).1.counter ∧
      (forgetfulMarch 2).1.status = (forgetfulMarch 3).1.status ∧
      Report.events (forgetfulMarch 2).2 = Report.events (forgetfulMarch 3).2 ∧
      (forgetfulMarch 2).1.stack.toList <:+ (forgetfulMarch 3).1.stack.toList := by
  have lacking : forgetful.Lacks .optimize := Program.lacks_of_code (by decide)
  have running : (forgetfulMarch 2).1.status = .running := by decide +kernel
  have supplied : ¬ (forgetfulMarch 2).1.Underflowed := by
    rintro ⟨counter, faulted⟩
    rw [running] at faulted
    cases faulted
  have le : 2 ≤ 3 := by decide
  rcases march_ignores_capacity .standard lacking le .initial 0 (.empty .standard)
    (.ofSeed 7) (List.replicate 9 (.alone .text)) supplied with
    ⟨counter, status, -, -, -, -, events, suffix⟩
  exact ⟨lacking, supplied, by decide +kernel, by decide +kernel, counter, status, events, suffix⟩

end Engine
end CommandMachine
