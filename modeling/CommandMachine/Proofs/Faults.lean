import CommandMachine.Proofs.Protocol
import CommandMachine.Proofs.Traffic
namespace CommandMachine

/-!
# What a fault leaves behind

An operation can fail for many reasons, and some of them are found only after it has
taken its operands off the stack.  No operation has written anything by then: it takes at
most two values, checks all that can go wrong, and only then changes registers, memory or
the call stack.  So the outcome of an engine that ended in a fault shows the stores and
the place at which it failed, and the fault is the only thing that the last step shows.

An engine may also fail before its operation is executed, because its budget is used up or
its code byte means nothing.  Then not even its stack has changed.
-/

/-- The cause that an engine has used up its budget of instructions. -/
def Cause.isBudget : Cause → Bool
  | .stepLimitExceeded _ => true
  | _ => false

theorem Cause.isBudget_of_isRefusal {cause : Cause} (refusal : cause.isRefusal = true) :
    cause.isBudget = false := by
  cases cause <;> simp_all [isRefusal, isBudget]

namespace Engine

/-- An engine that has only lost the values on top of its stack, as many as `count`.  Its
source of draws and its number of attempts may have changed as well. -/
structure Sheds (count : Nat) (before after : Engine) : Prop where
  stores : after.stores = before.stores
  calls : after.calls = before.calls
  stack : after.stack = { before.stack with items := before.stack.items.drop count }

/-- If the operation fails, then it has taken at most two values, has shown nothing, and
does not complain about the budget. -/
def Careful (before : Engine) (effect : Effect) : Prop :=
  ∀ cause, effect.control = .fault cause →
    (∃ count ≤ 2, Sheds count before effect.engine) ∧ effect.events = [] ∧
      cause.isBudget = false

section Combinators

variable {before current : Engine} {count : Nat}

theorem Sheds.refl (engine : Engine) : Sheds 0 engine engine :=
  ⟨rfl, rfl, rfl⟩

theorem Sheds.pop (sheds : Sheds count before current) {value : Value} {stack : EvaluationStack}
    (popped : current.stack.pop? = some (value, stack)) :
    Sheds (count + 1) before { current with stack } := by
  refine ⟨sheds.stores, sheds.calls, ?_⟩
  have left : before.stack.items.drop (count + 1) = stack.items := by
    have top := EvaluationStack.items_of_pop? popped
    rw [sheds.stack] at top
    rw [← List.tail_drop, show before.stack.items.drop count = _ from top, List.tail_cons]
  rw [left]
  unfold EvaluationStack.pop? at popped
  split at popped
  · cases popped
  · cases popped
    rw [sheds.stack]

theorem Sheds.fault (sheds : Sheds count before current) (few : count ≤ 2) {cause : Cause}
    (other : cause.isBudget = false) : Careful before (.fault current cause) := by
  intro found same
  cases same
  exact ⟨⟨count, few, sheds⟩, rfl, other⟩

/-- Nothing is asked of an operation that does not fail. -/
theorem careful_of_control {effect : Effect}
    (succeeds : ∀ cause, effect.control ≠ .fault cause) : Careful before effect :=
  fun cause failed => absurd failed (succeeds cause)

theorem careful_next (engine : Engine) : Careful before (.next engine) :=
  careful_of_control fun _ failed => by cases failed

theorem careful_push (engine : Engine) (value : Value) : Careful before (.push engine value) :=
  careful_of_control fun _ failed => by cases failed

theorem careful_jump (engine : Engine) (target : Nat) :
    Careful before ⟨engine, [], .jump target⟩ :=
  careful_of_control fun _ failed => by cases failed

theorem Careful.after {effect : Effect} (careful : Careful before effect) {reports : List Report}
    (silent : Report.events reports = []) : Careful before (effect.after reports) := by
  intro cause failed
  rcases careful cause failed with ⟨sheds, shown, other⟩
  refine ⟨sheds, ?_, other⟩
  rw [Effect.events_after, silent, shown]
  rfl

theorem Sheds.withPop (sheds : Sheds count before current) (few : count ≤ 2)
    {use : Value → Engine → Effect}
    (careful : ∀ value stack, Sheds (count + 1) before { current with stack } →
      Careful before (use value { current with stack })) :
    Careful before (current.withPop use) := by
  unfold Engine.withPop
  cases popped : current.stack.pop? with
  | none => exact sheds.fault few rfl
  | some pair => exact careful pair.1 pair.2 (sheds.pop popped)

theorem Sheds.withPopHandle (sheds : Sheds count before current) (few : count + 1 ≤ 2) {op : Op}
    {use : Handle → Engine → Effect}
    (careful : ∀ address stack, Sheds (count + 1) before { current with stack } →
      Careful before (use address { current with stack })) :
    Careful before (current.withPopHandle op use) := by
  refine sheds.withPop (Nat.le_of_succ_le few) fun value stack taken => ?_
  cases value with
  | handle address => exact careful address stack taken
  | unset => exact taken.fault few rfl
  | integer number => exact taken.fault few rfl
  | float number => exact taken.fault few rfl
  | text content => exact taken.fault few rfl

theorem careful_withRegister {op : Op} {operands : List Operand} {use : String → Effect}
    (careful : ∀ name, Careful before (use name)) :
    Careful before (before.withRegister op operands use) := by
  unfold withRegister
  split
  · exact careful _
  · exact (Sheds.refl before).fault (by decide) rfl

theorem careful_withTarget {op : Op} {operands : List Operand} {use : Nat → Effect}
    (careful : ∀ target, Careful before (use target)) :
    Careful before (before.withTarget op operands use) := by
  unfold withTarget
  split
  · exact careful _
  · exact (Sheds.refl before).fault (by decide) rfl

end Combinators

/-! ## The handlers one by one -/

section Handlers

variable (engine : Engine) (operands : List Operand)

theorem flowCmp_careful : Careful engine (engine.flowCmp operands) := by
  unfold flowCmp
  split
  · exact careful_next _
  · split
    · exact (Sheds.refl engine).fault (by decide) rfl
    · exact careful_next _
  · exact (Sheds.refl engine).fault (by decide) rfl

theorem retry_careful {current : Engine} (sheds : Sheds 0 engine current) (policy : PingPolicy) :
    Careful engine (current.retry policy) := by
  have counted : Sheds 0 engine { current with attempts := current.attempts + 1 } :=
    ⟨sheds.stores, sheds.calls, sheds.stack⟩
  unfold retry
  dsimp only
  split
  · exact counted.fault (by decide) rfl
  · exact careful_of_control fun _ failed => by cases failed

theorem ping_careful (policy : PingPolicy) : Careful engine (engine.ping policy operands) := by
  unfold ping
  dsimp only
  split
  · exact retry_careful engine (Sheds.refl engine) policy
  · split
    · have drawn (faults : FaultSource) : Sheds 0 engine { engine with faults } :=
        ⟨rfl, rfl, rfl⟩
      exact retry_careful engine (drawn _) policy
    · exact careful_next _

theorem write_careful : Careful engine (engine.write operands) := by
  refine careful_withRegister fun name => ?_
  dsimp only
  split
  · exact careful_next _
  · exact careful_next _
  · exact (Sheds.refl engine).fault (by decide) rfl

theorem arithmetic_careful (op : Op) (operation : Arithmetic.Operation) :
    Careful engine (engine.arithmetic op operation) := by
  refine (Sheds.refl engine).withPop (by decide) fun right stack once => ?_
  refine once.withPop (by decide) fun left rest twice => ?_
  cases Arithmetic.apply operation left right with
  | ok value => exact careful_push _ value
  | error failure => cases failure <;> exact twice.fault (by decide) rfl

theorem jumpIf_careful (op : Op) (wanted : Bool) :
    Careful engine (engine.jumpIf op wanted operands) := by
  refine careful_withTarget fun target => ?_
  refine (Sheds.refl engine).withPop (by decide) fun value stack once => ?_
  split
  · exact once.fault (by decide) rfl
  · split
    · exact careful_jump _ _
    · exact careful_next _

theorem call_careful : Careful engine (engine.call operands) := by
  refine careful_withTarget fun target => ?_
  split
  · exact (Sheds.refl engine).fault (by decide) rfl
  · exact careful_jump _ _

theorem ret_careful : Careful engine engine.ret := by
  unfold ret
  split
  · exact (Sheds.refl engine).fault (by decide) rfl
  · exact careful_jump _ _

/-- An engine that was refused has divided its draws, but nothing else has happened. -/
theorem startThread_careful (surroundings : Surroundings) :
    Careful engine (engine.startThread surroundings operands) := by
  refine careful_withTarget fun entry => ?_
  have divided : Sheds 0 engine { engine with faults := engine.faults.fork.2 } := ⟨rfl, rfl, rfl⟩
  dsimp only
  split
  · exact divided.fault (by decide) rfl
  · exact careful_of_control fun _ failed => by cases failed

theorem join_careful {surroundings : Surroundings} (honest : surroundings.Honest) :
    Careful engine (engine.join surroundings) := by
  refine (Sheds.refl engine).withPop (by decide) fun value stack once => ?_
  cases value with
  | integer number =>
      dsimp only
      split
      · exact once.fault (by decide) rfl
      · cases reply : (surroundings.join number.toInt.toNat).result with
        | ok outcome => exact careful_of_control fun _ failed => by cases failed
        | error cause =>
            have other := Cause.isBudget_of_isRefusal (honest _ cause reply)
            exact (once.fault (by decide) other).after (Report.events_notices _)
  | unset => exact once.fault (by decide) rfl
  | float number => exact once.fault (by decide) rfl
  | text content => exact once.fault (by decide) rfl
  | handle address => exact once.fault (by decide) rfl

theorem print_careful : Careful engine engine.print := by
  refine (Sheds.refl engine).withPop (by decide) fun value stack once => ?_
  exact careful_of_control fun _ failed => by cases failed

theorem alloc_careful : Careful engine engine.alloc := by
  refine (Sheds.refl engine).withPop (by decide) fun value stack once => ?_
  exact careful_of_control fun _ failed => by cases failed

theorem free_careful : Careful engine engine.free := by
  refine (Sheds.refl engine).withPopHandle (by decide) fun address stack once => ?_
  dsimp only
  split
  · exact once.fault (by decide) rfl
  · exact careful_next _

theorem load_careful : Careful engine engine.load := by
  refine (Sheds.refl engine).withPopHandle (by decide) fun address stack once => ?_
  dsimp only
  split
  · exact once.fault (by decide) rfl
  · exact careful_push _ _

theorem store_careful : Careful engine engine.store := by
  refine (Sheds.refl engine).withPop (by decide) fun value stack once => ?_
  refine once.withPopHandle (by decide) fun address rest twice => ?_
  dsimp only
  split
  · exact twice.fault (by decide) rfl
  · exact careful_push _ _

/-- Every operation checks before it writes. -/
theorem execute_careful (settings : Settings) {surroundings : Surroundings}
    (honest : surroundings.Honest) (op : Op) :
    Careful engine (engine.execute settings surroundings op operands) := by
  cases op with
  | optimize => exact careful_of_control fun _ failed => by cases failed
  | allocReg => exact careful_withRegister fun _ => careful_next _
  | flowCmp => exact flowCmp_careful engine operands
  | release => exact careful_next _
  | ping => exact ping_careful engine operands settings.ping
  | sift => exact careful_of_control fun _ failed => by cases failed
  | infer => exact careful_next _
  | pause => exact careful_next _
  | write => exact write_careful engine operands
  | read => exact careful_withRegister fun _ => careful_push _ _
  | add => exact arithmetic_careful engine .add .add
  | sub => exact arithmetic_careful engine .sub .sub
  | mul => exact arithmetic_careful engine .mul .mul
  | div => exact arithmetic_careful engine .div .div
  | mod => exact arithmetic_careful engine .mod .mod
  | jump => exact careful_withTarget fun target => careful_jump _ target
  | jumpZero => exact jumpIf_careful engine operands .jumpZero true
  | jumpNonzero => exact jumpIf_careful engine operands .jumpNonzero false
  | print => exact print_careful engine
  | call => exact call_careful engine operands
  | ret => exact ret_careful engine
  | thread => exact startThread_careful engine operands surroundings
  | join => exact join_careful engine honest
  | alloc => exact alloc_careful engine
  | free => exact free_careful engine
  | load => exact load_careful engine
  | store => exact store_careful engine
  | halt => exact careful_of_control fun _ failed => by cases failed

end Handlers

/-! ## One step -/

/-- What is left of an engine that one step has ended in a fault, and what that step has
shown. -/
structure Intact (before after : Engine) (fault : Fault) (events : List Event) : Prop where
  registers : after.stores.registers = before.stores.registers
  memory : after.stores.memory = before.stores.memory
  calls : after.calls = before.calls
  counter : after.counter = before.counter
  evicted : after.stack.evicted = before.stack.evicted
  /-- At most the two most recent values are gone. -/
  stack : ∃ count ≤ 2, after.stack = { before.stack with items := before.stack.items.drop count }
  /-- The instruction is counted, unless the budget did not allow for it. -/
  steps : after.steps = if fault.cause.isBudget then before.steps else before.steps + 1
  /-- The fault names the place at which the engine still stands. -/
  place : fault.counter = before.counter
  /-- The fault is all that is shown. -/
  shown : events = [.faulted fault]

variable {engine : Engine}

theorem Sheds.intact {after : Engine} {fault : Fault} {events : List Event} {count : Nat}
    (sheds : Sheds count engine after) (few : count ≤ 2) (counter : after.counter = engine.counter)
    (steps : after.steps = if fault.cause.isBudget then engine.steps else engine.steps + 1)
    (place : fault.counter = engine.counter) (shown : events = [.faulted fault]) :
    Intact engine after fault events where
  registers := congrArg Stores.registers sheds.stores
  memory := congrArg Stores.memory sheds.stores
  calls := sheds.calls
  counter := counter
  evicted := by rw [sheds.stack]
  stack := ⟨count, few, sheds.stack⟩
  steps := steps
  place := place
  shown := shown

@[simp] theorem wake_steps (engine : Engine) : engine.wake.steps = engine.steps := by
  unfold wake
  split <;> rfl

theorem sheds_wake_raise (engine : Engine) (cause : Cause) :
    Sheds 0 engine (engine.wake.raise cause).1 :=
  ⟨engine.wake_stores, engine.wake_calls, engine.wake_stack⟩

theorem sheds_wake_tick_raise (engine : Engine) (cause : Cause) :
    Sheds 0 engine (engine.wake.tick.raise cause).1 :=
  ⟨engine.wake_stores, engine.wake_calls, engine.wake_stack⟩

theorem Sheds.of_wake_tick {after : Engine} {count : Nat}
    (sheds : Sheds count engine.wake.tick after) : Sheds count engine after where
  stores := sheds.stores.trans engine.wake_stores
  calls := sheds.calls.trans engine.wake_calls
  stack := by
    have same : engine.wake.tick.stack = engine.stack := engine.wake_stack
    rw [sheds.stack, same]

theorem intact_of_operation {context : Context} {surroundings : Surroundings} {fault : Fault}
    {op : Op} {operands : List Operand} (honest : surroundings.Honest)
    (active : engine.status.isFinal = false) :
    let effect := engine.wake.tick.execute context.settings surroundings op operands
    (settled effect).status = .faulted fault →
      Intact engine (settled effect) fault
        (Report.events (engine.announcement context ++ effect.reports ++
          (effect.engine.follow effect.control).2)) := by
  intro effect faulted
  have running : engine.wake.tick.status = .running := wake_status active
  have lawful : Lawful engine.wake.tick op operands effect :=
    execute_lawful _ context.settings honest op operands
  rcases settled_faulted running lawful faulted with ⟨control, place⟩
  rcases execute_careful engine.wake.tick operands context.settings honest op fault.cause control
    with ⟨⟨count, few, sheds⟩, silent, other⟩
  have here : fault.counter = engine.counter := place.trans engine.wake_counter
  have raised : fault = ⟨effect.engine.counter, fault.cause⟩ := by
    rw [lawful.frame.counter, ← place]
  have left : Sheds count engine (settled effect) := by
    have taken := sheds.of_wake_tick
    exact ⟨(settled_stores effect).trans taken.stores, (settled_calls effect).trans taken.calls,
      (settled_stack effect).trans taken.stack⟩
  refine left.intact few ?_ ?_ here ?_
  · rw [settled_counter, control]
    exact lawful.frame.counter.trans engine.wake_counter
  · have counted : (settled effect).steps = effect.engine.steps := by
      unfold settled follow
      rw [control]
      rfl
    rw [counted, lawful.frame.steps, other]
    exact congrArg (· + 1) engine.wake_steps
  · rw [Report.events_append, Report.events_append, events_announcement,
      show Report.events effect.reports = [] from silent, control]
    exact congrArg (fun fault => [Event.faulted fault]) raised.symm

/-- **A fault leaves the stores as they were.**  Whatever the engine and the program, if one
step ends in a fault, then registers, memory, the call stack and the place of the engine are
those from before the step, at most the two most recent values are missing from the
evaluation stack, the step has been counted unless the budget was used up, and the fault,
which names the place, is the only event. -/
theorem step_intact {context : Context} {surroundings : Surroundings} {fault : Fault}
    (honest : surroundings.Honest) (active : engine.status.isFinal = false)
    (faulted : (engine.step context surroundings).1.status = .faulted fault) :
    Intact engine (engine.step context surroundings).1 fault
      (Report.events (engine.step context surroundings).2) := by
  unfold step at faulted ⊢
  cases fetched : engine.fetch context surroundings.stopRequested with
  | finished =>
      rw [fetched] at faulted
      rw [show engine.status = .faulted fault from faulted] at active
      cases active
  | stopped =>
      rw [fetched] at faulted
      cases faulted
  | atEnd =>
      rw [fetched] at faulted
      cases faulted
  | overBudget limit =>
      rw [fetched] at faulted
      cases faulted
      exact (sheds_wake_raise engine _).intact (by decide) engine.wake_counter engine.wake_steps
        engine.wake_counter rfl
  | undecodable byte =>
      rw [fetched] at faulted
      cases faulted
      exact (sheds_wake_tick_raise engine _).intact (by decide) engine.wake_counter
        (congrArg (· + 1) engine.wake_steps) engine.wake_counter rfl
  | operation op instruction =>
      rw [fetched] at faulted
      exact intact_of_operation honest active faulted

/-- An engine about to write a value to a text, which is no handle. -/
def mistaken : Engine :=
  { first .standard (.ofSeed 1) with
    stack := ⟨[.integer 5, .text "x", .integer 1], 3, 7⟩
    calls := ⟨[4], 9⟩ }

def mistakenContext : Context :=
  ⟨⟨[⟨.ofOp .store [], 1⟩]⟩, .standard⟩

/-- The text is found to be no handle when both operands have been taken. -/
theorem mistaken_intact :
    (mistaken.step mistakenContext (.alone fun _ => .unset)).1.status =
        .faulted ⟨0, .wrongType .store .text⟩ ∧
      Intact mistaken (mistaken.step mistakenContext (.alone fun _ => .unset)).1
        ⟨0, .wrongType .store .text⟩
        (Report.events (mistaken.step mistakenContext (.alone fun _ => .unset)).2) := by
  have honest : (Surroundings.alone fun _ => .unset).Honest := Surroundings.alone_honest _
  have faulted : (mistaken.step mistakenContext (.alone fun _ => .unset)).1.status =
      .faulted ⟨0, .wrongType .store .text⟩ := by
    decide +kernel
  exact ⟨faulted, step_intact honest rfl faulted⟩

end Engine
end CommandMachine
