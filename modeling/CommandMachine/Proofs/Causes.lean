import CommandMachine.Proofs.Execution
namespace CommandMachine

/-!
# Which operation fails for which cause

Every cause of a fault belongs to few operations: only a check gives up after repeating,
only a call finds the call stack full, and an operation that is named in a cause is the one
that failed.  The table below lists for each cause the operations that may raise it, and each
handler is held against it once.  Two causes never come from an operation: that the budget is
used up and that the code byte means nothing are found before one is executed.
-/

namespace Op

/-- The operations on two numbers. -/
def isArithmetic (op : Op) : Bool :=
  op ∈ [.add, .sub, .mul, .div, .mod]

/-- The operations that use a handle. -/
def usesHandle (op : Op) : Bool :=
  op ∈ [.free, .load, .store]

/-- The operations that take values off the stack. -/
def takesValues (op : Op) : Bool :=
  op.isArithmetic || op.usesHandle || op ∈ [.jumpZero, .jumpNonzero, .print, .join, .alloc]

/-- Whether an operation may fail for a cause. -/
def mayRaise (op : Op) : Cause → Bool
  | .stackUnderflow => op.takesValues
  | .divisionByZero => op ∈ [.div, .mod]
  | .overflow => op.isArithmetic
  | .typeMismatch named _ _ => op.isArithmetic && named = op
  | .wrongType named _ =>
    (op.usesHandle || op ∈ [.jumpZero, .jumpNonzero, .join]) && named = op
  | .callStackUnderflow => op = .ret
  | .callStackOverflow => op = .call
  | .invalidOpcode _ => false
  | .invalidOperand _ =>
    op ∈ [.allocReg, .flowCmp, .write, .read, .jump, .jumpZero, .jumpNonzero, .call, .thread]
  | .memory _ => op.usesHandle
  | .pingRetriesExhausted _ => op = .ping
  | .unknownThread _ => op = .join
  | .selfJoin _ => op = .join
  | .joinCycle _ => op = .join
  | .spawnFailed _ => op = .thread
  | .stepLimitExceeded _ => false
  | .crashed => false

end Op

theorem Cause.mayRaise_join {cause : Cause} (refusal : cause.isRefusal = true) :
    Op.join.mayRaise cause = true := by
  cases cause <;> simp_all [isRefusal, Op.mayRaise]

/-- Only a division divides by zero. -/
theorem Arithmetic.divides_of_apply {operation : Operation} {left right : Value}
    (failed : apply operation left right = .error .divisionByZero) : operation.divides = true := by
  have integers (first second : Int64)
      (failed : integers operation first second = .error .divisionByZero) :
      operation.divides = true := by
    unfold Arithmetic.integers at failed
    cases divides : operation.divides with
    | true => rfl
    | false =>
        rw [divides, Bool.false_and, if_neg Bool.false_ne_true] at failed
        split at failed <;> cases failed
  have floats (first second : Float)
      (failed : floats operation first second = .error .divisionByZero) :
      operation.divides = true := by
    unfold Arithmetic.floats at failed
    cases divides : operation.divides with
    | true => rfl
    | false =>
        rw [divides, Bool.false_and, if_neg Bool.false_ne_true] at failed
        split at failed <;> cases failed
  have mapped {α : Type} {result : Except Failure α} {make : α → Value}
      (failed : result.map make = .error .divisionByZero) : result = .error .divisionByZero := by
    cases result with
    | error failure => cases failed; rfl
    | ok value => cases failed
  unfold apply at failed
  split at failed
  · exact integers _ _ (mapped failed)
  · exact floats _ _ (mapped failed)
  · exact floats _ _ (mapped failed)
  · exact floats _ _ (mapped failed)
  · cases failed

namespace Engine

/-- If an operation fails, then for a cause that the table allows. -/
def Accounted (op : Op) (effect : Effect) : Prop :=
  ∀ cause, effect.control = .fault cause → op.mayRaise cause = true

section Combinators

variable {engine : Engine} {op : Op} {operands : List Operand}

theorem accounted_fault {cause : Cause} (listed : op.mayRaise cause = true) :
    Accounted op (.fault engine cause) := by
  intro found same
  cases same
  exact listed

theorem accounted_of_control {effect : Effect}
    (succeeds : ∀ cause, effect.control ≠ .fault cause) : Accounted op effect :=
  fun cause failed => absurd failed (succeeds cause)

theorem accounted_next : Accounted op (.next engine) :=
  accounted_of_control fun _ failed => by cases failed

theorem accounted_push (value : Value) : Accounted op (.push engine value) :=
  accounted_of_control fun _ failed => by cases failed

theorem accounted_jump (target : Nat) : Accounted op ⟨engine, [], .jump target⟩ :=
  accounted_of_control fun _ failed => by cases failed

theorem accounted_withPop {use : Value → Engine → Effect}
    (listed : op.mayRaise .stackUnderflow = true)
    (accounted : ∀ value stack, Accounted op (use value { engine with stack })) :
    Accounted op (engine.withPop use) := by
  unfold withPop
  split
  · exact accounted_fault listed
  · exact accounted _ _

theorem accounted_withPopHandle {use : Handle → Engine → Effect} (uses : op.usesHandle = true)
    (accounted : ∀ address stack, Accounted op (use address { engine with stack })) :
    Accounted op (engine.withPopHandle op use) := by
  have pops : op.mayRaise .stackUnderflow = true := by simp [Op.mayRaise, Op.takesValues, uses]
  have refuses (kind : Value.Kind) : op.mayRaise (.wrongType op kind) = true := by
    simp [Op.mayRaise, uses]
  refine accounted_withPop pops fun value stack => ?_
  cases value with
  | handle address => exact accounted address stack
  | unset => exact accounted_fault (refuses _)
  | integer number => exact accounted_fault (refuses _)
  | float number => exact accounted_fault (refuses _)
  | text content => exact accounted_fault (refuses _)

theorem accounted_withRegister {use : String → Effect}
    (listed : ∀ reason, op.mayRaise (.invalidOperand reason) = true)
    (accounted : ∀ name, Accounted op (use name)) :
    Accounted op (engine.withRegister op operands use) := by
  unfold withRegister
  split
  · exact accounted _
  · exact accounted_fault (listed _)

theorem accounted_withTarget {use : Nat → Effect}
    (listed : ∀ reason, op.mayRaise (.invalidOperand reason) = true)
    (accounted : ∀ target, Accounted op (use target)) :
    Accounted op (engine.withTarget op operands use) := by
  unfold withTarget
  split
  · exact accounted _
  · exact accounted_fault (listed _)

end Combinators

/-! ## The handlers one by one -/

section Handlers

variable (engine : Engine) (operands : List Operand)

theorem flowCmp_accounted : Accounted .flowCmp (engine.flowCmp operands) := by
  unfold flowCmp
  split
  · exact accounted_next
  · split
    · exact accounted_fault rfl
    · exact accounted_next
  · exact accounted_fault rfl

theorem retry_accounted (policy : PingPolicy) : Accounted .ping (engine.retry policy) := by
  unfold retry
  dsimp only
  split
  · exact accounted_fault rfl
  · exact accounted_of_control fun _ failed => by cases failed

theorem ping_accounted (policy : PingPolicy) : Accounted .ping (engine.ping policy operands) := by
  unfold ping
  dsimp only
  split
  · exact retry_accounted engine policy
  · split
    · exact retry_accounted _ policy
    · exact accounted_next

theorem write_accounted : Accounted .write (engine.write operands) := by
  refine accounted_withRegister (fun _ => rfl) fun name => ?_
  dsimp only
  split
  · exact accounted_next
  · exact accounted_next
  · exact accounted_fault rfl

theorem arithmetic_accounted {op : Op} (operation : Arithmetic.Operation)
    (arithmetic : op.isArithmetic = true) (divides : operation.divides = true → op ∈ [.div, .mod]) :
    Accounted op (engine.arithmetic op operation) := by
  have pops : op.mayRaise .stackUnderflow = true := by
    simp [Op.mayRaise, Op.takesValues, arithmetic]
  refine accounted_withPop pops fun right stack => accounted_withPop pops fun left rest => ?_
  cases computed : Arithmetic.apply operation left right with
  | ok value => exact accounted_push value
  | error failure =>
      cases failure with
      | divisionByZero =>
          exact accounted_fault (decide_eq_true (divides (Arithmetic.divides_of_apply computed)))
      | overflow => exact accounted_fault arithmetic
      | mismatch first second =>
          exact accounted_fault (by simp [arithmeticCause, Op.mayRaise, arithmetic])

theorem jumpIf_accounted {op : Op} (jumps : op = .jumpZero ∨ op = .jumpNonzero) (wanted : Bool) :
    Accounted op (engine.jumpIf op wanted operands) := by
  have operand (reason : String) : op.mayRaise (.invalidOperand reason) = true := by
    rcases jumps with rfl | rfl <;> rfl
  have pops : op.mayRaise .stackUnderflow = true := by
    rcases jumps with rfl | rfl <;> rfl
  have refuses (kind : Value.Kind) : op.mayRaise (.wrongType op kind) = true := by
    rcases jumps with rfl | rfl <;> rfl
  refine accounted_withTarget operand fun target => accounted_withPop pops fun value stack => ?_
  split
  · exact accounted_fault (refuses _)
  · split
    · exact accounted_jump _
    · exact accounted_next

theorem call_accounted : Accounted .call (engine.call operands) := by
  refine accounted_withTarget (fun _ => rfl) fun target => ?_
  split
  · exact accounted_fault rfl
  · exact accounted_jump _

theorem ret_accounted : Accounted .ret engine.ret := by
  unfold ret
  split
  · exact accounted_fault rfl
  · exact accounted_jump _

theorem startThread_accounted (surroundings : Surroundings) :
    Accounted .thread (engine.startThread surroundings operands) := by
  refine accounted_withTarget (fun _ => rfl) fun entry => ?_
  dsimp only
  split
  · exact accounted_fault rfl
  · exact accounted_of_control fun _ failed => by cases failed

/-- What a host refuses, it refuses for one of its own causes. -/
theorem join_accounted {surroundings : Surroundings} (honest : surroundings.Honest) :
    Accounted .join (engine.join surroundings) := by
  refine accounted_withPop rfl fun value stack => ?_
  cases value with
  | integer number =>
      dsimp only
      split
      · exact accounted_fault rfl
      · cases reply : (surroundings.join number.toInt.toNat).result with
        | ok outcome => exact accounted_of_control fun _ failed => by cases failed
        | error cause =>
            intro found same
            cases same
            exact Cause.mayRaise_join (honest _ cause reply)
  | unset => exact accounted_fault rfl
  | float number => exact accounted_fault rfl
  | text content => exact accounted_fault rfl
  | handle address => exact accounted_fault rfl

theorem free_accounted : Accounted .free engine.free := by
  refine accounted_withPopHandle rfl fun address stack => ?_
  dsimp only
  split
  · exact accounted_fault rfl
  · exact accounted_next

theorem load_accounted : Accounted .load engine.load := by
  refine accounted_withPopHandle rfl fun address stack => ?_
  dsimp only
  split
  · exact accounted_fault rfl
  · exact accounted_push _

theorem store_accounted : Accounted .store engine.store := by
  refine accounted_withPop rfl fun value stack =>
    accounted_withPopHandle rfl fun address rest => ?_
  dsimp only
  split
  · exact accounted_fault rfl
  · exact accounted_push _

/-- Every operation fails only for a cause of its own. -/
theorem execute_accounted (settings : Settings) {surroundings : Surroundings}
    (honest : surroundings.Honest) (op : Op) :
    Accounted op (engine.execute settings surroundings op operands) := by
  cases op with
  | optimize => exact accounted_of_control fun _ failed => by cases failed
  | allocReg => exact accounted_withRegister (fun _ => rfl) fun _ => accounted_next
  | flowCmp => exact flowCmp_accounted engine operands
  | release => exact accounted_next
  | ping => exact ping_accounted engine operands settings.ping
  | sift => exact accounted_of_control fun _ failed => by cases failed
  | infer => exact accounted_next
  | pause => exact accounted_next
  | write => exact write_accounted engine operands
  | read => exact accounted_withRegister (fun _ => rfl) fun _ => accounted_push _
  | add => exact arithmetic_accounted engine .add rfl (by decide)
  | sub => exact arithmetic_accounted engine .sub rfl (by decide)
  | mul => exact arithmetic_accounted engine .mul rfl (by decide)
  | div => exact arithmetic_accounted engine .div rfl (by decide)
  | mod => exact arithmetic_accounted engine .mod rfl (by decide)
  | jump => exact accounted_withTarget (fun _ => rfl) fun target => accounted_jump target
  | jumpZero => exact jumpIf_accounted engine operands (Or.inl rfl) true
  | jumpNonzero => exact jumpIf_accounted engine operands (Or.inr rfl) false
  | print => exact accounted_withPop rfl fun _ _ =>
      accounted_of_control fun _ failed => by cases failed
  | call => exact call_accounted engine operands
  | ret => exact ret_accounted engine
  | thread => exact startThread_accounted engine operands surroundings
  | join => exact join_accounted engine honest
  | alloc => exact accounted_withPop rfl fun _ _ =>
      accounted_of_control fun _ failed => by cases failed
  | free => exact free_accounted engine
  | load => exact load_accounted engine
  | store => exact store_accounted engine
  | halt => exact accounted_of_control fun _ failed => by cases failed

end Handlers
end Engine
end CommandMachine
