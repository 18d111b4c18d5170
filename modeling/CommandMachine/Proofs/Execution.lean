import CommandMachine.Engine.Step
namespace CommandMachine

/-!
# What executing an operation can do

Each operation has a handler of its own, which looks at the operands, the stacks
and the stores.  Most statements about runs need little of that: which operands a
handler refuses, where an operation sends the engine, and what it leaves alone.
This module says these three things once for all operations.
-/

/-! ## Operands -/

namespace Operand

/-- The first operand is a register. -/
def leadWithRegister : List Operand → Bool
  | .register _ :: _ => true
  | _ => false

/-- The first operand is a place in the program. -/
def leadWithTarget : List Operand → Bool
  | .target _ :: _ => true
  | _ => false

/-- A register and a value, or a register to take the value from. -/
def formAssignment : List Operand → Bool
  | .register _ :: .literal _ :: _ => true
  | .register _ :: .register _ :: _ => true
  | _ => false

/-- Nothing, or a count that is not negative. -/
def formWindow : List Operand → Bool
  | [] => true
  | .literal (.integer count) :: _ => decide ¬ count < 0
  | _ => false

end Operand

/-- Whether an operation can be executed with the operands. -/
def Op.accepts (op : Op) (operands : List Operand) : Bool :=
  match op with
  | .allocReg => Operand.leadWithRegister operands
  | .read => Operand.leadWithRegister operands
  | .write => Operand.formAssignment operands
  | .jump => Operand.leadWithTarget operands
  | .jumpZero => Operand.leadWithTarget operands
  | .jumpNonzero => Operand.leadWithTarget operands
  | .call => Operand.leadWithTarget operands
  | .thread => Operand.leadWithTarget operands
  | .flowCmp => Operand.formWindow operands
  | _ => true

/-- The causes that say that an instruction makes no sense. -/
def Cause.isDecoding : Cause → Bool
  | .invalidOpcode _ => true
  | .invalidOperand _ => true
  | _ => false

/-- The causes for which a host refuses a wait. -/
def Cause.isRefusal : Cause → Bool
  | .selfJoin _ => true
  | .unknownThread _ => true
  | .joinCycle _ => true
  | _ => false

theorem Cause.isDecoding_of_isRefusal {cause : Cause} (refusal : cause.isRefusal = true) :
    cause.isDecoding = false := by
  cases cause <;> simp_all [isRefusal, isDecoding]

/-- An answer that a host can give: an outcome, or a refusal. -/
def JoinReply.Honest (reply : JoinReply) : Prop :=
  ∀ cause, reply.result = .error cause → cause.isRefusal = true

/-- The surroundings answer every wait as a host does. -/
def Surroundings.Honest (surroundings : Surroundings) : Prop :=
  ∀ target, (surroundings.join target).Honest

/-! ## Control -/

namespace Engine

/-- An operation leaves the identity of an engine, its place, its status and its count
of instructions alone. -/
structure Frame (before after : Engine) : Prop where
  thread : after.thread = before.thread
  counter : after.counter = before.counter
  status : after.status = before.status
  steps : after.steps = before.steps

/-- Besides, nearly all operations leave the call stack alone. -/
structure Still (before after : Engine) : Prop extends Frame before after where
  calls : after.calls = before.calls

theorem Still.refl (engine : Engine) : Still engine engine :=
  ⟨⟨rfl, rfl, rfl, rfl⟩, rfl⟩

/-- Where an operation sends an engine, and with which call stack. -/
inductive Directs (engine : Engine) (op : Op) (operands : List Operand) :
    CallStack → Control → Prop where
  | onward : Directs engine op operands engine.calls .next
  | again (checks : op = .ping) : Directs engine op operands engine.calls .retry
  | stop (halts : op = .halt) : Directs engine op operands engine.calls .halt
  | jump {target : Nat} {rest : List Operand}
      (jumps : op = .jump ∨ op = .jumpZero ∨ op = .jumpNonzero)
      (operand : operands = .target target :: rest) :
      Directs engine op operands engine.calls (.jump target)
  | call {target : Nat} {rest : List Operand} {calls : CallStack} (calling : op = .call)
      (operand : operands = .target target :: rest)
      (pushed : engine.calls.push? (engine.counter + 1) = some calls) :
      Directs engine op operands calls (.jump target)
  | ret {target : Nat} {calls : CallStack} (returns : op = .ret)
      (popped : engine.calls.pop? = some (target, calls)) :
      Directs engine op operands calls (.jump target)
  | fault {cause : Cause} (decoding : cause.isDecoding = true → op.accepts operands = false) :
      Directs engine op operands engine.calls (.fault cause)

theorem Directs.decoding {engine : Engine} {op : Op} {operands : List Operand}
    {calls : CallStack} {cause : Cause}
    (directs : Directs engine op operands calls (.fault cause)) :
    cause.isDecoding = true → op.accepts operands = false := by
  cases directs with
  | fault decoding => exact decoding

/-- What an operation does is within the bounds set for all of them. -/
structure Lawful (engine : Engine) (op : Op) (operands : List Operand) (effect : Effect) :
    Prop where
  frame : Frame engine effect.engine
  directs : Directs engine op operands effect.engine.calls effect.control

section Handlers

variable {engine current : Engine} {op : Op} {operands : List Operand}

/-- Every way to end an operation without touching the call stack. -/
theorem Still.lawful (still : Still engine current) {control : Control}
    (directs : Directs engine op operands engine.calls control) (reports : List Report) :
    Lawful engine op operands ⟨current, reports, control⟩ :=
  ⟨still.toFrame, still.calls ▸ directs⟩

theorem Still.next (still : Still engine current) :
    Lawful engine op operands (.next current) :=
  still.lawful .onward []

theorem Still.fault (still : Still engine current) {cause : Cause}
    (decoding : cause.isDecoding = true → op.accepts operands = false) :
    Lawful engine op operands (.fault current cause) :=
  still.lawful (.fault decoding) []

/-- A fault that has nothing to do with the form of the instruction. -/
theorem Still.failure (still : Still engine current) {cause : Cause}
    (other : cause.isDecoding = false) : Lawful engine op operands (.fault current cause) :=
  still.fault fun decoding => by simp [other] at decoding

theorem Still.withStack (still : Still engine current) (stack : EvaluationStack) :
    Still engine { current with stack } :=
  ⟨⟨still.thread, still.counter, still.status, still.steps⟩, still.calls⟩

theorem Still.push (still : Still engine current) (value : Value) :
    Lawful engine op operands (.push current value) := by
  have pushed : Still engine { current with stack := current.stack.push value } :=
    still.withStack _
  exact pushed.lawful .onward _

theorem Lawful.after {effect : Effect} (lawful : Lawful engine op operands effect)
    (reports : List Report) : Lawful engine op operands (effect.after reports) :=
  ⟨lawful.frame, lawful.directs⟩

theorem Still.withRegisters (still : Still engine current) (registers : RegisterFile) :
    Still engine (current.withRegisters registers) :=
  ⟨⟨still.thread, still.counter, still.status, still.steps⟩, still.calls⟩

theorem Still.withMemory (still : Still engine current) (memory : Memory) :
    Still engine (current.withMemory memory) :=
  ⟨⟨still.thread, still.counter, still.status, still.steps⟩, still.calls⟩

theorem Still.withPop (still : Still engine current) {use : Value → Engine → Effect}
    (lawful : ∀ value stack, current.stack.pop? = some (value, stack) →
      Lawful engine op operands (use value { current with stack })) :
    Lawful engine op operands (current.withPop use) := by
  unfold Engine.withPop
  cases popped : current.stack.pop? with
  | none => exact still.failure rfl
  | some pair => exact lawful pair.1 pair.2 popped

theorem Still.withPopHandle (still : Still engine current) {name : Op}
    {use : Handle → Engine → Effect}
    (lawful : ∀ address stack, Lawful engine op operands (use address { current with stack })) :
    Lawful engine op operands (current.withPopHandle name use) := by
  refine still.withPop fun value stack _ => ?_
  cases value with
  | handle address => exact lawful address stack
  | unset => exact (still.withStack stack).failure rfl
  | integer number => exact (still.withStack stack).failure rfl
  | float number => exact (still.withStack stack).failure rfl
  | text content => exact (still.withStack stack).failure rfl

theorem lawful_withRegister {use : String → Effect}
    (demands : Operand.leadWithRegister operands = false → op.accepts operands = false)
    (lawful : ∀ name rest, operands = .register name :: rest →
      Lawful engine op operands (use name)) :
    Lawful engine op operands (engine.withRegister op operands use) := by
  unfold withRegister
  split
  · exact lawful _ _ rfl
  · refine (Still.refl engine).fault fun _ => demands ?_
    unfold Operand.leadWithRegister
    split
    · simp_all
    · rfl

theorem lawful_withTarget {use : Nat → Effect}
    (demands : op.accepts operands = Operand.leadWithTarget operands)
    (lawful : ∀ target rest, operands = .target target :: rest →
      Lawful engine op operands (use target)) :
    Lawful engine op operands (engine.withTarget op operands use) := by
  unfold withTarget
  split
  · exact lawful _ _ rfl
  · refine (Still.refl engine).fault fun _ => ?_
    rw [demands]
    unfold Operand.leadWithTarget
    split
    · simp_all
    · rfl

end Handlers

/-! ## The handlers one by one -/

section Operations

variable (engine : Engine) (operands : List Operand)

theorem flowCmp_lawful : Lawful engine .flowCmp operands (engine.flowCmp operands) := by
  have still := Still.refl engine
  unfold flowCmp
  split
  · exact (still.withStack _).next
  · rename_i count rest
    by_cases negative : count < 0
    · rw [if_pos negative]
      exact still.fault fun _ => by simp [Op.accepts, Operand.formWindow, negative]
    · rw [if_neg negative]
      exact (still.withStack _).next
  · refine still.fault fun _ => ?_
    simp only [Op.accepts]
    unfold Operand.formWindow
    split <;> simp_all

theorem retry_lawful {current : Engine} (still : Still engine current) (policy : PingPolicy) :
    Lawful engine .ping operands (current.retry policy) := by
  have counted : Still engine { current with attempts := current.attempts + 1 } :=
    ⟨⟨still.thread, still.counter, still.status, still.steps⟩, still.calls⟩
  unfold retry
  dsimp only
  split
  · exact counted.failure rfl
  · exact counted.lawful (.again rfl) _

theorem ping_lawful (policy : PingPolicy) :
    Lawful engine .ping operands (engine.ping policy operands) := by
  have drawn (faults : FaultSource) : Still engine { engine with faults } :=
    ⟨⟨rfl, rfl, rfl, rfl⟩, rfl⟩
  unfold ping
  dsimp only
  split
  · exact retry_lawful engine operands (Still.refl engine) policy
  · split
    · exact retry_lawful engine operands (drawn _) policy
    · exact (drawn _).next

theorem write_lawful : Lawful engine .write operands (engine.write operands) := by
  refine lawful_withRegister (fun other => ?_) fun name rest leading => ?_
  · simp only [Op.accepts]
    unfold Operand.formAssignment
    split <;> simp_all [Operand.leadWithRegister]
  · subst leading
    dsimp only
    split
    · exact ((Still.refl engine).withRegisters _).next
    · exact ((Still.refl engine).withRegisters _).next
    · refine (Still.refl engine).fault fun _ => ?_
      simp only [Op.accepts]
      unfold Operand.formAssignment
      split <;> simp_all

theorem arithmetic_lawful (op : Op) (operation : Arithmetic.Operation) :
    Lawful engine op operands (engine.arithmetic op operation) := by
  refine (Still.refl engine).withPop fun right stack _ => ?_
  refine ((Still.refl engine).withStack stack).withPop fun left rest _ => ?_
  have still := ((Still.refl engine).withStack stack).withStack rest
  cases Arithmetic.apply operation left right with
  | ok value => exact still.push value
  | error failure => cases failure <;> exact still.failure rfl

theorem jumpIf_lawful {op : Op} (jumps : op = .jumpZero ∨ op = .jumpNonzero) (wanted : Bool) :
    Lawful engine op operands (engine.jumpIf op wanted operands) := by
  have demands : op.accepts operands = Operand.leadWithTarget operands := by
    rcases jumps with rfl | rfl <;> rfl
  refine lawful_withTarget demands fun target rest leading => ?_
  refine (Still.refl engine).withPop fun value stack _ => ?_
  have still := (Still.refl engine).withStack stack
  cases value.isZero? with
  | none => exact still.failure rfl
  | some zero =>
      by_cases taken : zero = wanted
      · simp only [if_pos taken]
        exact still.lawful (.jump (Or.inr jumps) leading) []
      · simp only [if_neg taken]
        exact still.next

theorem call_lawful : Lawful engine .call operands (engine.call operands) := by
  refine lawful_withTarget rfl fun target rest leading => ?_
  cases pushed : engine.calls.push? (engine.counter + 1) with
  | none => exact (Still.refl engine).failure rfl
  | some calls => exact ⟨⟨rfl, rfl, rfl, rfl⟩, .call rfl leading pushed⟩

theorem ret_lawful : Lawful engine .ret operands engine.ret := by
  unfold ret
  cases popped : engine.calls.pop? with
  | none => exact (Still.refl engine).failure rfl
  | some pair => exact ⟨⟨rfl, rfl, rfl, rfl⟩, .ret rfl popped⟩

theorem startThread_lawful (surroundings : Surroundings) :
    Lawful engine .thread operands (engine.startThread surroundings operands) := by
  refine lawful_withTarget rfl fun entry rest leading => ?_
  have still : Still engine { engine with faults := engine.faults.fork.2 } :=
    ⟨⟨rfl, rfl, rfl, rfl⟩, rfl⟩
  cases started : surroundings.spawn with
  | error reason =>
      simp only
      exact still.failure rfl
  | ok thread =>
      simp only
      exact (still.push _).after _

theorem join_lawful {surroundings : Surroundings} (honest : surroundings.Honest) :
    Lawful engine .join operands (engine.join surroundings) := by
  refine (Still.refl engine).withPop fun value stack _ => ?_
  have still := (Still.refl engine).withStack stack
  cases value with
  | integer number =>
      dsimp only
      split
      · exact still.failure rfl
      · cases reply : (surroundings.join number.toInt.toNat).result with
        | ok outcome => exact (still.lawful .onward _).after _
        | error cause =>
            have refusal := honest _ cause reply
            exact (still.failure (Cause.isDecoding_of_isRefusal refusal)).after _
  | unset => exact still.failure rfl
  | float number => exact still.failure rfl
  | text content => exact still.failure rfl
  | handle address => exact still.failure rfl

theorem print_lawful : Lawful engine .print operands engine.print := by
  refine (Still.refl engine).withPop fun value stack _ => ?_
  exact ((Still.refl engine).withStack stack).lawful .onward _

theorem alloc_lawful : Lawful engine .alloc operands engine.alloc := by
  refine (Still.refl engine).withPop fun value stack _ => ?_
  exact ((((Still.refl engine).withStack stack).withMemory _).push _).after _

theorem free_lawful : Lawful engine .free operands engine.free := by
  refine (Still.refl engine).withPopHandle fun address stack => ?_
  have still := (Still.refl engine).withStack stack
  dsimp only
  split
  · exact still.failure rfl
  · exact (still.withMemory _).next

theorem load_lawful : Lawful engine .load operands engine.load := by
  refine (Still.refl engine).withPopHandle fun address stack => ?_
  have still := (Still.refl engine).withStack stack
  dsimp only
  split
  · exact still.failure rfl
  · exact still.push _

theorem store_lawful : Lawful engine .store operands engine.store := by
  refine (Still.refl engine).withPop fun value stack _ => ?_
  refine ((Still.refl engine).withStack stack).withPopHandle fun address rest => ?_
  have still := ((Still.refl engine).withStack stack).withStack rest
  dsimp only
  split
  · exact still.failure rfl
  · exact (still.withMemory _).push _

end Operations

/-- Every operation keeps to the bounds, whatever the engine and its surroundings. -/
theorem execute_lawful (engine : Engine) (settings : Settings) {surroundings : Surroundings}
    (honest : surroundings.Honest) (op : Op) (operands : List Operand) :
    Lawful engine op operands (engine.execute settings surroundings op operands) := by
  have still := Still.refl engine
  cases op with
  | optimize => exact (still.withStack _).lawful .onward _
  | allocReg => exact lawful_withRegister id fun _ _ _ => (still.withRegisters _).next
  | flowCmp => exact flowCmp_lawful engine operands
  | release => exact (still.withStack _).next
  | ping => exact ping_lawful engine operands settings.ping
  | sift => exact (still.withRegisters _).lawful .onward _
  | infer => exact (still.withRegisters _).next
  | pause => exact still.next
  | write => exact write_lawful engine operands
  | read => exact lawful_withRegister id fun _ _ _ => (still.withRegisters _).push _
  | add => exact arithmetic_lawful engine operands .add .add
  | sub => exact arithmetic_lawful engine operands .sub .sub
  | mul => exact arithmetic_lawful engine operands .mul .mul
  | div => exact arithmetic_lawful engine operands .div .div
  | mod => exact arithmetic_lawful engine operands .mod .mod
  | jump =>
      exact lawful_withTarget rfl fun _ _ leading => still.lawful (.jump (Or.inl rfl) leading) []
  | jumpZero => exact jumpIf_lawful engine operands (Or.inl rfl) true
  | jumpNonzero => exact jumpIf_lawful engine operands (Or.inr rfl) false
  | print => exact print_lawful engine operands
  | call => exact call_lawful engine operands
  | ret => exact ret_lawful engine operands
  | thread => exact startThread_lawful engine operands surroundings
  | join => exact join_lawful engine operands honest
  | alloc => exact alloc_lawful engine operands
  | free => exact free_lawful engine operands
  | load => exact load_lawful engine operands
  | store => exact store_lawful engine operands
  | halt => exact still.lawful (.stop rfl) []

/-! ## Operands that are refused -/

section Refusals

variable {engine : Engine} {op : Op} {operands : List Operand}

/-- An effect is the fault that the operands make no sense. -/
def Refuses (effect : Effect) : Prop :=
  ∃ reason, effect.control = .fault (.invalidOperand reason)

theorem refuses_withRegister (other : Operand.leadWithRegister operands = false)
    (use : String → Effect) : Refuses (engine.withRegister op operands use) := by
  unfold withRegister
  split
  · cases other
  · exact ⟨_, rfl⟩

theorem refuses_withTarget (other : Operand.leadWithTarget operands = false)
    (use : Nat → Effect) : Refuses (engine.withTarget op operands use) := by
  unfold withTarget
  split
  · cases other
  · exact ⟨_, rfl⟩

theorem refuses_flowCmp (other : Operand.formWindow operands = false) :
    Refuses (engine.flowCmp operands) := by
  unfold flowCmp
  split
  · cases other
  · rename_i count rest
    have negative : count < 0 := by simpa [Operand.formWindow] using other
    rw [if_pos negative]
    exact ⟨_, rfl⟩
  · exact ⟨_, rfl⟩

theorem refuses_write (other : Operand.formAssignment operands = false) :
    Refuses (engine.write operands) := by
  cases leading : Operand.leadWithRegister operands with
  | false => exact refuses_withRegister leading _
  | true =>
      unfold write withRegister
      split
      · rename_i name rest
        cases rest with
        | nil => exact ⟨_, rfl⟩
        | cons second later =>
            cases second with
            | literal value => cases other
            | register source => cases other
            | target counter => exact ⟨_, rfl⟩
            | word content => exact ⟨_, rfl⟩
      · exact ⟨_, rfl⟩

end Refusals

/-- An operation refuses exactly the operands that it does not accept, before it looks
at the stacks and the stores. -/
theorem refuses_execute_iff (engine : Engine) (settings : Settings)
    {surroundings : Surroundings} (honest : surroundings.Honest) (op : Op)
    (operands : List Operand) :
    Refuses (engine.execute settings surroundings op operands) ↔
      op.accepts operands = false := by
  constructor
  · rintro ⟨reason, refused⟩
    have directs := (execute_lawful engine settings honest op operands).directs
    rw [refused] at directs
    exact directs.decoding rfl
  · intro other
    cases op <;> simp only [Op.accepts, Bool.true_eq_false] at other
    case allocReg => exact refuses_withRegister other _
    case flowCmp => exact refuses_flowCmp other
    case write => exact refuses_write other
    case read => exact refuses_withRegister other _
    case jump => exact refuses_withTarget other _
    case jumpZero => exact refuses_withTarget other _
    case jumpNonzero => exact refuses_withTarget other _
    case call => exact refuses_withTarget other _
    case thread => exact refuses_withTarget other _

end Engine
end CommandMachine
