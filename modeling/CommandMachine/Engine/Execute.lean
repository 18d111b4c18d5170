import CommandMachine.Engine.State
import CommandMachine.Inference
import CommandMachine.Value.Arithmetic
namespace CommandMachine

/-!
One operation after the other.  Executing an operation changes the engine, makes
reports and says how to go on.  What lies outside the engine, that is the backend
and the other engines, is asked through `Surroundings`; the answers are given in
advance, so that execution is a function.  Time does not pass here: a wait, of which a
repeated check and a pause consist, leaves the engine as it is.
-/

/-- How to go on after an operation. -/
inductive Control where
  /-- With the next instruction. -/
  | next
  /-- Elsewhere. -/
  | jump (counter : Nat)
  /-- With the same instruction. -/
  | retry
  /-- Not at all. -/
  | halt
  /-- Not at all, because of a fault. -/
  | fault (cause : Cause)
deriving DecidableEq

structure Effect where
  engine : Engine
  reports : List Report
  control : Control
deriving DecidableEq

/-- The answer to an engine that waits for another one. -/
structure JoinReply where
  notices : List Notice
  result : Except Cause Outcome

/-- The answers that an engine gets when it asks. -/
structure Surroundings where
  /-- Whether the run has been asked to stop. -/
  stopRequested : Bool
  /-- The answer of the backend. -/
  infer : String → Value
  /-- The number that a new thread gets, or why the system refuses to start one. -/
  spawn : Except String ThreadId
  /-- The answer to waiting for a thread. -/
  join : ThreadId → JoinReply

namespace Effect

/-- Goes on without a report. -/
def next (engine : Engine) : Effect :=
  ⟨engine, [], .next⟩

def fault (engine : Engine) (cause : Cause) : Effect :=
  ⟨engine, [], .fault cause⟩

/-- Makes reports before those of the effect. -/
def after (reports : List Report) (effect : Effect) : Effect :=
  { effect with reports := reports ++ effect.reports }

/-- Pushes a value and goes on.  A value that is pushed out is reported. -/
def push (engine : Engine) (value : Value) : Effect where
  engine := { engine with stack := engine.stack.push value }
  reports := (Notice.ofPush engine.stack).map .notice
  control := .next

end Effect

namespace Engine

/-- Takes the value off the top of the stack and goes on with it. -/
def withPop (engine : Engine) (use : Value → Engine → Effect) : Effect :=
  match engine.stack.pop? with
  | none => .fault engine .stackUnderflow
  | some (value, stack) => use value { engine with stack }

/-- Takes a handle off the top of the stack and goes on with it. -/
def withPopHandle (engine : Engine) (op : Op) (use : Handle → Engine → Effect) : Effect :=
  engine.withPop fun value engine =>
    match value with
    | .handle address => use address engine
    | other => .fault engine (.wrongType op other.kind)

/-- Goes on with the register that is the first operand. -/
def withRegister (engine : Engine) (op : Op) (operands : List Operand)
    (use : String → Effect) : Effect :=
  match operands with
  | .register name :: _ => use name
  | _ => .fault engine (.invalidOperand (op.mnemonic ++ " expects a register"))

/-- Goes on with the place that is the first operand. -/
def withTarget (engine : Engine) (op : Op) (operands : List Operand)
    (use : Nat → Effect) : Effect :=
  match operands with
  | .target counter :: _ => use counter
  | _ => .fault engine (.invalidOperand (op.mnemonic ++ " expects a target"))

def optimize (engine : Engine) : Effect :=
  let stack := engine.stack.dedup
  ⟨{ engine with stack },
    [.notice (.optimized engine.thread (engine.stack.depth - stack.depth))], .next⟩

def allocReg (engine : Engine) (operands : List Operand) : Effect :=
  engine.withRegister .allocReg operands fun name =>
    .next (engine.withRegisters (engine.stores.registers.allocate name))

/-- Cuts the stack down to a window. -/
def flowCmp (engine : Engine) (operands : List Operand) : Effect :=
  match operands with
  | [] => .next { engine with stack := engine.stack.compact engine.stack.capacity }
  | .literal (.integer count) :: _ =>
    if count < 0 then
      .fault engine (.invalidOperand ("negative count " ++ toString count.toInt))
    else .next { engine with stack := engine.stack.compact count.toInt.toNat }
  | other :: _ => .fault engine (.invalidOperand ("FLOWCMP count " ++ other.render))

/-- Whether a check is told to fail. -/
def isForced (operands : List Operand) : Bool :=
  operands.any fun operand =>
    match operand with
    | .word content => Text.sameLetters content "fail"
    | _ => false

/-- Counts a failed check and either repeats it or gives up. -/
def retry (engine : Engine) (policy : PingPolicy) : Effect :=
  let attempt := engine.attempts + 1
  let engine := { engine with attempts := attempt }
  if policy.maxRetries < attempt then .fault engine (.pingRetriesExhausted attempt)
  else
    ⟨engine, [.notice (.pingFault engine.thread engine.counter attempt),
      .event (.retried engine.counter attempt)], .retry⟩

def ping (engine : Engine) (policy : PingPolicy) (operands : List Operand) : Effect :=
  if isForced operands then engine.retry policy
  else
    let (failed, faults) := policy.signals engine.faults
    let engine := { engine with faults }
    if failed then engine.retry policy else .next engine

def sift (engine : Engine) : Effect :=
  let names := engine.stores.registers.unwritten
  ⟨engine.withRegisters engine.stores.registers.sweep,
    [.notice (.sifted engine.thread names), .event (.evicted names)], .next⟩

/-- The words that the backend is handed. -/
def payload (operands : List Operand) : String :=
  " ".intercalate (operands.map Operand.render)

/-- Asks the backend and keeps its answer. -/
def infer (engine : Engine) (surroundings : Surroundings) (operands : List Operand) : Effect :=
  .next (engine.withRegisters
    (engine.stores.registers.write Inference.register
      (surroundings.infer (payload operands))))

def write (engine : Engine) (operands : List Operand) : Effect :=
  engine.withRegister .write operands fun name =>
    let registers := engine.stores.registers
    match operands with
    | _ :: .literal value :: _ => .next (engine.withRegisters (registers.write name value))
    | _ :: .register source :: _ =>
      .next (engine.withRegisters (registers.write name (registers.read source).orZero))
    | _ => .fault engine (.invalidOperand "WRITE expects a value")

/-- Pushes the value of a register, which is created if need be. -/
def read (engine : Engine) (operands : List Operand) : Effect :=
  engine.withRegister .read operands fun name =>
    let registers := engine.stores.registers.allocate name
    .push (engine.withRegisters registers) (registers.read name).orZero

/-- The cause of a failed operation on numbers. -/
def arithmeticCause (op : Op) : Arithmetic.Failure → Cause
  | .divisionByZero => .divisionByZero
  | .overflow => .overflow
  | .mismatch left right => .typeMismatch op left right

/-- Replaces the two values on top by the result of an operation on them. -/
def arithmetic (engine : Engine) (op : Op) (operation : Arithmetic.Operation) : Effect :=
  engine.withPop fun right engine =>
    engine.withPop fun left engine =>
      match Arithmetic.apply operation left right with
      | .ok value => .push engine value
      | .error failure => .fault engine (arithmeticCause op failure)

/-- Goes on elsewhere if the value on top is zero or not, as `wanted` says. -/
def jumpIf (engine : Engine) (op : Op) (wanted : Bool) (operands : List Operand) : Effect :=
  engine.withTarget op operands fun target =>
    engine.withPop fun value engine =>
      match value.isZero? with
      | none => .fault engine (.wrongType op value.kind)
      | some zero => if zero = wanted then ⟨engine, [], .jump target⟩ else .next engine

def call (engine : Engine) (operands : List Operand) : Effect :=
  engine.withTarget .call operands fun target =>
    match engine.calls.push? (engine.counter + 1) with
    | none => .fault engine .callStackOverflow
    | some calls => ⟨{ engine with calls }, [], .jump target⟩

def ret (engine : Engine) : Effect :=
  match engine.calls.pop? with
  | none => .fault engine .callStackUnderflow
  | some (target, calls) => ⟨{ engine with calls }, [], .jump target⟩

/-- Starts another engine, whose number goes on the stack.  The draws are divided
even if the system then refuses the engine. -/
def startThread (engine : Engine) (surroundings : Surroundings) (operands : List Operand) :
    Effect :=
  engine.withTarget .thread operands fun entry =>
    let engine := { engine with faults := engine.faults.fork.2 }
    match surroundings.spawn with
    | .error reason => .fault engine (.spawnFailed reason)
    | .ok thread =>
      .after [.notice (.hostSpawned thread), .event (.spawned thread entry)]
        (.push engine (.integer (Int64.ofNat thread)))

def join (engine : Engine) (surroundings : Surroundings) : Effect :=
  engine.withPop fun value engine =>
    match value with
    | .integer number =>
      if number < 0 then .fault engine (.unknownThread number)
      else
        let target : ThreadId := number.toInt.toNat
        let reply := surroundings.join target
        let told := reply.notices.map Report.notice
        match reply.result with
        | .error cause => .after told (.fault engine cause)
        | .ok outcome =>
          .after told ⟨engine, [.notice (.joined engine.thread target outcome.status)], .next⟩
    | other => .fault engine (.wrongType .join other.kind)

/-- Moves the value on top into memory. -/
def alloc (engine : Engine) : Effect :=
  engine.withPop fun value engine =>
    let memory := engine.stores.memory
    let (grown, address) := memory.allocate value
    .after ((Notice.ofAllocate memory).map .notice)
      (.push (engine.withMemory grown) (.handle address))

def free (engine : Engine) : Effect :=
  engine.withPopHandle .free fun address engine =>
    match engine.stores.memory.free address with
    | .error error => .fault engine (.memory error)
    | .ok (memory, _) => .next (engine.withMemory memory)

/-- Pushes the value of a memory slot. -/
def load (engine : Engine) : Effect :=
  engine.withPopHandle .load fun address engine =>
    match engine.stores.memory.read address with
    | .error error => .fault engine (.memory error)
    | .ok value => .push engine value

/-- Replaces the value of a memory slot, whose handle stays on the stack. -/
def store (engine : Engine) : Effect :=
  engine.withPop fun value engine =>
    engine.withPopHandle .store fun address engine =>
      match engine.stores.memory.write address value with
      | .error error => .fault engine (.memory error)
      | .ok memory => .push (engine.withMemory memory) (.handle address)

def print (engine : Engine) : Effect :=
  engine.withPop fun value engine => ⟨engine, [.event (.printed value)], .next⟩

def execute (engine : Engine) (settings : Settings) (surroundings : Surroundings) (op : Op)
    (operands : List Operand) : Effect :=
  match op with
  | .optimize => engine.optimize
  | .allocReg => engine.allocReg operands
  | .flowCmp => engine.flowCmp operands
  | .release => .next { engine with stack := engine.stack.clear }
  | .ping => engine.ping settings.ping operands
  | .sift => engine.sift
  | .infer => engine.infer surroundings operands
  | .pause => .next engine
  | .write => engine.write operands
  | .read => engine.read operands
  | .add => engine.arithmetic .add .add
  | .sub => engine.arithmetic .sub .sub
  | .mul => engine.arithmetic .mul .mul
  | .div => engine.arithmetic .div .div
  | .mod => engine.arithmetic .mod .mod
  | .jump => engine.withTarget .jump operands fun target => ⟨engine, [], .jump target⟩
  | .jumpZero => engine.jumpIf .jumpZero true operands
  | .jumpNonzero => engine.jumpIf .jumpNonzero false operands
  | .print => engine.print
  | .call => engine.call operands
  | .ret => engine.ret
  | .thread => engine.startThread surroundings operands
  | .join => engine.join surroundings
  | .alloc => engine.alloc
  | .free => engine.free
  | .load => engine.load
  | .store => engine.store
  | .halt => ⟨engine, [], .halt⟩

end Engine
end CommandMachine
