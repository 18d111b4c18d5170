import CommandMachine.Engine.Execute
namespace CommandMachine

/-!
One step of an engine.  Before each instruction the engine looks whether the run
has been asked to stop, then whether its budget of instructions is used up, and
then whether the program is at its end, which is an end like any other.

A step may ask more of the machine than it can bear: a wait that is too long, or a
page that is too large.  The engine then breaks down instead of taking the step.
-/

/-- What an engine is about to do. -/
inductive Fetch where
  /-- Nothing, because it has come to its end. -/
  | finished
  /-- Halt, because the run was asked to stop. -/
  | stopped
  /-- Fault, because the budget is used up. -/
  | overBudget (limit : Nat)
  /-- Halt, because the program is at its end. -/
  | atEnd
  /-- Fault, because the code byte means nothing. -/
  | undecodable (byte : UInt8)
  /-- Execute an operation. -/
  | operation (op : Op) (instruction : Instruction)
deriving DecidableEq

/-- Something an engine asks its surroundings for. -/
inductive Request where
  /-- An answer of the backend. -/
  | infer (payload : String)
  /-- A new engine. -/
  | spawn (entry : Nat)
  /-- The end of another engine. -/
  | join (target : ThreadId)
deriving DecidableEq, Repr

namespace Engine

/-- The budget of instructions, if it is used up. -/
def exhausted? (engine : Engine) (settings : Settings) : Option Nat :=
  settings.maxSteps.filter fun limit => limit ≤ engine.steps

/-- What the engine is about to do. -/
def fetch (engine : Engine) (context : Context) (stopRequested : Bool) : Fetch :=
  if engine.status.isFinal then .finished
  else if stopRequested then .stopped
  else
    match engine.exhausted? context.settings with
    | some limit => .overBudget limit
    | none =>
      match context.program.get? engine.counter with
      | none => .atEnd
      | some instruction =>
        match instruction.op? with
        | none => .undecodable instruction.opcode
        | some op => .operation op instruction

/-- What the engine is about to ask its surroundings for. -/
def request? (engine : Engine) (context : Context) (stopRequested : Bool) : Option Request :=
  match engine.fetch context stopRequested with
  | .operation .infer instruction => some (.infer (payload instruction.operands))
  | .operation .thread instruction =>
    match instruction.operands with
    | .target entry :: _ => some (.spawn entry)
    | _ => none
  | .operation .join _ =>
    match engine.stack.peek? with
    | some (.integer number) =>
      if number < 0 then none else some (.join number.toInt.toNat)
    | _ => none
  | _ => none

/-- What the engine tells before it executes an operation. -/
def announcement (engine : Engine) (context : Context) : List Report :=
  match context.program.get? engine.counter with
  | none => []
  | some instruction => [.notice (.executing engine.thread engine.counter instruction)]

/-- Ends the engine without a fault. -/
def halt (engine : Engine) : Engine × List Report :=
  ({ engine with status := .halted }, [.event .halted])

/-- Ends the engine in a fault at the present instruction. -/
def raise (engine : Engine) (cause : Cause) : Engine × List Report :=
  let fault : Fault := ⟨engine.counter, cause⟩
  ({ engine with status := .faulted fault },
    [.notice (.faulted engine.thread fault), .event (.faulted fault)])

/-- Goes on as the executed operation says. -/
def follow (engine : Engine) : Control → Engine × List Report
  | .next => ({ engine with attempts := 0, counter := engine.counter + 1 }, [])
  | .jump target => ({ engine with attempts := 0, counter := target }, [])
  | .retry => (engine, [])
  | .halt => engine.halt
  | .fault cause => engine.raise cause

def wake (engine : Engine) : Engine :=
  match engine.status with
  | .idle => { engine with status := .running }
  | _ => engine

/-- An engine that has counted one more instruction. -/
def tick (engine : Engine) : Engine :=
  { engine with steps := engine.steps + 1 }

def step (engine : Engine) (context : Context) (surroundings : Surroundings) :
    Engine × List Report :=
  match engine.fetch context surroundings.stopRequested with
  | .finished => (engine, [])
  | .stopped =>
    let (halted, reports) := engine.wake.halt
    (halted, .notice (.stopRequested engine.thread engine.counter) :: reports)
  | .overBudget limit => engine.wake.raise (.stepLimitExceeded limit)
  | .atEnd => engine.wake.halt
  | .undecodable byte => engine.wake.tick.raise (.invalidOpcode byte)
  | .operation op instruction =>
    let effect :=
      engine.wake.tick.execute context.settings surroundings op instruction.operands
    let (last, reports) := effect.engine.follow effect.control
    (last, engine.announcement context ++ effect.reports ++ reports)

/-- Whether an operation asks more of the machine than it can bear.  A check asks for a wait
only if it is to be repeated, and memory asks for a page only if there is a value for it. -/
def overtaxes (engine : Engine) (settings : Settings) (op : Op) (operands : List Operand) :
    Bool :=
  let machine := settings.machine
  let memory := engine.stores.memory
  match op with
  | .pause => machine.longestWait < settings.pause
  | .ping =>
    machine.longestWait < settings.ping.backoff &&
      (engine.ping settings.ping operands).control = .retry
  | .alloc =>
    machine.largestPage < memory.pageSize && memory.isFull && engine.stack.peek?.isSome
  | _ => false

/-- What the engine tells in its next step before it breaks down, if it does.  A check tells
that it is to be repeated before it waits. -/
def breakdown? (engine : Engine) (context : Context) (stopRequested : Bool) :
    Option (List Report) :=
  match engine.fetch context stopRequested with
  | .operation op instruction =>
    let ready := engine.wake.tick
    if ready.overtaxes context.settings op instruction.operands then
      some (engine.announcement context ++
        if op = .ping then (ready.ping context.settings.ping instruction.operands).reports
        else [])
    else none
  | _ => none

end Engine
end CommandMachine
