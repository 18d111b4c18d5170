import CommandMachine.Memory
import CommandMachine.Opcode
import CommandMachine.Text.Columns
namespace CommandMachine

/-!
Faults end an engine.  Each has a cause and the program counter at which it
happened.
-/

/-- The number of an engine.  The engine that a run starts with has number zero. -/
abbrev ThreadId := Nat

namespace ThreadId

/-- The engine that a run starts with. -/
def initial : ThreadId := 0

def render (thread : ThreadId) : String :=
  "thread-" ++ toString thread

end ThreadId

/-- Why an engine ends in a fault. -/
inductive Cause where
  | stackUnderflow
  | divisionByZero
  | overflow
  | typeMismatch (op : Op) (left right : Value.Kind)
  | wrongType (op : Op) (found : Value.Kind)
  | callStackUnderflow
  | callStackOverflow
  | invalidOpcode (byte : UInt8)
  | invalidOperand (reason : String)
  | memory (error : MemoryError)
  | pingRetriesExhausted (attempts : Nat)
  | unknownThread (thread : Int64)
  | selfJoin (thread : ThreadId)
  | joinCycle (thread : ThreadId)
  | spawnFailed (reason : String)
  | stepLimitExceeded (limit : Nat)
  | crashed
deriving DecidableEq

def Cause.message : Cause → String
  | .stackUnderflow => "stack underflow"
  | .divisionByZero => "division by zero"
  | .overflow => "integer overflow"
  | .typeMismatch op left right =>
    "type mismatch: " ++ op.mnemonic ++ " on " ++ left.name ++ " and " ++ right.name
  | .wrongType op found => op.mnemonic ++ " cannot use a " ++ found.name ++ " value"
  | .callStackUnderflow => "call stack underflow"
  | .callStackOverflow => "call stack overflow"
  | .invalidOpcode byte => "invalid opcode 0x" ++ Text.hexByte byte
  | .invalidOperand reason => "invalid operand: " ++ reason
  | .memory error => error.message
  | .pingRetriesExhausted attempts => "ping failed after " ++ toString attempts ++ " attempts"
  | .unknownThread thread => "unknown thread " ++ toString thread.toInt
  | .selfJoin thread => "thread " ++ toString thread ++ " cannot join itself"
  | .joinCycle thread => "joining thread " ++ toString thread ++ " would deadlock"
  | .spawnFailed reason => "failed to spawn thread: " ++ reason
  | .stepLimitExceeded limit => "step limit of " ++ toString limit ++ " exceeded"
  | .crashed => "thread panicked"

structure Fault where
  counter : Nat
  cause : Cause
deriving DecidableEq

def Fault.message (fault : Fault) : String :=
  "fault at pc " ++ toString fault.counter ++ ": " ++ fault.cause.message

end CommandMachine
