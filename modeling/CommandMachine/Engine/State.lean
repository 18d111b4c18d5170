import CommandMachine.Notice
import CommandMachine.Registers
import CommandMachine.Settings
namespace CommandMachine

/-!
An engine executes one program.  Its stacks, its counters and its source of draws
are its own; its registers and memory may be those of the whole run, in which case
the engine holds them as it last saw them.
-/

structure Stores where
  registers : RegisterFile
  memory : Memory
deriving DecidableEq

/-- What all engines of a run have in common and never change. -/
structure Context where
  program : Program
  settings : Settings

structure Engine where
  thread : ThreadId
  counter : Nat
  stack : EvaluationStack
  calls : CallStack
  status : Status
  stores : Stores
  faults : FaultSource
  /-- How often the present check has been repeated. -/
  attempts : Nat
  /-- How many instructions have been executed. -/
  steps : Nat
deriving DecidableEq

def Stores.empty (settings : Settings) : Stores :=
  ⟨.empty, .ofPageSize settings.pageSize⟩

namespace Engine

/-- An engine that is about to start at a place of the program. -/
def create (settings : Settings) (thread : ThreadId) (entry : Nat) (stores : Stores)
    (faults : FaultSource) : Engine where
  thread := thread
  counter := entry
  stack := .ofCapacity settings.stackSize
  calls := .ofLimit settings.returnStackSize
  status := .idle
  stores := stores
  faults := faults
  attempts := 0
  steps := 0

/-- The engine that a run starts with. -/
def first (settings : Settings) (faults : FaultSource) : Engine :=
  create settings .initial 0 (.empty settings) faults

def outcome (engine : Engine) : Outcome where
  status := engine.status
  steps := engine.steps
  stack := engine.stack.toList
  registers := engine.stores.registers.snapshot

/-- An engine for a new thread.  It starts with the registers and memory that the
engine has now and with a source of draws of its own. -/
def child (engine : Engine) (settings : Settings) (thread : ThreadId) (entry : Nat) : Engine :=
  create settings thread entry engine.stores engine.faults.fork.1

def withRegisters (engine : Engine) (registers : RegisterFile) : Engine :=
  { engine with stores := { engine.stores with registers } }

def withMemory (engine : Engine) (memory : Memory) : Engine :=
  { engine with stores := { engine.stores with memory } }

end Engine
end CommandMachine
