import CommandMachine.Draws
import CommandMachine.Memory
import CommandMachine.Stack
namespace CommandMachine

/-!
Settings of a run.  What is not asked for has a standard value, and what is asked
for is moved into the range that makes sense.
-/

/-- Whether engines of one run have registers and memory of their own. -/
inductive Isolation where
  /-- A new engine starts with copies. -/
  | isolated
  /-- All engines use the same. -/
  | shared
deriving DecidableEq, Repr

/-- The settings that a user asks for.  Times are in microseconds. -/
structure Overrides where
  stackSize : Option Nat := none
  returnStackSize : Option Nat := none
  pageSize : Option Nat := none
  pingProbability : Option Float := none
  pingRetries : Option Nat := none
  pingBackoff : Option Nat := none
  pause : Option Nat := none
  isolation : Option Isolation := none
  seed : Option UInt64 := none
  maxSteps : Option Nat := none

/-- What the machine that executes a run can bear.  An engine that asks for more breaks
down. -/
structure Machine where
  /-- The longest wait whose end the clock can tell, in microseconds. -/
  longestWait : Nat
  /-- How many slots a page can have. -/
  largestPage : Nat
deriving DecidableEq

/-- A machine whose clock counts seconds in a signed word of 64 bits, and which has half as
many addresses as such a word has values.  A slot takes 32 of them. -/
def Machine.standard : Machine where
  longestWait := 9223372036854775807 * 1000000
  largestPage := 9223372036854775807 / 32

/-- The settings of a run, and the machine that it is executed on.  Times are in
microseconds. -/
structure Settings where
  stackSize : Nat
  returnStackSize : Nat
  pageSize : Nat
  ping : PingPolicy
  pause : Nat
  isolation : Isolation
  seed : Option UInt64
  maxSteps : Option Nat
  machine : Machine
deriving DecidableEq

namespace Settings

/-- A probability moved into the range from zero to one.  What is not a number
stays so, and a zero keeps its sign. -/
def clampProbability (probability : Float) : Float :=
  if probability < 0.0 then 0.0 else if probability > 1.0 then 1.0 else probability

def ofOverrides (overrides : Overrides) : Settings where
  stackSize := (overrides.stackSize.map (max 1)).getD EvaluationStack.defaultCapacity
  returnStackSize := overrides.returnStackSize.getD CallStack.defaultLimit
  pageSize := (overrides.pageSize.map (max 1)).getD Memory.defaultPageSize
  ping :=
    { probability :=
        (overrides.pingProbability.map clampProbability).getD PingPolicy.standard.probability
      maxRetries := overrides.pingRetries.getD PingPolicy.standard.maxRetries
      backoff := overrides.pingBackoff.getD PingPolicy.standard.backoff }
  pause := overrides.pause.getD 250000
  isolation := overrides.isolation.getD .isolated
  seed := overrides.seed
  maxSteps := overrides.maxSteps
  machine := .standard

/-- The settings where nothing is asked for. -/
def standard : Settings :=
  ofOverrides {}

/-- The source of draws of the first engine.  Without a seed the given word is the
seed. -/
def faultSource (settings : Settings) (entropy : UInt64) : FaultSource :=
  .ofSeed (settings.seed.getD entropy)

end Settings
end CommandMachine
