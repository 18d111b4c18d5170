import CommandMachine.Fault
namespace CommandMachine

/-!
How an engine stands, and what is left of it in the end.
-/

/-- The state of an engine.  A halted or faulted engine does nothing any more. -/
inductive Status where
  | idle
  | running
  | halted
  | faulted (fault : Fault)
deriving DecidableEq

namespace Status

def name : Status → String
  | .idle => "Idle"
  | .running => "Running"
  | .halted => "Halted"
  | .faulted _ => "Faulted"

/-- The fault that ended the engine, if one did. -/
def fault? : Status → Option Fault
  | .faulted fault => some fault
  | _ => none

/-- Whether the engine has come to its end. -/
def isFinal : Status → Bool
  | .halted => true
  | .faulted _ => true
  | _ => false

/-- Whether the engine came to its end without a fault. -/
def isHalted : Status → Bool
  | .halted => true
  | _ => false

end Status

/-- The last report of an engine: its state, how many instructions it executed, its
stack from the oldest value on, and its registers in the order of creation. -/
structure Outcome where
  status : Status
  steps : Nat
  stack : List Value
  registers : List (String × Value)
deriving DecidableEq

/-- What is reported for an engine that ended without a report of its own. -/
def Outcome.crashed : Outcome :=
  ⟨.faulted ⟨0, .crashed⟩, 0, [], []⟩

end CommandMachine
