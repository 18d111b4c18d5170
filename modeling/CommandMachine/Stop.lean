namespace CommandMachine

/-!
A run can be asked to stop.  Engines look at the signal before each instruction,
and a request ends every wait for time to pass.
-/

/-- Whether a run has been asked to stop. -/
structure StopSignal where
  isRequested : Bool
deriving DecidableEq, Repr

namespace StopSignal

/-- Nobody has asked. -/
def clear : StopSignal :=
  ⟨false⟩

/-- Asks the run to stop.  There is no way back. -/
def request (_ : StopSignal) : StopSignal :=
  ⟨true⟩

/-- The answer to a wait of some microseconds: whether it was, or would have been,
cut short by a request. -/
def wait (signal : StopSignal) (_ : Nat) : Bool :=
  signal.isRequested

end StopSignal
end CommandMachine
