import CommandMachine.Outcome
namespace CommandMachine

/-!
Events are what a running program shows to the outside.  Those of one engine
arrive in the order in which it executes.
-/

inductive Event where
  | printed (value : Value)
  | evicted (names : List String)
  | retried (counter attempt : Nat)
  | spawned (thread : ThreadId) (entry : Nat)
  | faulted (fault : Fault)
  | halted
deriving DecidableEq

def Event.printed? : Event → Option Value
  | .printed value => some value
  | _ => none

/-- Events of several engines in the order of their arrival. -/
structure EventLog where
  entries : List (ThreadId × Event)
deriving DecidableEq

namespace EventLog

/-- No events. -/
def empty : EventLog :=
  ⟨[]⟩

def emit (log : EventLog) (origin : ThreadId) (event : Event) : EventLog :=
  ⟨log.entries ++ [(origin, event)]⟩

def ofThread (log : EventLog) (thread : ThreadId) : List Event :=
  log.entries.filterMap fun entry => if entry.1 = thread then some entry.2 else none

def printed (log : EventLog) : List Value :=
  log.entries.filterMap fun entry => entry.2.printed?

end EventLog
end CommandMachine
