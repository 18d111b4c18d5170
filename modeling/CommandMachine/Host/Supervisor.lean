import CommandMachine.Engine.Execute
import CommandMachine.Host.Table
namespace CommandMachine

/-!
The supervisor drives a host so that everything that can move has moved: an
engine that waits for a thread that has ended gets its answer at once, and the
end of a thread answers all who wait for it.
-/

/-- How a thread ends: with a report, or without one. -/
inductive Ending where
  | returned (outcome : Outcome)
  | crashed
deriving DecidableEq

namespace Ending

/-- The outcome that is recorded for a thread. -/
def outcome : Ending → Outcome
  | .returned outcome => outcome
  | .crashed => .crashed

/-- What is told by the one who holds the handle. -/
def notices (thread : ThreadId) : Ending → List Notice
  | .returned _ => []
  | .crashed => [.hostCrashed thread]

end Ending

/-- A wait that has not been answered. -/
structure PendingJoin where
  joiner : ThreadId
  target : ThreadId
  /-- Whether the engine that waits has the handle. -/
  holdsHandle : Bool
deriving DecidableEq, Repr

/-- A host, the threads that have ended, and the waits without an answer. -/
structure Supervisor where
  host : Host
  endings : List (ThreadId × Ending)
  pending : List PendingJoin
deriving DecidableEq

namespace Supervisor

/-- No threads. -/
def empty : Supervisor :=
  ⟨.empty, [], []⟩

/-- The number that the next thread gets. -/
def nextThread (supervisor : Supervisor) : ThreadId :=
  supervisor.host.nextId

def spawn (supervisor : Supervisor) : Supervisor :=
  let (thread, host) := supervisor.host.takeId
  { supervisor with host := host.enter thread }

/-- Uses up a number without a thread, because the system refuses to start one. -/
def skip (supervisor : Supervisor) : Supervisor :=
  { supervisor with host := supervisor.host.takeId.2 }

/-- How a thread has ended, if it has. -/
def ending? (supervisor : Supervisor) (thread : ThreadId) : Option Ending :=
  supervisor.endings.lookup thread

/-- The handle's holder records how the thread has ended, and its wait is over. -/
def settle (supervisor : Supervisor) (joiner target : ThreadId) (ending : Ending) :
    Supervisor × JoinReply :=
  ({ supervisor with host := (supervisor.host.record target ending.outcome).leave joiner },
    { notices := ending.notices target ++ [.hostJoined joiner target ending.outcome.status]
      result := .ok ending.outcome })

/-- What is told when a wait is refused. -/
def refusalNotices (joiner target : ThreadId) : Cause → List Notice
  | .joinCycle _ => [.hostDeadlock joiner target]
  | _ => []

/-- Lets an engine wait for a thread.  Without an answer it has to go on waiting. -/
def join (supervisor : Supervisor) (joiner target : ThreadId) :
    Supervisor × Option JoinReply :=
  match supervisor.host.beginJoin joiner target with
  | (host, .refused cause) =>
    ({ supervisor with host }, some ⟨refusalNotices joiner target cause, .error cause⟩)
  | (host, .known outcome) => ({ supervisor with host }, some ⟨[], .ok outcome⟩)
  | (host, .parked) =>
    ({ supervisor with host, pending := ⟨joiner, target, false⟩ :: supervisor.pending }, none)
  | (host, .taken) =>
    match supervisor.ending? target with
    | some ending =>
      let (settled, reply) := { supervisor with host }.settle joiner target ending
      (settled, some reply)
    | none =>
      ({ supervisor with host, pending := ⟨joiner, target, true⟩ :: supervisor.pending }, none)

/-- Answers the waits for a thread whose outcome has been recorded. -/
def wakeAll (supervisor : Supervisor) (outcome : Outcome) :
    List PendingJoin → Supervisor × List (ThreadId × JoinReply)
  | [] => (supervisor, [])
  | wait :: rest =>
    let woken := { supervisor with host := supervisor.host.leave wait.joiner }
    let (last, replies) := woken.wakeAll outcome rest
    (last, (wait.joiner, ⟨[], .ok outcome⟩) :: replies)

/-- Lets a thread end, and answers those who wait for it, in ascending order.  As
long as nobody has taken the handle, nobody waits. -/
def finish (supervisor : Supervisor) (thread : ThreadId) (ending : Ending) :
    Supervisor × List (ThreadId × JoinReply) :=
  let ended := { supervisor with endings := (thread, ending) :: supervisor.endings }
  match ended.pending.find? fun wait => wait.target = thread && wait.holdsHandle with
  | none => (ended, [])
  | some holder =>
    let parked := ended.pending.filter fun wait => wait.target = thread && !wait.holdsHandle
    let others := ended.pending.filter fun wait => wait.target ≠ thread
    let (settled, reply) := { ended with pending := others }.settle holder.joiner thread ending
    let (woken, replies) := settled.wakeAll ending.outcome parked
    (woken, ((holder.joiner, reply) :: replies).mergeSort fun left right => left.1 ≤ right.1)

/-- Records the outcomes of threads that nobody waited for.  `tries` bounds the
number of looks at the table. -/
def collectFrom (supervisor : Supervisor) :
    (tries : Nat) → Supervisor × List Notice × List (ThreadId × Outcome)
  | 0 => (supervisor, [], [])
  | tries + 1 =>
    match supervisor.host.collect with
    | (host, .complete outcomes) => ({ supervisor with host }, [], outcomes)
    | (host, .parked) => ({ supervisor with host }, [], [])
    | (host, .taken thread) =>
      match supervisor.ending? thread with
      | none => ({ supervisor with host }, [], [])
      | some ending =>
        let recorded := { supervisor with host := host.record thread ending.outcome }
        let (last, notices, outcomes) := recorded.collectFrom tries
        (last, ending.notices thread ++ notices, outcomes)

/-- Collects the outcomes of all threads, which have to have ended.  Each look but
the last records one outcome. -/
def collect (supervisor : Supervisor) :
    Supervisor × List Notice × List (ThreadId × Outcome) :=
  supervisor.collectFrom (supervisor.host.slots.length + 1)

/-- The threads that have not ended, in ascending order. -/
def unfinished (supervisor : Supervisor) : List ThreadId :=
  (supervisor.host.slots.map Prod.fst).filter fun thread =>
    (supervisor.ending? thread).isNone

/-- Lets every thread that has not ended do so, in ascending order, and answers
those who wait for them. -/
def finishAll (supervisor : Supervisor) (ending : Ending) :
    List ThreadId → Supervisor × List (ThreadId × List (ThreadId × JoinReply))
  | [] => (supervisor, [])
  | thread :: rest =>
    let (ended, replies) := supervisor.finish thread ending
    let (last, later) := ended.finishAll ending rest
    (last, (thread, replies) :: later)

end Supervisor
end CommandMachine
