import CommandMachine.Outcome
namespace CommandMachine

/-!
The host keeps the threads of a run.  A thread is running, or somebody waits for
its end with its handle, or its outcome is known.  Any number of engines may wait
for the same thread: the first one takes the handle and records the outcome, the
others wait until it is recorded.  Who waits for whom is kept as a graph, and a
wait that would close a circle in it is refused.

Each operation below is one undivided section: while it happens nothing else
happens to the host.
-/

/-- Where a thread is in its life. -/
inductive ThreadSlot where
  /-- Nobody has taken the handle. -/
  | running
  /-- Somebody has taken the handle and waits. -/
  | joining
  /-- The outcome is known. -/
  | finished (outcome : Outcome)
deriving DecidableEq

/-- Whether the outcome of a thread is known. -/
def ThreadSlot.isFinished : ThreadSlot → Bool
  | .finished _ => true
  | _ => false

/-- The threads of a run in ascending order, the waits in progress, and the number
of the next thread. -/
structure Host where
  slots : List (ThreadId × ThreadSlot)
  waiting : List (ThreadId × ThreadId)
  nextId : ThreadId
deriving DecidableEq

/-- How a wait goes on after one look at the table. -/
inductive JoinStep where
  /-- It is refused. -/
  | refused (cause : Cause)
  /-- The outcome is known. -/
  | known (outcome : Outcome)
  /-- Somebody else has the handle. -/
  | parked
  /-- The handle has been taken. -/
  | taken
deriving DecidableEq

/-- How collecting all threads goes on after one look at the table. -/
inductive CollectStep where
  /-- The handle of a running thread has been taken. -/
  | taken (thread : ThreadId)
  /-- Somebody still waits. -/
  | parked
  /-- All outcomes, in ascending order of their threads. -/
  | complete (outcomes : List (ThreadId × Outcome))
deriving DecidableEq

namespace Host

/-- No threads.  The first one gets the number behind that of the main engine. -/
def empty : Host :=
  ⟨[], [], ThreadId.initial + 1⟩

def slot? (host : Host) (thread : ThreadId) : Option ThreadSlot :=
  host.slots.lookup thread

/-- Puts a slot at its place in an ascending table. -/
def insertSlot (thread : ThreadId) (slot : ThreadSlot) :
    List (ThreadId × ThreadSlot) → List (ThreadId × ThreadSlot)
  | [] => [(thread, slot)]
  | (other, present) :: rest =>
    if thread < other then (thread, slot) :: (other, present) :: rest
    else if thread = other then (thread, slot) :: rest
    else (other, present) :: insertSlot thread slot rest

/-- Sets what is known of a thread. -/
def setSlot (host : Host) (thread : ThreadId) (slot : ThreadSlot) : Host :=
  { host with slots := insertSlot thread slot host.slots }

/-- The thread that an engine waits for. -/
def awaits? (host : Host) (joiner : ThreadId) : Option ThreadId :=
  host.waiting.lookup joiner

def leave (host : Host) (joiner : ThreadId) : Host :=
  { host with waiting := host.waiting.filter fun wait => wait.1 ≠ joiner }

/-- Lets an engine wait for a thread. -/
def await (host : Host) (joiner target : ThreadId) : Host :=
  { host with waiting := (joiner, target) :: (host.leave joiner).waiting }

/-- Whether `goal` is met on the way along at most `steps` waits, `current`
included. -/
def meets (host : Host) (goal : ThreadId) : (steps : Nat) → (current : ThreadId) → Bool
  | 0, _ => false
  | steps + 1, current =>
    if current = goal then true
    else
      match host.awaits? current with
      | some next => host.meets goal steps next
      | none => false

/-- Whether a wait of `joiner` for `target` closes a circle of waits.  A way that
meets nobody twice has at most one engine more than there are waits. -/
def closesCycle (host : Host) (joiner target : ThreadId) : Bool :=
  host.meets joiner (host.waiting.length + 1) target

/-- Takes a number for a new thread. -/
def takeId (host : Host) : ThreadId × Host :=
  (host.nextId, { host with nextId := host.nextId + 1 })

/-- Enters a thread that has been started into the table. -/
def enter (host : Host) (thread : ThreadId) : Host :=
  host.setSlot thread .running

/-- One look at the table on behalf of an engine that waits for a thread. -/
def lookFor (host : Host) (joiner target : ThreadId) : Host × JoinStep :=
  match host.slot? target with
  | none => (host, .refused (.unknownThread (Int64.ofNat target)))
  | some (.finished outcome) => (host, .known outcome)
  | some slot =>
    if host.closesCycle joiner target then (host, .refused (.joinCycle target))
    else
      match slot with
      | .running => ((host.setSlot target .joining).await joiner target, .taken)
      | _ => (host.await joiner target, .parked)

/-- The first look of an engine that waits for a thread.  Nobody waits for
itself. -/
def beginJoin (host : Host) (joiner target : ThreadId) : Host × JoinStep :=
  if joiner = target then (host, .refused (.selfJoin target))
  else host.lookFor joiner target

/-- A further look of an engine that was parked. -/
def wake (host : Host) (joiner target : ThreadId) : Host × JoinStep :=
  (host.leave joiner).lookFor joiner target

def record (host : Host) (thread : ThreadId) (outcome : Outcome) : Host :=
  host.setSlot thread (.finished outcome)

/-- The first thread whose handle nobody has taken. -/
def firstRunning? (host : Host) : Option ThreadId :=
  (host.slots.find? fun entry => entry.2 = .running).map Prod.fst

/-- Whether somebody waits for a thread or holds a handle. -/
def isBusy (host : Host) : Bool :=
  (host.slots.any fun entry => entry.2 = .joining) || !host.waiting.isEmpty

def outcomes (host : Host) : List (ThreadId × Outcome) :=
  host.slots.filterMap fun entry =>
    match entry.2 with
    | .finished outcome => some (entry.1, outcome)
    | _ => none

/-- One look at the table on behalf of the one who collects all threads.  In the
end the host forgets them. -/
def collect (host : Host) : Host × CollectStep :=
  match host.firstRunning? with
  | some thread => (host.setSlot thread .joining, .taken thread)
  | none =>
    if host.isBusy then (host, .parked)
    else ({ host with slots := [] }, .complete host.outcomes)

/-- How many threads have no known outcome. -/
def active (host : Host) : Nat :=
  host.slots.countP fun entry => !entry.2.isFinished

end Host
end CommandMachine
