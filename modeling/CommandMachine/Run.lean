import CommandMachine.Engine.Step
import CommandMachine.Host.Supervisor
import CommandMachine.Stop
namespace CommandMachine

/-!
A run is a program executed by one or more engines.  Engines take turns: a turn
is one step of one engine, or the beginning or the end of its wait for another
one.  Any order of turns is a run; `Run.advance` chooses the engine that was
started last among those that can move, so that a new engine runs to its end
before the engine that started it goes on.

If the settings share registers and memory, the run holds them, and an engine is
given them at the beginning of its turn.
-/

/-- What an engine of a run is doing. -/
inductive Phase where
  /-- Executing, or at its end. -/
  | ready
  /-- Waiting for another engine. -/
  | waiting
  /-- Having waited, with the answer. -/
  | answered (reply : JoinReply)
  /-- Broken down. -/
  | crashed
  /-- Never started, because the system refused it.  Its number stays used up. -/
  | refused

/-- An engine with what it is doing. -/
structure Thread where
  engine : Engine
  phase : Phase

/-- When a run is asked to stop from outside. -/
inductive StopPlan where
  /-- Never. -/
  | never
  /-- As soon as the main engine has shown a number of events. -/
  | atEvent (count : Nat)
  /-- As soon as the backend is asked for the first time. -/
  | atInference
deriving DecidableEq, Repr

structure Run where
  context : Context
  backend : Inference
  plan : StopPlan
  /-- Whether the main engine is moved step by step by the caller, who then needs no
  notice of its start and its end. -/
  manual : Bool
  /-- The engines.  The engine of thread `i` stands at position `i`. -/
  threads : List Thread
  /-- The registers and memory that all engines use, if they are shared. -/
  common : Stores
  supervisor : Supervisor
  stop : StopSignal
  /-- Why the system refuses to start another thread at present, if it does. -/
  refusal : Option String
  /-- How often the backend has been asked. -/
  inferences : Nat
  /-- All reports with the engines that made them, the latest first. -/
  journal : List (ThreadId × Report)

namespace Thread

/-- Whether the engine of a thread has come to its end. -/
def isOver (thread : Thread) : Bool :=
  match thread.phase with
  | .crashed => true
  | .refused => true
  | _ => thread.engine.status.isFinal

/-- Whether a turn of the thread would change anything. -/
def isRunnable (thread : Thread) : Bool :=
  match thread.phase with
  | .ready => !thread.engine.status.isFinal
  | .answered _ => true
  | .waiting => false
  | .crashed => false
  | .refused => false

end Thread

namespace Run

/-- A run whose main engine is about to start. -/
def create (context : Context) (backend : Inference) (plan : StopPlan) (manual : Bool)
    (faults : FaultSource) : Run :=
  let engine := Engine.first context.settings faults
  { context, backend, plan, manual
    threads := [⟨engine, .ready⟩]
    common := engine.stores
    supervisor := .empty
    stop := .clear
    refusal := none
    inferences := 0
    journal := if manual then [] else [(.initial, .notice (.started .initial 0))] }

def report (run : Run) (thread : ThreadId) (reports : List Report) : Run :=
  { run with
    journal := reports.foldl (fun journal report => (thread, report) :: journal) run.journal }

/-- All reports with the engines that made them, in order. -/
def reports (run : Run) : List (ThreadId × Report) :=
  run.journal.reverse

def eventsOf (run : Run) (thread : ThreadId) : List Event :=
  run.reports.filterMap fun entry =>
    if entry.1 = thread then entry.2.event? else none

/-- The engine of a thread with the registers and memory it uses. -/
def view (run : Run) (engine : Engine) : Engine :=
  match run.context.settings.isolation with
  | .shared => { engine with stores := run.common }
  | .isolated => engine

def setThread (run : Run) (id : ThreadId) (thread : Thread) : Run :=
  { run with threads := run.threads.set id thread }

/-- Replaces an engine after its turn, and with it the shared registers and
memory. -/
def setEngine (run : Run) (id : ThreadId) (engine : Engine) : Run :=
  let common := match run.context.settings.isolation with
    | .shared => engine.stores
    | .isolated => run.common
  { run.setThread id ⟨engine, .ready⟩ with common }

/-- Gives their answers to engines that have waited. -/
def answer (run : Run) (replies : List (ThreadId × JoinReply)) : Run :=
  { run with
    threads := run.threads.mapIdx fun id thread =>
      match replies.lookup id with
      | some reply => { thread with phase := .answered reply }
      | none => thread }

def conclude (run : Run) (id : ThreadId) (ending : Ending) : Run :=
  let (supervisor, replies) := run.supervisor.finish id ending
  { run with supervisor }.answer replies

/-- Tells how an engine came to its end, unless the caller sees it. -/
def farewell (run : Run) (id : ThreadId) (engine : Engine) : List Report :=
  if run.manual && id = .initial then []
  else [.notice (.ended id engine.status engine.steps)]

/-- Asks the run to stop if the plan says so. -/
def applyPlan (run : Run) : Run :=
  match run.plan with
  | .never => run
  | .atEvent count =>
    if (run.eventsOf .initial).length < count then run else { run with stop := run.stop.request }
  | .atInference => if run.inferences = 0 then run else { run with stop := run.stop.request }

/-- The answers that an engine gets if it asks for nothing. -/
def surroundings (run : Run) : Surroundings where
  stopRequested := run.stop.isRequested
  infer := fun _ => .unset
  spawn := match run.refusal with
    | none => .ok run.supervisor.nextThread
    | some reason => .error reason
  join := fun _ => ⟨[], .ok .crashed⟩

/-- One step of an engine with the given answers. -/
def commit (run : Run) (id : ThreadId) (engine : Engine) (surroundings : Surroundings) : Run :=
  let (moved, reports) := engine.step run.context surroundings
  let run := ((run.report id reports).setEngine id moved).applyPlan
  if moved.status.isFinal then
    (run.report id (run.farewell id moved)).conclude id (.returned moved.outcome)
  else run

/-- Starts another engine, unless the system refuses it.  An engine that is refused takes its
place among the others but never moves. -/
def startChild (run : Run) (engine : Engine) (entry : Nat) : Run :=
  let id := run.supervisor.nextThread
  let child := engine.child run.context.settings id entry
  match run.refusal with
  | none =>
    let run := { run with
      supervisor := run.supervisor.spawn
      threads := run.threads ++ [Thread.mk child .ready] }
    run.report id [.notice (.started id entry)]
  | some _ =>
    { run with
      supervisor := run.supervisor.skip
      threads := run.threads ++ [Thread.mk child .refused] }

/-- Lets an engine break down after it has told something. -/
def crash (run : Run) (id : ThreadId) (thread : Thread) (reports : List Report) : Run :=
  let told := (run.report id reports).applyPlan
  (told.setThread id { thread with phase := .crashed }).conclude id .crashed

/-- The turn of an engine that is executing. -/
def turnReady (run : Run) (id : ThreadId) (thread : Thread) : Run :=
  let engine := run.view thread.engine
  match engine.request? run.context run.stop.isRequested with
  | none => run.commit id engine run.surroundings
  | some (.infer payload) =>
    match run.backend payload with
    | none => run.crash id thread (engine.announcement run.context)
    | some value =>
      { run with inferences := run.inferences + 1 }.commit id engine
        { run.surroundings with infer := fun _ => value }
  | some (.spawn entry) => (run.startChild engine entry).commit id engine run.surroundings
  | some (.join target) =>
    match run.supervisor.join id target with
    | (supervisor, some reply) =>
      { run with supervisor }.commit id engine
        { run.surroundings with join := fun _ => reply }
    | (supervisor, none) =>
      { run with supervisor }.setThread id { thread with phase := .waiting }

/-- The turn of one engine.  An engine that cannot move does not, and one that asks too much
of the machine breaks down.  One that has waited completes its instruction even if the run
has been asked to stop meanwhile. -/
def turn (run : Run) (id : ThreadId) : Run :=
  match run.threads[id]? with
  | none => run
  | some thread =>
    match thread.phase with
    | .crashed => run
    | .refused => run
    | .waiting => run
    | .answered reply =>
      run.commit id (run.view thread.engine)
        { run.surroundings with stopRequested := false, join := fun _ => reply }
    | .ready =>
      if thread.engine.status.isFinal then run
      else
        match (run.view thread.engine).breakdown? run.context run.stop.isRequested with
        | some reports => run.crash id thread reports
        | none => run.turnReady id thread

def lastRunnable? (run : Run) : Option ThreadId :=
  (run.threads.reverse.findIdx? Thread.isRunnable).map fun later =>
    run.threads.length - 1 - later

/-- The turn of the engine that was started last among those from `first` on that
can move. -/
def advance? (run : Run) (first : ThreadId) : Option Run :=
  (run.lastRunnable?.filter fun id => first ≤ id).map run.turn

/-- Turns of the engines from `first` on until none of them can move, but at most
`limit` turns. -/
def advance (run : Run) (first : ThreadId) : (limit : Nat) → Run
  | 0 => run
  | limit + 1 =>
    match run.advance? first with
    | none => run
    | some next => next.advance first limit

/-- Executes the run, for at most `limit` turns. -/
def execute (run : Run) (limit : Nat) : Run :=
  run.advance .initial limit

/-- One step of the main engine by the caller, after which the other engines run as
far as they can. -/
def stepMain (run : Run) (limit : Nat) : Run :=
  (run.turn .initial).advance (ThreadId.initial + 1) limit

/-- From now on the system refuses threads for the given reason, or no longer does so. -/
def setRefusal (run : Run) (refusal : Option String) : Run :=
  { run with refusal }

def requestStop (run : Run) : Run :=
  { run with stop := run.stop.request }

/-- The main engine with the registers and memory it uses. -/
def mainEngine (run : Run) : Engine :=
  match run.threads[ThreadId.initial]? with
  | some thread => run.view thread.engine
  | none => Engine.first run.context.settings (.ofSeed 0)

/-- Changes the registers and memory of the main engine from outside. -/
def changeStores (run : Run) (stores : Stores) : Run :=
  { run with
    common := stores
    threads := run.threads.modify ThreadId.initial fun thread =>
      { thread with engine := { thread.engine with stores } } }

/-- Takes a slot of the main engine's memory from outside. -/
def allocate (run : Run) (value : Value) : Run × Handle :=
  let stores := run.mainEngine.stores
  let (memory, address) := stores.memory.allocate value
  let told := run.report .initial ((Notice.ofAllocate stores.memory).map .notice)
  (told.changeStores { stores with memory }, address)

/-- Gives a slot of the main engine's memory back from outside. -/
def free (run : Run) (address : Handle) : Except MemoryError (Run × Value) :=
  let stores := run.mainEngine.stores
  (stores.memory.free address).map fun (memory, value) =>
    (run.changeStores { stores with memory }, value)

/-- Writes a register of the main engine from outside. -/
def write (run : Run) (name : String) (value : Value) : Run :=
  let stores := run.mainEngine.stores
  run.changeStores { stores with registers := stores.registers.write name value }

/-- Whether the main engine has broken down. -/
def mainCrashed (run : Run) : Bool :=
  match (run.threads[ThreadId.initial]?).map Thread.phase with
  | some .crashed => true
  | _ => false

end Run

structure RunResult where
  main : Outcome
  threads : List (ThreadId × Outcome)
  /-- What is told by the one who collects the outcomes. -/
  notices : List Notice

namespace RunResult

/-- Every fault of a run, that of the main engine first. -/
def faults (result : RunResult) : List (ThreadId × Fault) :=
  ((ThreadId.initial, result.main) :: result.threads).filterMap fun entry =>
    entry.2.status.fault?.map fun fault => (entry.1, fault)

/-- Whether no engine ended in a fault. -/
def isClean (result : RunResult) : Bool :=
  result.faults.isEmpty

end RunResult

namespace Run

def mainOutcome (run : Run) : Outcome :=
  if run.mainCrashed then .crashed
  else
    match run.threads[ThreadId.initial]? with
    | some thread => thread.engine.outcome
    | none => .crashed

/-- What the run came to, once no engine can move. -/
def result (run : Run) : RunResult :=
  let (_, notices, threads) := run.supervisor.collect
  { main := run.mainOutcome
    threads
    notices := (if run.mainCrashed then [.mainCrashed] else []) ++ notices }

/-- What the engines tell, in order.  Events are among it only if `withEvents`. -/
def notices (run : Run) (withEvents : Bool) : List (ThreadId × Notice) :=
  run.reports.filterMap fun (thread, report) =>
    if withEvents then some (thread, report.toNotice thread)
    else report.notice?.map fun notice => (thread, notice)

/-- The numbers of the engines, in ascending order. -/
def threadIds (run : Run) : List ThreadId :=
  List.range run.threads.length

end Run
end CommandMachine
