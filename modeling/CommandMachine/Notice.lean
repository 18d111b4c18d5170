import CommandMachine.Event
import CommandMachine.Program
import CommandMachine.Stack
namespace CommandMachine

/-!
Notices tell an operator what the machine does.  They are no part of a program's
result.  Each notice has a level, and an operator chooses the level from which on
to see them.
-/

/-- How urgent a notice is. -/
inductive Level where
  | error
  | warn
  | info
  | debug
  | trace
deriving DecidableEq, Repr

namespace Level

/-- The rank of a level, the most urgent first. -/
def rank : Level → Nat
  | .error => 1
  | .warn => 2
  | .info => 3
  | .debug => 4
  | .trace => 5

def name : Level → String
  | .error => "ERROR"
  | .warn => "WARN"
  | .info => "INFO"
  | .debug => "DEBUG"
  | .trace => "TRACE"

/-- All levels, the most urgent first. -/
def all : List Level :=
  [.error, .warn, .info, .debug, .trace]

/-- The level of a given name, in any mixture of upper and lower case. -/
def ofName? (name : String) : Option Level :=
  all.find? fun level => level.name == Text.upper name

end Level

inductive Notice where
  | resolved (labels functions macros instructions : Nat)
  | ignoredArguments (line : Nat) (name : String)
  | assembled (line counter : Nat) (instruction : Instruction)
  | compiled (instructions : Nat)
  | started (thread : ThreadId) (counter : Nat)
  | ended (thread : ThreadId) (status : Status) (steps : Nat)
  | stopRequested (thread : ThreadId) (counter : Nat)
  | executing (thread : ThreadId) (counter : Nat) (instruction : Instruction)
  | optimized (thread : ThreadId) (dropped : Nat)
  | sifted (thread : ThreadId) (names : List String)
  | pingFault (thread : ThreadId) (counter attempt : Nat)
  | joined (thread target : ThreadId) (status : Status)
  | faulted (thread : ThreadId) (fault : Fault)
  | stackDropped (value : Value)
  | pageAppended (page : Nat)
  | hostSpawned (thread : ThreadId)
  | hostDeadlock (joiner target : ThreadId)
  | hostJoined (joiner target : ThreadId) (status : Status)
  | hostCrashed (thread : ThreadId)
  | mainCrashed
  | observed (origin : ThreadId) (event : Event)
deriving DecidableEq

namespace Notice

/-- How urgent an event is when events are told as notices. -/
def eventLevel : Event → Level
  | .printed _ => .info
  | .evicted _ => .debug
  | .retried _ _ => .debug
  | .spawned _ _ => .debug
  | .faulted _ => .warn
  | .halted => .debug

def eventMessage : Event → String
  | .printed value => value.render
  | .evicted names => "evicted " ++ Text.quotedList names
  | .retried counter attempt =>
    "ping retry " ++ toString attempt ++ " at pc " ++ toString counter
  | .spawned thread entry => "spawned " ++ thread.render ++ " at pc " ++ toString entry
  | .faulted fault => fault.message
  | .halted => "halted"

/-- How urgent a notice is. -/
def level : Notice → Level
  | .resolved _ _ _ _ => .debug
  | .ignoredArguments _ _ => .debug
  | .assembled _ _ _ => .trace
  | .compiled _ => .debug
  | .started _ _ => .info
  | .ended _ _ _ => .info
  | .stopRequested _ _ => .debug
  | .executing _ _ _ => .trace
  | .optimized _ _ => .trace
  | .sifted _ _ => .debug
  | .pingFault _ _ _ => .debug
  | .joined _ _ _ => .debug
  | .faulted _ _ => .warn
  | .stackDropped _ => .trace
  | .pageAppended _ => .trace
  | .hostSpawned _ => .debug
  | .hostDeadlock _ _ => .warn
  | .hostJoined _ _ _ => .debug
  | .hostCrashed _ => .error
  | .mainCrashed => .error
  | .observed _ event => eventLevel event

def message : Notice → String
  | .resolved labels functions macros instructions =>
    "resolved " ++ toString labels ++ " labels, " ++ toString functions ++ " functions, " ++
      toString macros ++ " macros over " ++ toString instructions ++ " instructions"
  | .ignoredArguments line name =>
    "L" ++ toString line ++ ": arguments to macro '" ++ name ++ "' are ignored"
  | .assembled line counter instruction =>
    "L" ++ toString line ++ " pc " ++ toString counter ++ ": " ++ instruction.render
  | .compiled instructions => "compiled " ++ toString instructions ++ " instructions"
  | .started thread counter => thread.render ++ ": running from pc " ++ toString counter
  | .ended thread status steps =>
    thread.render ++ ": " ++ status.name ++ " after " ++ toString steps ++ " steps"
  | .stopRequested thread counter =>
    thread.render ++ ": stop requested at pc " ++ toString counter
  | .executing thread counter instruction =>
    thread.render ++ " pc " ++ toString counter ++ ": " ++ instruction.render
  | .optimized thread dropped => thread.render ++ ": optimize dropped " ++ toString dropped
  | .sifted thread names => thread.render ++ ": sift evicted " ++ Text.quotedList names
  | .pingFault thread counter attempt =>
    thread.render ++ ": ping fault at pc " ++ toString counter ++ ", retry " ++
      toString attempt
  | .joined thread target status =>
    thread.render ++ ": joined " ++ target.render ++ ", " ++ status.name
  | .faulted thread fault => thread.render ++ ": " ++ fault.message
  | .stackDropped value => "stack full, dropped " ++ value.render
  | .pageAppended page => "memory: appended page " ++ toString page
  | .hostSpawned thread => "host: spawned " ++ thread.render
  | .hostDeadlock joiner target =>
    "host: " ++ joiner.render ++ " joining " ++ target.render ++ " would deadlock"
  | .hostJoined joiner target status =>
    "host: " ++ joiner.render ++ " joined " ++ target.render ++ ", " ++ status.name
  | .hostCrashed thread => "host: " ++ thread.render ++ " panicked"
  | .mainCrashed => "main engine panicked"
  | .observed origin event => "[" ++ origin.render ++ "] " ++ eventMessage event

/-- What an engine tells when it pushes a value onto its stack. -/
def ofPush (stack : EvaluationStack) : List Notice :=
  stack.overflow?.toList.map .stackDropped

/-- What is told when a slot of a memory is taken. -/
def ofAllocate (memory : Memory) : List Notice :=
  if memory.isFull then [.pageAppended memory.pages.length] else []

/-- Whether an operator who chose `limit` sees the notice. -/
def isVisible (limit : Level) (notice : Notice) : Bool :=
  notice.level.rank ≤ limit.rank

end Notice

/-- What an engine reports while it runs: events for everyone, notices for the
operator. -/
inductive Report where
  | event (shown : Event)
  | notice (told : Notice)
deriving DecidableEq

namespace Report

def event? : Report → Option Event
  | .event shown => some shown
  | .notice _ => none

def notice? : Report → Option Notice
  | .event _ => none
  | .notice told => some told

/-- The notice that a report is when events are told as notices. -/
def toNotice (origin : ThreadId) : Report → Notice
  | .event shown => .observed origin shown
  | .notice told => told

end Report
end CommandMachine
