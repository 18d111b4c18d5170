import CommandMachine.Proofs.Lockstep
namespace CommandMachine

/-!
# The events of an engine

Four operations show something while they are executed, and the end of an engine shows
that it has ended.  Nothing else is ever shown.  So the events of an engine are those
that its instructions owe, in the order of their execution, and behind them one more if
and only if the engine has come to its end.  An engine that has ended shows nothing and
changes no more, however often it is moved.

This holds of every engine by itself: the answers of the surroundings are arbitrary, and
between two steps others may change the stores in any way.
-/

/-- Whether an event says that an engine has come to its end. -/
def Event.isClosing : Event → Bool
  | .halted => true
  | .faulted _ => true
  | _ => false

/-- The event that goes with the end of an engine, once it has come to it. -/
def Status.closing? : Status → Option Event
  | .halted => some .halted
  | .faulted fault => some (.faulted fault)
  | _ => none

/-- Whether an engine can be moved again after an operation. -/
def Control.goesOn : Control → Bool
  | .next => true
  | .jump _ => true
  | .retry => true
  | .halt => false
  | .fault _ => false

/-- The place in the program that is the first operand. -/
def Operand.leadingTarget? : List Operand → Option Nat
  | .target counter :: _ => some counter
  | _ => none

namespace Engine

/-- Whether a check fails and is to be made once more. -/
def repeats (engine : Engine) (policy : PingPolicy) (operands : List Operand) : Bool :=
  (isForced operands || (policy.signals engine.faults).1) && engine.attempts < policy.maxRetries

/-- The event that executing an operation owes: the value that is taken off the stack to
be printed, the registers that are swept out, the repetition of a check, the start of
another engine. -/
def due? (engine : Engine) (settings : Settings) (surroundings : Surroundings) (op : Op)
    (operands : List Operand) : Option Event :=
  match op with
  | .print => engine.stack.peek?.map .printed
  | .sift => some (.evicted engine.stores.registers.unwritten)
  | .ping =>
    if engine.repeats settings.ping operands then
      some (.retried engine.counter (engine.attempts + 1))
    else none
  | .thread =>
    match surroundings.spawn with
    | .error _ => none
    | .ok thread => (Operand.leadingTarget? operands).map fun entry => .spawned thread entry
  | _ => none

/-- The event that the next step owes, the end of the engine apart. -/
def dueNext? (engine : Engine) (context : Context) (surroundings : Surroundings) :
    Option Event :=
  match engine.fetch context surroundings.stopRequested with
  | .operation op instruction => engine.due? context.settings surroundings op instruction.operands
  | _ => none

/-- What the one who moves an engine is told: whether it can be moved again. -/
def goesOn (engine : Engine) (context : Context) (surroundings : Surroundings) : Bool :=
  match engine.fetch context surroundings.stopRequested with
  | .operation op instruction =>
    (engine.wake.tick.execute context.settings surroundings op
      instruction.operands).control.goesOn
  | _ => false

end Engine

/-! ## What operations show -/

def Effect.events (effect : Effect) : List Event :=
  Report.events effect.reports

namespace Effect

@[simp] theorem events_next (engine : Engine) : (next engine).events = [] := rfl

@[simp] theorem events_fault (engine : Engine) (cause : Cause) :
    (fault engine cause).events = [] := rfl

@[simp] theorem events_push (engine : Engine) (value : Value) :
    (push engine value).events = [] :=
  Report.events_notices _

@[simp] theorem events_after (reports : List Report) (effect : Effect) :
    (effect.after reports).events = Report.events reports ++ effect.events :=
  Report.events_append _ _

end Effect

namespace Engine

section Silence

variable {engine : Engine} {op : Op} {operands : List Operand}

theorem events_withPop {use : Value → Engine → Effect}
    (silent : ∀ value stack, (use value { engine with stack }).events = []) :
    (engine.withPop use).events = [] := by
  unfold withPop
  split
  · rfl
  · exact silent _ _

theorem events_withPopHandle {use : Handle → Engine → Effect}
    (silent : ∀ address stack, (use address { engine with stack }).events = []) :
    (engine.withPopHandle op use).events = [] := by
  refine events_withPop fun value stack => ?_
  cases value with
  | handle address => exact silent address stack
  | unset => rfl
  | integer number => rfl
  | float number => rfl
  | text content => rfl

theorem events_withRegister {use : String → Effect}
    (silent : ∀ name, (use name).events = []) :
    (engine.withRegister op operands use).events = [] := by
  unfold withRegister
  split
  · exact silent _
  · rfl

theorem events_withTarget {use : Nat → Effect} (silent : ∀ target, (use target).events = []) :
    (engine.withTarget op operands use).events = [] := by
  unfold withTarget
  split
  · exact silent _
  · rfl

theorem events_flowCmp : (engine.flowCmp operands).events = [] := by
  unfold flowCmp
  repeat' split
  all_goals rfl

theorem events_write : (engine.write operands).events = [] := by
  refine events_withRegister fun name => ?_
  dsimp only
  split <;> rfl

theorem events_arithmetic (operation : Arithmetic.Operation) :
    (engine.arithmetic op operation).events = [] := by
  refine events_withPop fun right stack => events_withPop fun left rest => ?_
  cases Arithmetic.apply operation left right with
  | ok value => exact Effect.events_push _ value
  | error failure => rfl

theorem events_jumpIf (wanted : Bool) : (engine.jumpIf op wanted operands).events = [] := by
  refine events_withTarget fun target => events_withPop fun value stack => ?_
  repeat' split
  all_goals rfl

theorem events_call : (engine.call operands).events = [] := by
  refine events_withTarget fun target => ?_
  split <;> rfl

theorem events_ret : engine.ret.events = [] := by
  unfold ret
  split <;> rfl

theorem events_join (surroundings : Surroundings) : (engine.join surroundings).events = [] := by
  refine events_withPop fun value stack => ?_
  cases value with
  | integer number =>
      dsimp only
      split
      · rfl
      · split
        · rw [Effect.events_after, Report.events_notices]
          rfl
        · rw [Effect.events_after, Report.events_notices]
          rfl
  | unset => rfl
  | float number => rfl
  | text content => rfl
  | handle address => rfl

theorem events_alloc : engine.alloc.events = [] := by
  refine events_withPop fun value stack => ?_
  rw [Effect.events_after, Report.events_notices, Effect.events_push]
  rfl

theorem events_free : engine.free.events = [] := by
  refine events_withPopHandle fun address stack => ?_
  dsimp only
  split <;> rfl

theorem events_load : engine.load.events = [] := by
  refine events_withPopHandle fun address stack => ?_
  dsimp only
  split
  · rfl
  · exact Effect.events_push _ _

theorem events_store : engine.store.events = [] := by
  refine events_withPop fun value stack => events_withPopHandle fun address rest => ?_
  dsimp only
  split
  · rfl
  · exact Effect.events_push _ _

end Silence

section Shows

variable (engine : Engine) (operands : List Operand)

theorem events_print : engine.print.events = (engine.stack.peek?.map Event.printed).toList := by
  unfold print withPop EvaluationStack.pop? EvaluationStack.peek?
  cases engine.stack.items with
  | nil => rfl
  | cons value rest => rfl

theorem events_retry (policy : PingPolicy) :
    (engine.retry policy).events =
      if engine.attempts < policy.maxRetries then
        [.retried engine.counter (engine.attempts + 1)]
      else [] := by
  unfold retry
  dsimp only
  by_cases left : engine.attempts < policy.maxRetries
  · rw [if_neg (Nat.not_lt.mpr left), if_pos left]
    rfl
  · rw [if_pos (Nat.lt_succ_of_le (Nat.le_of_not_lt left)), if_neg left]
    rfl

theorem events_ping (policy : PingPolicy) :
    (engine.ping policy operands).events =
      if engine.repeats policy operands then [.retried engine.counter (engine.attempts + 1)]
      else [] := by
  unfold ping repeats
  dsimp only
  cases isForced operands with
  | true => simp [events_retry]
  | false =>
      cases failed : (policy.signals engine.faults).1 with
      | true => simp [events_retry]
      | false => simp

theorem events_startThread (settings : Settings) (surroundings : Surroundings) :
    (engine.startThread surroundings operands).events =
      (engine.due? settings surroundings .thread operands).toList := by
  have shown (entry : Nat) (rest : List Operand) :
      (engine.startThread surroundings (.target entry :: rest)).events =
        (engine.due? settings surroundings .thread (.target entry :: rest)).toList := by
    unfold startThread withTarget Engine.due? Operand.leadingTarget?
    cases surroundings.spawn with
    | error reason => rfl
    | ok thread =>
        dsimp only
        rw [Effect.events_after, Effect.events_push]
        rfl
  have silent (other : Operand.leadingTarget? operands = none) :
      (engine.due? settings surroundings .thread operands).toList = [] := by
    unfold Engine.due?
    rw [other]
    cases surroundings.spawn <;> rfl
  cases operands with
  | nil => exact (silent rfl).symm
  | cons first rest =>
      cases first with
      | target entry => exact shown entry rest
      | literal value => exact (silent rfl).symm
      | register name => exact (silent rfl).symm
      | word content => exact (silent rfl).symm

/-- An operation shows what it owes and nothing else. -/
theorem events_execute (settings : Settings) (surroundings : Surroundings) (op : Op) :
    (engine.execute settings surroundings op operands).events =
      (engine.due? settings surroundings op operands).toList := by
  cases op with
  | optimize => rfl
  | allocReg => exact events_withRegister fun _ => rfl
  | flowCmp => exact events_flowCmp
  | release => rfl
  | ping =>
      refine (engine.events_ping operands settings.ping).trans ?_
      unfold due?
      split <;> rfl
  | sift => rfl
  | infer => rfl
  | pause => rfl
  | write => exact events_write
  | read => exact events_withRegister fun _ => Effect.events_push _ _
  | add => exact events_arithmetic .add
  | sub => exact events_arithmetic .sub
  | mul => exact events_arithmetic .mul
  | div => exact events_arithmetic .div
  | mod => exact events_arithmetic .mod
  | jump => exact events_withTarget fun _ => rfl
  | jumpZero => exact events_jumpIf true
  | jumpNonzero => exact events_jumpIf false
  | print => exact engine.events_print
  | call => exact events_call
  | ret => exact events_ret
  | thread => exact engine.events_startThread operands settings surroundings
  | join => exact events_join surroundings
  | alloc => exact events_alloc
  | free => exact events_free
  | load => exact events_load
  | store => exact events_store
  | halt => rfl

end Shows

/-! ## One step -/

section Step

variable (engine : Engine) (context : Context) (surroundings : Surroundings)

/-- Whatever it is answered, an operation leaves the identity of an engine, its place, its
status and its count of instructions alone. -/
theorem execute_frame (settings : Settings) (op : Op) (operands : List Operand) :
    Frame engine (engine.execute settings surroundings op operands).engine := by
  by_cases joins : op = .join
  · subst joins
    change Frame engine (engine.join surroundings).engine
    unfold join withPop
    split
    · exact ⟨rfl, rfl, rfl, rfl⟩
    · dsimp only
      repeat' split
      all_goals exact ⟨rfl, rfl, rfl, rfl⟩
  · -- No other operation asks for the answer to a wait, so that it may be an honest one.
    have unasked : engine.execute settings surroundings op operands =
        engine.execute settings { surroundings with join := fun _ => ⟨[], .ok .crashed⟩ } op
          operands := by
      cases op with
      | join => exact absurd rfl joins
      | _ => rfl
    rw [unasked]
    exact (execute_lawful engine settings (fun _ _ failed => by cases failed) op operands).frame

theorem execute_running (active : engine.status.isFinal = false) (op : Op)
    (operands : List Operand) :
    (engine.wake.tick.execute context.settings surroundings op operands).engine.status =
      .running :=
  (execute_frame _ surroundings context.settings op operands).status.trans (wake_status active)

theorem due?_wake_tick (settings : Settings) (op : Op) (operands : List Operand) :
    engine.wake.tick.due? settings surroundings op operands =
      engine.due? settings surroundings op operands := by
  unfold wake
  split <;> rfl

theorem events_announcement : Report.events (engine.announcement context) = [] := by
  unfold announcement
  split <;> rfl

variable {engine}

theorem events_follow (running : engine.status = .running) (control : Control) :
    Report.events (engine.follow control).2 =
      (engine.follow control).1.status.closing?.toList := by
  cases control with
  | next => simp [follow, running, Status.closing?]
  | jump target => simp [follow, running, Status.closing?]
  | retry => simp [follow, running, Status.closing?]
  | halt => rfl
  | fault cause => rfl

theorem isFinal_follow (running : engine.status = .running) (control : Control) :
    (engine.follow control).1.status.isFinal = !control.goesOn := by
  cases control with
  | next => simp [follow, running, Status.isFinal, Control.goesOn]
  | jump target => simp [follow, running, Status.isFinal, Control.goesOn]
  | retry => simp [follow, running, Status.isFinal, Control.goesOn]
  | halt => rfl
  | fault cause => rfl

/-- A step shows what it owes, and the end of the engine if it comes to it. -/
theorem events_step (active : engine.status.isFinal = false) :
    Report.events (engine.step context surroundings).2 =
      (engine.dueNext? context surroundings).toList ++
        (engine.step context surroundings).1.status.closing?.toList := by
  have known := fetch_fetched engine context surroundings.stopRequested
  unfold step dueNext?
  cases fetched : engine.fetch context surroundings.stopRequested with
  | finished =>
      rw [fetched] at known
      simp [Fetched, active] at known
  | stopped => rfl
  | overBudget limit => rfl
  | atEnd => rfl
  | undecodable byte => rfl
  | operation op instruction =>
      have running := execute_running engine context surroundings active op instruction.operands
      have shown := events_execute engine.wake.tick instruction.operands context.settings
        surroundings op
      rw [due?_wake_tick] at shown
      dsimp only
      rw [Report.events_append, Report.events_append, events_announcement,
        events_follow running, List.nil_append]
      exact congrArg (· ++ _) shown

/-- The one who moves an engine is told the truth. -/
theorem goesOn_eq : engine.goesOn context surroundings =
    !(engine.step context surroundings).1.status.isFinal := by
  have known := fetch_fetched engine context surroundings.stopRequested
  unfold step goesOn
  cases fetched : engine.fetch context surroundings.stopRequested with
  | finished =>
      rw [fetched] at known
      exact (congrArg (! ·) known).symm
  | stopped => rfl
  | overBudget limit => rfl
  | atEnd => rfl
  | undecodable byte => rfl
  | operation op instruction =>
      rw [fetched] at known
      have running := execute_running engine context surroundings known.1 op instruction.operands
      dsimp only
      rw [isFinal_follow running, Bool.not_not]

theorem dueNext?_of_final (final : engine.status.isFinal = true) :
    engine.dueNext? context surroundings = none := by
  simp only [dueNext?, fetch, final, if_true]

theorem isClosing_of_dueNext? {event : Event}
    (due : engine.dueNext? context surroundings = some event) : event.isClosing = false := by
  unfold dueNext? at due
  split at due
  · unfold Engine.due? at due
    split at due
    · rcases Option.map_eq_some_iff.mp due with ⟨value, -, rfl⟩
      rfl
    · cases due
      rfl
    · split at due
      · cases due
        rfl
      · cases due
    · split at due
      · cases due
      · rcases Option.map_eq_some_iff.mp due with ⟨entry, -, rfl⟩
        rfl
    · cases due
  · cases due

end Step

/-! ## Whole runs of an engine -/

end Engine

/-- An occasion to move an engine: what others have made of the stores since the last
one, and the answers that the engine gets. -/
structure Occasion where
  stores : Stores → Stores
  surroundings : Surroundings

namespace Engine

def meeting (engine : Engine) (occasion : Occasion) : Engine :=
  { engine with stores := occasion.stores engine.stores }

/-- One step on each of the occasions, with all events that are shown. -/
def attend (engine : Engine) (context : Context) : List Occasion → Engine × List Event
  | [] => (engine, [])
  | now :: later =>
    let (moved, reports) := (engine.meeting now).step context now.surroundings
    let (last, events) := moved.attend context later
    (last, Report.events reports ++ events)

/-- What the instructions that are executed on the occasions owe, in their order. -/
def dueEvents (engine : Engine) (context : Context) : List Occasion → List Event
  | [] => []
  | now :: later =>
    ((engine.meeting now).dueNext? context now.surroundings).toList ++
      ((engine.meeting now).step context now.surroundings).1.dueEvents context later

section Runs

variable {engine : Engine} (context : Context)

/-- Nothing is shown after the end, and the status stays what it is. -/
theorem attend_of_final (final : engine.status.isFinal = true) (occasions : List Occasion) :
    (engine.attend context occasions).1.status = engine.status ∧
      (engine.attend context occasions).2 = [] ∧ engine.dueEvents context occasions = [] := by
  induction occasions generalizing engine with
  | nil => exact ⟨rfl, rfl, rfl⟩
  | cons now later ih =>
      have ended : (engine.meeting now).status.isFinal = true := final
      rcases ih ended with ⟨status, shown, due⟩
      simp only [attend, dueEvents, step_of_final ended, dueNext?_of_final context _ ended]
      exact ⟨status, shown, due⟩

theorem closing?_of_active {status : Status} (active : status.isFinal = false) :
    status.closing? = none := by
  cases status with
  | idle => rfl
  | running => rfl
  | halted => cases active
  | faulted fault => cases active

theorem attend_events (active : engine.status.isFinal = false) (occasions : List Occasion) :
    (engine.attend context occasions).2 = engine.dueEvents context occasions ++
      (engine.attend context occasions).1.status.closing?.toList := by
  induction occasions generalizing engine with
  | nil => simp [attend, dueEvents, closing?_of_active active]
  | cons now later ih =>
      have ready : (engine.meeting now).status.isFinal = false := active
      have shown := events_step context now.surroundings ready
      simp only [attend, dueEvents]
      rw [shown, List.append_assoc, List.append_assoc]
      cases ended : ((engine.meeting now).step context now.surroundings).1.status.isFinal with
      | true =>
          rcases attend_of_final context ended later with ⟨status, silent, due⟩
          rw [silent, due, status, List.append_nil, List.nil_append]
      | false => rw [closing?_of_active ended, Option.toList_none, List.nil_append, ih ended]

theorem isClosing_of_mem_dueEvents {occasions : List Occasion} {event : Event}
    (due : event ∈ engine.dueEvents context occasions) : event.isClosing = false := by
  induction occasions generalizing engine with
  | nil => cases due
  | cons now later ih =>
      rcases List.mem_append.mp due with first | rest
      · exact isClosing_of_dueNext? context now.surroundings (Option.mem_toList.mp first)
      · exact ih rest

end Runs

/-- What the events of an engine say about it.  The instructions that it has executed owe
the events `due`, in their order, and the engine has shown `events`. -/
structure Discloses (context : Context) (engine : Engine) (due events : List Event) : Prop where
  /-- What was owed has been shown in order, and behind it the end if it has come. -/
  shown : events = due ++ engine.status.closing?.toList
  /-- What is owed for an instruction never says that the engine has ended. -/
  ongoing : ∀ event ∈ due, event.isClosing = false
  /-- The end is shown once if it has come, and never before. -/
  once : events.countP Event.isClosing = if engine.status.isFinal then 1 else 0
  halted : .halted ∈ events ↔ engine.status = .halted
  faulted : ∀ fault, .faulted fault ∈ events ↔ engine.status = .faulted fault
  /-- The last report names the fault that was shown. -/
  outcome : ∀ fault, engine.outcome.status.fault? = some fault ↔ .faulted fault ∈ events
  /-- Whoever moves the engine next is told whether it can be moved again. -/
  told : ∀ surroundings, engine.goesOn context surroundings =
    !(engine.step context surroundings).1.status.isFinal
  /-- Once the end has come, a step changes nothing, shows nothing and says so. -/
  absorbed : engine.status.isFinal = true → ∀ surroundings,
    engine.step context surroundings = (engine, []) ∧
      engine.goesOn context surroundings = false

/-- Everything else follows from the order in which events are shown. -/
theorem discloses_of_shown {context : Context} {engine : Engine} {due events : List Event}
    (ongoing : ∀ event ∈ due, event.isClosing = false)
    (shown : events = due ++ engine.status.closing?.toList) :
    Discloses context engine due events := by
  have closing (event : Event) (closes : event.isClosing = true) :
      event ∈ events ↔ engine.status.closing? = some event := by
    have extra : event ∉ due := fun owed => by simp [ongoing event owed] at closes
    rw [shown, List.mem_append, or_iff_right extra, Option.mem_toList]
  have fault (fault : Fault) : .faulted fault ∈ events ↔ engine.status = .faulted fault := by
    rw [closing _ rfl]
    cases engine.status <;> simp [Status.closing?]
  refine ⟨shown, ongoing, ?_, ?_, fault, fun cause => ?_, fun _ => goesOn_eq context _,
    fun final surroundings => ?_⟩
  · have none : due.countP Event.isClosing = 0 :=
      List.countP_eq_zero.mpr fun event owed => by simp [ongoing event owed]
    rw [shown, List.countP_append, none]
    cases engine.status <;> rfl
  · rw [closing _ rfl]
    cases engine.status <;> simp [Status.closing?]
  · rw [fault]
    change engine.status.fault? = some cause ↔ engine.status = .faulted cause
    cases engine.status <;> simp [Status.fault?]
  · refine ⟨step_of_final final context surroundings, ?_⟩
    rw [goesOn_eq, step_of_final final context surroundings, final]
    rfl

/-- **The events of an engine are those of its instructions and of its end.**  An engine
is started anywhere in any program and is moved any number of times; what it is answered
and what others do to the stores is arbitrary.  It has then shown one event for each
value printed, each sweep, each repeated check and each engine started, in the order of
their execution, and at last its end if and only if it has ended. -/
theorem attend_discloses (context : Context) (thread : ThreadId) (entry : Nat)
    (stores : Stores) (faults : FaultSource) (occasions : List Occasion) :
    let engine := create context.settings thread entry stores faults
    Discloses context (engine.attend context occasions).1
      (engine.dueEvents context occasions) (engine.attend context occasions).2 :=
  discloses_of_shown (fun _ => isClosing_of_mem_dueEvents context)
    (attend_events context rfl occasions)

/-- A register that was never written is swept out, a value is printed, and a check fails
once more than it may be repeated.  The last two occasions come too late. -/
example :
    let program : Program := ⟨[⟨.ofOp .read [.register "x"], 1⟩, ⟨.ofOp .sift [], 2⟩,
      ⟨.ofOp .print [], 3⟩, ⟨.ofOp .ping [.word "FAIL"], 4⟩]⟩
    let context : Context := ⟨program, .ofOverrides { pingRetries := some 1 }⟩
    let occasions : List Occasion := List.replicate 7 ⟨id, .alone fun _ => .unset⟩
    ((first context.settings (.ofSeed 1)).attend context occasions).2 =
      [.evicted ["x"], .printed (.integer 0), .retried 3 1,
        .faulted ⟨3, .pingRetriesExhausted 2⟩] := by
  decide +kernel

end Engine
end CommandMachine
