import CommandMachine.Proofs.Causes
import CommandMachine.Proofs.Protocol
import Mathlib.Data.List.DropRight
namespace CommandMachine

/-!
# How often a check is repeated

An engine has one count of failed attempts for all its checks.  A check that fails adds
one to it and is made again at once, until it has been repeated as often as the policy
allows; going on anywhere else sets the count back.  So at every moment the count is the
number of repetitions that lie directly behind the engine, and all of them were made where
the engine still stands.  Nothing is left over from an earlier visit to the same or to
another check.

The course of an engine lists the moments at which it takes a step.  Which of them are
repetitions is read off the way in which the executed operation goes on, not off the count.
-/

/-- An engine that is about to take a step, and the answers that it gets. -/
structure Moment where
  engine : Engine
  surroundings : Surroundings

namespace Engine

/-- Whether a check fails: it is told to, or the draw says so. -/
def fails (engine : Engine) (policy : PingPolicy) (operands : List Operand) : Bool :=
  isForced operands || (policy.signals engine.faults).1

/-- The moments at which an engine takes its steps. -/
def course (engine : Engine) (context : Context) : List Occasion → List Moment
  | [] => []
  | now :: later =>
    ⟨engine.meeting now, now.surroundings⟩ ::
      ((engine.meeting now).step context now.surroundings).1.course context later

end Engine

namespace Moment

def after (context : Context) (moment : Moment) : Engine :=
  (moment.engine.step context moment.surroundings).1

/-- What the step shows. -/
def events (context : Context) (moment : Moment) : List Event :=
  Report.events (moment.engine.step context moment.surroundings).2

/-- What executing an operation comes to at the moment. -/
def effect (context : Context) (moment : Moment) (op : Op) (instruction : Instruction) : Effect :=
  moment.engine.wake.tick.execute context.settings moment.surroundings op instruction.operands

/-- Whether the step executes an operation that is to be executed once more. -/
def retries (context : Context) (moment : Moment) : Bool :=
  match moment.engine.fetch context moment.surroundings.stopRequested with
  | .operation op instruction => (moment.effect context op instruction).control = .retry
  | _ => false

/-- Whether the step makes a check that fails. -/
def signals (context : Context) (moment : Moment) : Bool :=
  match moment.engine.fetch context moment.surroundings.stopRequested with
  | .operation op instruction =>
    op = .ping && moment.engine.fails context.settings.ping instruction.operands
  | _ => false

/-- The last of some moments as far back as they are repetitions. -/
def repeated (context : Context) (past : List Moment) : List Moment :=
  past.rtakeWhile (retries context)

end Moment

/-- The program has a check at a place. -/
def Program.ChecksAt (program : Program) (counter : Nat) : Prop :=
  ∃ instruction, program.get? counter = some instruction ∧ instruction.op? = some .ping

/-! ## One check -/

namespace Engine

section Check

variable (engine : Engine) (policy : PingPolicy) (operands : List Operand)

theorem retry_control : (engine.retry policy).control =
    if engine.attempts < policy.maxRetries then .retry
    else .fault (.pingRetriesExhausted (engine.attempts + 1)) := by
  unfold retry
  dsimp only
  by_cases left : engine.attempts < policy.maxRetries
  · rw [if_neg (Nat.not_lt.mpr left), if_pos left]
  · rw [if_pos (Nat.lt_succ_of_le (Nat.le_of_not_lt left)), if_neg left]
    rfl

/-- A check that fails is repeated as long as the policy allows. -/
theorem ping_control : (engine.ping policy operands).control =
    if engine.fails policy operands then
      if engine.attempts < policy.maxRetries then .retry
      else .fault (.pingRetriesExhausted (engine.attempts + 1))
    else .next := by
  unfold ping fails
  dsimp only
  cases isForced operands with
  | true => exact engine.retry_control policy
  | false =>
      cases (policy.signals engine.faults).1 with
      | true => exact retry_control _ policy
      | false => rfl

theorem retry_attempts : (engine.retry policy).engine.attempts = engine.attempts + 1 := by
  unfold retry
  dsimp only
  split <;> rfl

theorem ping_attempts (failed : engine.fails policy operands = true) :
    (engine.ping policy operands).engine.attempts = engine.attempts + 1 := by
  unfold fails at failed
  unfold ping
  dsimp only
  cases forced : isForced operands with
  | true => exact engine.retry_attempts policy
  | false =>
      rw [forced, Bool.false_or] at failed
      rw [if_neg Bool.false_ne_true, if_pos failed]
      exact retry_attempts _ policy

@[simp] theorem wake_tick_attempts : engine.wake.tick.attempts = engine.attempts := by
  unfold wake
  split <;> rfl

@[simp] theorem wake_tick_fails :
    engine.wake.tick.fails policy operands = engine.fails policy operands := by
  unfold wake
  split <;> rfl

/-- Of all operations only a check owes an attempt. -/
theorem repeats_of_due? {engine : Engine} {settings : Settings} {surroundings : Surroundings}
    {op : Op} {operands : List Operand} {counter attempt : Nat}
    (due : engine.due? settings surroundings op operands = some (.retried counter attempt)) :
    op = .ping ∧ engine.repeats settings.ping operands = true := by
  unfold Engine.due? at due
  split at due
  · rcases Option.map_eq_some_iff.mp due with ⟨value, -, same⟩
    cases same
  · cases due
  · split at due
    · rename_i repeats
      exact ⟨rfl, repeats⟩
    · cases due
  · split at due
    · cases due
    · rcases Option.map_eq_some_iff.mp due with ⟨entry, -, same⟩
      cases same
  · cases due

end Check

/-- Only a check goes on with the same instruction. -/
theorem Directs.checks {engine : Engine} {op : Op} {operands : List Operand} {calls : CallStack}
    (directs : Directs engine op operands calls .retry) : op = .ping := by
  cases directs with
  | again checks => exact checks

end Engine

/-! ## One step -/

namespace Moment

section Step

variable {context : Context} {moment : Moment} {op : Op} {instruction : Instruction}

theorem after_of_operation
    (fetched : moment.engine.fetch context moment.surroundings.stopRequested =
      .operation op instruction) :
    moment.after context = Engine.settled (moment.effect context op instruction) := by
  unfold after Engine.step
  rw [fetched]
  rfl

theorem retries_of_operation
    (fetched : moment.engine.fetch context moment.surroundings.stopRequested =
      .operation op instruction) :
    moment.retries context = decide ((moment.effect context op instruction).control = .retry) := by
  unfold retries
  rw [fetched]

theorem signals_iff : moment.signals context = true ↔ ∃ instruction,
    moment.engine.fetch context moment.surroundings.stopRequested = .operation .ping instruction ∧
      moment.engine.fails context.settings.ping instruction.operands = true := by
  unfold signals
  cases moment.engine.fetch context moment.surroundings.stopRequested with
  | operation op instruction => grind
  | finished => simp
  | stopped => simp
  | overBudget limit => simp
  | atEnd => simp
  | undecodable byte => simp

/-- Where the step goes after a check. -/
theorem control_ping : (moment.effect context .ping instruction).control =
    if moment.engine.fails context.settings.ping instruction.operands then
      if moment.engine.attempts < context.settings.ping.maxRetries then .retry
      else .fault (.pingRetriesExhausted (moment.engine.attempts + 1))
    else .next := by
  refine (Engine.ping_control moment.engine.wake.tick _ _).trans ?_
  rw [Engine.wake_tick_fails, Engine.wake_tick_attempts]

/-- What is repeated is a check that fails while the policy still allows it. -/
theorem retries_iff (honest : moment.surroundings.Honest) :
    moment.retries context = true ↔ moment.signals context = true ∧
      moment.engine.attempts < context.settings.ping.maxRetries := by
  constructor
  · intro again
    unfold retries at again
    split at again
    · rename_i op instruction fetched
      have control := of_decide_eq_true again
      have lawful : Engine.Lawful moment.engine.wake.tick op instruction.operands
          (moment.effect context op instruction) :=
        Engine.execute_lawful moment.engine.wake.tick context.settings honest op _
      have checks : op = .ping := by
        have directs := lawful.directs
        rw [control] at directs
        exact directs.checks
      subst checks
      rw [control_ping] at control
      split at control
      · rename_i failed
        split at control
        · rename_i left
          exact ⟨signals_iff.mpr ⟨instruction, fetched, failed⟩, left⟩
        · cases control
      · cases control
    · cases again
  · rintro ⟨signal, left⟩
    rcases signals_iff.mp signal with ⟨instruction, fetched, failed⟩
    rw [retries_of_operation fetched, control_ping, if_pos failed, if_pos left]
    rfl

/-- What a repetition does: it counts and shows the attempt, and the engine stays at the
check. -/
structure Again (context : Context) (moment : Moment) : Prop where
  active : moment.engine.status.isFinal = false
  check : context.program.ChecksAt moment.engine.counter
  left : moment.engine.attempts < context.settings.ping.maxRetries
  running : (moment.after context).status = .running
  counter : (moment.after context).counter = moment.engine.counter
  attempts : (moment.after context).attempts = moment.engine.attempts + 1
  events : moment.events context =
    [.retried moment.engine.counter (moment.engine.attempts + 1)]

theorem again (honest : moment.surroundings.Honest) (retries : moment.retries context = true) :
    moment.Again context := by
  rcases (retries_iff honest).mp retries with ⟨signal, left⟩
  rcases signals_iff.mp signal with ⟨instruction, fetched, failed⟩
  have known := Engine.fetch_fetched moment.engine context moment.surroundings.stopRequested
  rw [fetched] at known
  rcases known with ⟨active, found, decoded⟩
  have control : (moment.effect context .ping instruction).control = .retry := by
    rw [control_ping, if_pos failed, if_pos left]
  have frame := Engine.execute_frame moment.engine.wake.tick moment.surroundings context.settings
    .ping instruction.operands
  have stays : moment.after context = (moment.effect context .ping instruction).engine := by
    rw [after_of_operation fetched, Engine.settled, control]
    rfl
  have running : (moment.after context).status = .running := by
    rw [stays]
    exact Engine.execute_running moment.engine context moment.surroundings active .ping _
  have due : moment.engine.dueNext? context moment.surroundings =
      some (.retried moment.engine.counter (moment.engine.attempts + 1)) := by
    unfold Engine.dueNext?
    rw [fetched]
    have repeats : moment.engine.repeats context.settings.ping instruction.operands = true :=
      Bool.and_eq_true_iff.mpr ⟨failed, decide_eq_true left⟩
    exact if_pos repeats
  refine ⟨active, ⟨instruction, found, decoded⟩, left, running, ?_, ?_, ?_⟩
  · rw [stays]
    exact frame.counter.trans moment.engine.wake_counter
  · have counted := Engine.ping_attempts moment.engine.wake.tick context.settings.ping
      instruction.operands (by rw [Engine.wake_tick_fails, failed])
    rw [stays, ← moment.engine.wake_tick_attempts]
    exact counted
  · refine (Engine.events_step context moment.surroundings active).trans ?_
    change _ ++ (moment.after context).status.closing?.toList = _
    rw [due, running]
    rfl

/-- Whatever else than an operation comes next, the engine is at its end afterwards. -/
theorem final_of_not_operation
    (other : ∀ op instruction,
      moment.engine.fetch context moment.surroundings.stopRequested ≠ .operation op instruction) :
    (moment.after context).status.isFinal = true := by
  have known := Engine.fetch_fetched moment.engine context moment.surroundings.stopRequested
  unfold after Engine.step
  cases fetched : moment.engine.fetch context moment.surroundings.stopRequested with
  | operation op instruction => exact absurd fetched (other op instruction)
  | finished =>
      rw [fetched] at known
      exact known
  | _ => rfl

/-- Going on in any other way sets the count back. -/
theorem attempts_of_not_retries (other : moment.retries context = false)
    (active : (moment.after context).status.isFinal = false) :
    (moment.after context).attempts = 0 := by
  cases fetched : moment.engine.fetch context moment.surroundings.stopRequested with
  | operation op instruction =>
      rw [after_of_operation fetched] at active ⊢
      rw [retries_of_operation fetched] at other
      have control := of_decide_eq_false other
      unfold Engine.settled at active ⊢
      cases same : (moment.effect context op instruction).control with
      | next => rfl
      | jump target => rfl
      | retry => exact absurd same control
      | halt =>
          rw [same] at active
          cases active
      | fault cause =>
          rw [same] at active
          cases active
  | _ =>
      have final : (moment.after context).status.isFinal = true :=
        final_of_not_operation (by simp [fetched])
      exact absurd final (by simp [active])

/-- What has come to its end shows nothing. -/
theorem active_of_shown {event : Event} (shown : event ∈ moment.events context) :
    moment.engine.status.isFinal = false := by
  apply eq_false_of_ne_true
  intro final
  unfold events at shown
  rw [Engine.step_of_final final] at shown
  cases shown

/-- Only a repetition shows an attempt. -/
theorem retries_of_shown (honest : moment.surroundings.Honest) {counter attempt : Nat}
    (shown : .retried counter attempt ∈ moment.events context) :
    moment.retries context = true := by
  have active := active_of_shown shown
  unfold events at shown
  rw [Engine.events_step context moment.surroundings active, List.mem_append,
    Option.mem_toList, Option.mem_toList] at shown
  rcases shown with due | closing
  · unfold Engine.dueNext? at due
    split at due
    · rename_i op instruction fetched
      rcases Engine.repeats_of_due? due with ⟨rfl, repeats⟩
      rcases Bool.and_eq_true_iff.mp repeats with ⟨failed, left⟩
      exact (retries_iff honest).mpr
        ⟨signals_iff.mpr ⟨instruction, fetched, failed⟩, of_decide_eq_true left⟩
    · cases due
  · change (moment.after context).status.closing? = _ at closing
    cases status : (moment.after context).status <;> simp [status, Status.closing?] at closing

theorem shown_fault_iff (active : moment.engine.status.isFinal = false) (fault : Fault) :
    .faulted fault ∈ moment.events context ↔ (moment.after context).status = .faulted fault := by
  unfold events
  rw [Engine.events_step context moment.surroundings active, List.mem_append,
    Option.mem_toList, Option.mem_toList]
  have extra : moment.engine.dueNext? context moment.surroundings ≠ some (.faulted fault) :=
    fun due => by cases Engine.isClosing_of_dueNext? context moment.surroundings due
  rw [or_iff_right extra]
  change (moment.after context).status.closing? = _ ↔ _
  cases (moment.after context).status <;> simp [Status.closing?]

/-- Only a check that fails once too often gives up. -/
theorem signals_of_exhausted (honest : moment.surroundings.Honest)
    (active : moment.engine.status.isFinal = false) {counter attempts : Nat}
    (faulted : (moment.after context).status =
      .faulted ⟨counter, .pingRetriesExhausted attempts⟩) :
    moment.signals context = true ∧ context.settings.ping.maxRetries ≤ moment.engine.attempts ∧
      counter = moment.engine.counter ∧ attempts = moment.engine.attempts + 1 := by
  cases fetched : moment.engine.fetch context moment.surroundings.stopRequested with
  | operation op instruction =>
      rw [after_of_operation fetched] at faulted
      have lawful : Engine.Lawful moment.engine.wake.tick op instruction.operands
          (moment.effect context op instruction) :=
        Engine.execute_lawful moment.engine.wake.tick context.settings honest op _
      have running : moment.engine.wake.tick.status = .running := Engine.wake_status active
      rcases Engine.settled_faulted running lawful faulted with ⟨control, place⟩
      have checks : op = .ping := of_decide_eq_true
        (Engine.execute_accounted moment.engine.wake.tick instruction.operands context.settings
          honest op _ control)
      subst checks
      rw [control_ping] at control
      split at control
      · rename_i failed
        split at control
        · cases control
        · rename_i spent
          cases control
          exact ⟨signals_iff.mpr ⟨instruction, fetched, failed⟩, Nat.le_of_not_lt spent,
            place.trans moment.engine.wake_counter, rfl⟩
      · cases control
  | finished =>
      have known := Engine.fetch_fetched moment.engine context moment.surroundings.stopRequested
      rw [fetched] at known
      simp [Engine.Fetched, active] at known
  | _ =>
      unfold after Engine.step at faulted
      rw [fetched] at faulted
      cases faulted

theorem exhausted_of_signals (signal : moment.signals context = true)
    (spent : context.settings.ping.maxRetries ≤ moment.engine.attempts) :
    (moment.after context).status = .faulted
      ⟨moment.engine.counter, .pingRetriesExhausted (moment.engine.attempts + 1)⟩ := by
  rcases signals_iff.mp signal with ⟨instruction, fetched, failed⟩
  have frame := Engine.execute_frame moment.engine.wake.tick moment.surroundings
    context.settings .ping instruction.operands
  have place : (moment.effect context .ping instruction).engine.counter = moment.engine.counter :=
    frame.counter.trans moment.engine.wake_counter
  rw [after_of_operation fetched, Engine.settled_status, control_ping, if_pos failed,
    if_neg (Nat.not_lt.mpr spent)]
  change Status.faulted ⟨(moment.effect context .ping instruction).engine.counter, _⟩ = _
  rw [place]

theorem active_of_signals (signal : moment.signals context = true) :
    moment.engine.status.isFinal = false := by
  rcases signals_iff.mp signal with ⟨instruction, fetched, -⟩
  have known := Engine.fetch_fetched moment.engine context moment.surroundings.stopRequested
  rw [fetched] at known
  exact known.1

/-- A check is given up when it fails and may not be repeated any more. -/
theorem shown_exhausted_iff (honest : moment.surroundings.Honest) (counter attempts : Nat) :
    .faulted ⟨counter, .pingRetriesExhausted attempts⟩ ∈ moment.events context ↔
      moment.signals context = true ∧
        context.settings.ping.maxRetries ≤ moment.engine.attempts ∧
          counter = moment.engine.counter ∧ attempts = moment.engine.attempts + 1 := by
  constructor
  · intro shown
    have active := active_of_shown shown
    exact signals_of_exhausted honest active ((shown_fault_iff active _).mp shown)
  · rintro ⟨signal, spent, rfl, rfl⟩
    exact (shown_fault_iff (active_of_signals signal) _).mpr (exhausted_of_signals signal spent)

end Step

/-- Repetitions that come last count in full. -/
theorem repeated_append {context : Context} (past : List Moment) {recent : List Moment}
    (repeats : ∀ moment ∈ recent, moment.retries context = true) :
    repeated context (past ++ recent) = repeated context past ++ recent := by
  unfold repeated List.rtakeWhile
  rw [List.reverse_append, List.takeWhile_append_of_pos (by simpa using repeats),
    List.reverse_append, List.reverse_reverse]

theorem repeated_concat {context : Context} (past : List Moment) {moment : Moment}
    (repeats : moment.retries context = true) :
    repeated context (past ++ [moment]) = repeated context past ++ [moment] :=
  repeated_append past (by simpa using repeats)

theorem repeated_concat_of_not {context : Context} (past : List Moment) {moment : Moment}
    (other : moment.retries context = false) : repeated context (past ++ [moment]) = [] :=
  List.rtakeWhile_concat_neg _ _ _ (ne_true_of_eq_false other)

end Moment

/-! ## Whole runs -/

namespace Engine

section Course

variable {engine : Engine} {context : Context}

theorem length_course (occasions : List Occasion) :
    (engine.course context occasions).length = occasions.length := by
  induction occasions generalizing engine with
  | nil => rfl
  | cons now later ih => exact congrArg (· + 1) ih

/-- The events of a run are those of its moments. -/
theorem attend_eq_flatMap (context : Context) (occasions : List Occasion) :
    (engine.attend context occasions).2 =
      (engine.course context occasions).flatMap (Moment.events context) := by
  induction occasions generalizing engine with
  | nil => rfl
  | cons now later ih =>
      simp only [attend, course, List.flatMap_cons, ih]
      rfl

theorem course_take (occasions : List Occasion) (count : Nat) :
    engine.course context (occasions.take count) =
      (engine.course context occasions).take count := by
  induction occasions generalizing engine count with
  | nil => simp [course]
  | cons now later ih =>
      cases count with
      | zero => rfl
      | succ count => exact congrArg (List.cons _) (ih count)

/-- Each moment of a course comes at the end of a shorter run. -/
theorem course_eq_append {occasions : List Occasion} {earlier later : List Moment} {now : Moment}
    (split : engine.course context occasions = earlier ++ now :: later) :
    ∃ before occasion after, occasions = before ++ occasion :: after ∧
      earlier = engine.course context before ∧
        now = ⟨(engine.attend context before).1.meeting occasion, occasion.surroundings⟩ := by
  induction occasions generalizing engine earlier with
  | nil => simp [course] at split
  | cons first rest ih =>
      cases earlier with
      | nil =>
          rw [course, List.nil_append, List.cons.injEq] at split
          exact ⟨[], first, rest, rfl, rfl, split.1.symm⟩
      | cons moment others =>
          rw [course, List.cons_append, List.cons.injEq] at split
          rcases ih split.2 with ⟨before, occasion, after, rfl, rfl, rfl⟩
          exact ⟨first :: before, occasion, after, rfl, by rw [course, split.1], rfl⟩

/-- What is true of the past and the engine before a step is true afterwards, and others
cannot change it. -/
structure Invariant (context : Context) (holds : List Moment → Engine → Prop) : Prop where
  meeting : ∀ {past engine} occasion, holds past engine →
    holds past (Engine.meeting engine occasion)
  step : ∀ {past engine surroundings}, surroundings.Honest → holds past engine →
    holds (past ++ [⟨engine, surroundings⟩]) (engine.step context surroundings).1

namespace Invariant

variable {holds : List Moment → Engine → Prop} {occasions : List Occasion}

theorem attend (invariant : Invariant context holds) {past : List Moment}
    (start : holds past engine)
    (honest : ∀ occasion ∈ occasions, occasion.surroundings.Honest) :
    holds (past ++ engine.course context occasions) (engine.attend context occasions).1 := by
  induction occasions generalizing past engine with
  | nil => simpa [Engine.course, Engine.attend] using start
  | cons now later ih =>
      have moved := invariant.step (honest now List.mem_cons_self) (invariant.meeting now start)
      have rest := ih moved fun occasion member => honest occasion (List.mem_cons_of_mem _ member)
      rw [List.append_assoc] at rest
      exact rest

theorem final (invariant : Invariant context holds) (start : holds [] engine)
    (honest : ∀ occasion ∈ occasions, occasion.surroundings.Honest) :
    holds (engine.course context occasions) (engine.attend context occasions).1 :=
  invariant.attend start honest

/-- An invariant holds before every step of a run. -/
theorem before (invariant : Invariant context holds) (start : holds [] engine)
    (honest : ∀ occasion ∈ occasions, occasion.surroundings.Honest)
    {earlier later : List Moment} {now : Moment}
    (split : engine.course context occasions = earlier ++ now :: later) :
    holds earlier now.engine ∧ now.surroundings.Honest := by
  rcases course_eq_append split with ⟨before, occasion, after, rfl, rfl, rfl⟩
  have reached := invariant.final start fun occasion member =>
    honest occasion (List.mem_append_left _ member)
  exact ⟨invariant.meeting occasion reached,
    honest occasion (List.mem_append_right _ List.mem_cons_self)⟩

end Invariant

end Course
end Engine

/-- What the past of an engine says about the check that it stands at. -/
structure Tally (context : Context) (past : List Moment) (engine : Engine) : Prop where
  /-- The count is that of the repetitions that have just been made. -/
  counted : engine.status.isFinal = false →
    engine.attempts = (Moment.repeated context past).length
  bounded : (Moment.repeated context past).length ≤ context.settings.ping.maxRetries
  /-- All of them were made where the engine stands, and there is a check. -/
  placed : ∀ moment ∈ Moment.repeated context past,
    moment.engine.counter = engine.counter ∧ context.program.ChecksAt engine.counter
  /-- They were numbered from one on. -/
  shown : (Moment.repeated context past).map (Moment.events context) =
    (List.range (Moment.repeated context past).length).map fun earlier =>
      [.retried engine.counter (earlier + 1)]

namespace Tally

variable {context : Context} {past : List Moment} {engine : Engine}

theorem initial (context : Context) (fresh : engine.attempts = 0) : Tally context [] engine :=
  ⟨fun _ => fresh, Nat.zero_le _, fun _ member => (by cases member), rfl⟩

/-- What others do to the stores does not matter. -/
theorem meeting (tally : Tally context past engine) (occasion : Occasion) :
    Tally context past (engine.meeting occasion) :=
  ⟨tally.counted, tally.bounded, tally.placed, tally.shown⟩

theorem step {surroundings : Surroundings} (tally : Tally context past engine)
    (honest : surroundings.Honest) :
    Tally context (past ++ [⟨engine, surroundings⟩]) (engine.step context surroundings).1 := by
  let moment : Moment := ⟨engine, surroundings⟩
  change Tally context (past ++ [moment]) (moment.after context)
  cases repeats : moment.retries context with
  | true =>
      have again := moment.again honest repeats
      have longer := Moment.repeated_concat past repeats
      have count : engine.attempts = (Moment.repeated context past).length :=
        tally.counted again.active
      refine ⟨fun _ => ?_, ?_, fun other member => ?_, ?_⟩
      · rw [longer, List.length_append, ← count]
        exact again.attempts
      · rw [longer, List.length_append, ← count]
        exact again.left
      · rw [again.counter]
        rw [longer] at member
        rcases List.mem_append.mp member with old | new
        · exact tally.placed other old
        · rw [List.mem_singleton.mp new]
          exact ⟨rfl, again.check⟩
      · rw [longer, List.map_append, List.length_append, tally.shown, again.counter]
        change _ ++ [moment.events context] = List.map _ (List.range (_ + 1))
        rw [List.range_succ, List.map_append, again.events, ← count]
        rfl
  | false =>
      have none := Moment.repeated_concat_of_not past repeats
      refine ⟨fun active => ?_, ?_, fun other member => ?_, ?_⟩
      · rw [none]
        exact Moment.attempts_of_not_retries repeats active
      · rw [none]
        exact Nat.zero_le _
      · rw [none] at member
        cases member
      · rw [none]
        rfl

/-- The past and the count agree all the time. -/
theorem invariant (context : Context) : Engine.Invariant context (Tally context) where
  meeting occasion tally := tally.meeting occasion
  step honest tally := tally.step honest

/-- No stretch of a course has more repetitions in a row than the policy allows. -/
theorem stretch (start : Tally context [] engine) {occasions : List Occasion}
    (honest : ∀ occasion ∈ occasions, occasion.surroundings.Honest)
    {earlier repetitions later : List Moment}
    (split : engine.course context occasions = earlier ++ (repetitions ++ later))
    (repeats : ∀ moment ∈ repetitions, moment.retries context = true) :
    repetitions.length ≤ context.settings.ping.maxRetries := by
  have fair : ∀ occasion ∈ occasions.take (earlier ++ repetitions).length,
      occasion.surroundings.Honest :=
    fun occasion member => honest occasion (List.mem_of_mem_take member)
  have tally := (invariant context).final start fair
  rw [Engine.course_take, split, ← List.append_assoc, List.take_left] at tally
  have few := tally.bounded
  rw [Moment.repeated_append earlier repeats, List.length_append] at few
  omega

end Tally

namespace Engine

/-- One step at a check or elsewhere, after the moments of the past.  If the step is made
at a check, then the visit to it consists of the repetitions that come directly before and
of the step itself. -/
structure Visits (context : Context) (past : List Moment) (now : Moment) : Prop where
  tally : Tally context past now.engine
  /-- A check that fails is repeated if that has not happened too often in this visit. -/
  repeated : now.retries context = true ↔ now.signals context = true ∧
    (Moment.repeated context past).length < context.settings.ping.maxRetries
  /-- Nothing else shows an attempt. -/
  silent : now.retries context = false →
    ∀ counter attempt, .retried counter attempt ∉ now.events context
  /-- It is given up if it fails again after all repetitions. -/
  exhausted : ∀ counter attempts,
    .faulted ⟨counter, .pingRetriesExhausted attempts⟩ ∈ now.events context ↔
      now.signals context = true ∧
        (Moment.repeated context past).length = context.settings.ping.maxRetries ∧
          counter = now.engine.counter ∧ attempts = context.settings.ping.maxRetries + 1

theorem visits_of_tally {context : Context} {past : List Moment} {now : Moment}
    (tally : Tally context past now.engine) (honest : now.surroundings.Honest) :
    Visits context past now := by
  -- What signals is active, and then the count is that of the repetitions.
  have counted (signal : now.signals context = true) :
      now.engine.attempts = (Moment.repeated context past).length :=
    tally.counted (Moment.active_of_signals signal)
  refine ⟨tally, ?_, fun other counter attempt shown => ?_, fun counter attempts => ?_⟩
  · rw [Moment.retries_iff honest]
    refine and_congr_right fun signal => ?_
    rw [counted signal]
  · rw [Moment.retries_of_shown honest shown] at other
    cases other
  · rw [Moment.shown_exhausted_iff honest]
    refine and_congr_right fun signal => ?_
    have few := tally.bounded
    rw [counted signal]
    omega

/-- **Checks are repeated within bounds.**  An engine is started anywhere in any program,
with any source of draws, and is moved any number of times.  While it runs, its count is
at most the number of repetitions that the policy allows, and if the count is not zero,
then the engine stands at a check and its last steps, as many as the count says, were
repetitions of this check.  Each visit to a check begins with a count of zero, shows its
repetitions in order, and ends in a fault exactly when the check fails after all of them. -/
theorem attend_bounds_attempts (context : Context)
    (small : context.settings.ping.maxRetries < UInt32.size - 1) (thread : ThreadId) (entry : Nat)
    (stores : Stores) (faults : FaultSource) (occasions : List Occasion)
    (honest : ∀ occasion ∈ occasions, occasion.surroundings.Honest) :
    let engine := create context.settings thread entry stores faults
    let course := engine.course context occasions
    let last := (engine.attend context occasions).1
    (last.status = .running →
      last.attempts ≤ context.settings.ping.maxRetries ∧ last.attempts + 1 < UInt32.size ∧
        (0 < last.attempts → context.program.ChecksAt last.counter ∧
          ∃ earlier repeated, course = earlier ++ repeated ∧ repeated.length = last.attempts ∧
            ∀ moment ∈ repeated,
              moment.retries context = true ∧ moment.engine.counter = last.counter)) ∧
      (engine.attend context occasions).2 = course.flatMap (Moment.events context) ∧
        ∀ earlier now later, course = earlier ++ now :: later → Visits context earlier now := by
  intro engine course last
  have start : Tally context [] engine := .initial context rfl
  refine ⟨fun running => ?_, attend_eq_flatMap context occasions, fun earlier now later split => ?_⟩
  · have tally := (Tally.invariant context).final start honest
    have count := tally.counted (by rw [running]; rfl)
    have bounded : last.attempts ≤ context.settings.ping.maxRetries := by
      rw [count]
      exact tally.bounded
    refine ⟨bounded, by omega, fun positive => ?_⟩
    rcases List.rtakeWhile_suffix (Moment.retries context) course with ⟨earlier, whole⟩
    have placed (moment : Moment) (member : moment ∈ Moment.repeated context course) :=
      tally.placed moment member
    rcases List.exists_mem_of_length_pos (count ▸ positive) with ⟨moment, member⟩
    exact ⟨(placed moment member).2, earlier, _, whole.symm, count.symm, fun other listed =>
      ⟨List.mem_rtakeWhile_imp listed, (placed other listed).1⟩⟩
  · rcases (Tally.invariant context).before start honest split with ⟨tally, fair⟩
    exact visits_of_tally tally fair

/-- A check that is made over and over again. -/
def shaky : Context where
  program := ⟨[⟨.ofOp .ping [], 1⟩, ⟨.ofOp .jump [.target 0], 2⟩]⟩
  settings := .ofOverrides { pingProbability := some 0.5, pingRetries := some 2 }

/-- The second draw is the only one that lets a check pass. -/
def shakyDraws : FaultSource :=
  .scripted 0 [0xffffffffffffffff, 0]

/-- The run up to the last repetition of the second visit. -/
def shakyRun : Engine × List Event :=
  (create shaky.settings .initial 0 (.empty shaky.settings) shakyDraws).attend shaky
    (List.replicate 5 ⟨id, .alone fun _ => .unset⟩)

/-- The first visit is repeated once, the second one as often as the policy allows. -/
theorem shaky_bounds_attempts :
    shaky.settings.ping.maxRetries < UInt32.size - 1 ∧
      (Surroundings.alone fun _ => .unset).Honest ∧
        shakyRun.2 = [.retried 0 1, .retried 0 1, .retried 0 2] ∧
          shakyRun.1.status = .running ∧ 0 < shakyRun.1.attempts ∧
            shakyRun.1.attempts ≤ shaky.settings.ping.maxRetries ∧
              shaky.program.ChecksAt shakyRun.1.counter := by
  have small : shaky.settings.ping.maxRetries < UInt32.size - 1 := by decide
  have honest : (Surroundings.alone fun _ => .unset).Honest := Surroundings.alone_honest _
  rcases attend_bounds_attempts shaky small .initial 0 (.empty shaky.settings) shakyDraws
    (List.replicate 5 ⟨id, .alone fun _ => .unset⟩)
    (fun occasion member => List.eq_of_mem_replicate member ▸ honest) with ⟨bounds, -, -⟩
  have running : shakyRun.1.status = .running := by decide +kernel
  have positive : 0 < shakyRun.1.attempts := by decide +kernel
  rcases bounds running with ⟨few, -, stands⟩
  exact ⟨small, honest, by decide +kernel, running, positive, few, (stands positive).1⟩

end Engine
end CommandMachine
