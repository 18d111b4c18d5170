import CommandMachine.Proofs.Attempts
import CommandMachine.Proofs.Breakdown
import CommandMachine.Proofs.Containment
namespace CommandMachine

/-!
# Programs that are executed from top to bottom

Few operations send an engine elsewhere.  In a program without them an engine goes through
the instructions one after the other and stays at one of them only to repeat a check.  As
each check is repeated a bounded number of times, the engine comes to its end within a
number of steps that the size of the program and the policy for checks decide.  The
instructions may otherwise be of any kind, also such as make no sense.

All this presupposes a machine that can bear the waits and the pages that engines ask for.
On any other one an engine may break down and never come to its end.
-/

/-- The operations that may send an engine elsewhere. -/
def Op.diverts (op : Op) : Bool :=
  op ∈ [.jump, .jumpZero, .jumpNonzero, .call, .ret]

namespace Program

/-- No instruction sends an engine elsewhere. -/
def isStraight (program : Program) : Bool :=
  program.instructions.all fun instruction => instruction.op?.all fun op => !op.diverts

theorem diverts_of_isStraight {program : Program} (straight : program.isStraight = true)
    {counter : Nat} {instruction : Instruction} {op : Op}
    (found : program.get? counter = some instruction) (decoded : instruction.op? = some op) :
    op.diverts = false := by
  rcases Option.map_eq_some_iff.mp found with ⟨placed, listed, rfl⟩
  have plain := List.all_eq_true.mp straight _
    (List.mem_map_of_mem (List.mem_of_getElem? listed))
  rw [decoded] at plain
  exact (Bool.not_eq_true' _).mp plain

theorem size_le_of_get? {program : Program} {counter : Nat}
    (missing : program.get? counter = none) : program.size ≤ counter :=
  List.getElem?_eq_none_iff.mp (Option.map_eq_none_iff.mp missing)

end Program

theorem Engine.Directs.diverts {engine : Engine} {op : Op} {operands : List Operand}
    {calls : CallStack} {target : Nat}
    (directs : Directs engine op operands calls (.jump target)) : op.diverts = true := by
  cases directs with
  | jump jumps _ => rcases jumps with rfl | rfl | rfl <;> rfl
  | call calling _ _ =>
      subst calling
      rfl
  | ret returns _ =>
      subst returns
      rfl

theorem Engine.Directs.halts {engine : Engine} {op : Op} {operands : List Operand}
    {calls : CallStack} (directs : Directs engine op operands calls .halt) : op = .halt := by
  cases directs with
  | stop halts => exact halts

/-- Others leave the size of pages alone. -/
def Occasion.KeepsPageSize (occasion : Occasion) : Prop :=
  ∀ stores, (occasion.stores stores).memory.pageSize = stores.memory.pageSize

namespace Moment

/-- Why an engine comes to its end in the step. -/
inductive Ends (context : Context) (moment : Moment) : Prop where
  | told {instruction : Instruction}
      (found : context.program.get? moment.engine.counter = some instruction)
      (decoded : instruction.op? = some .halt) (status : (moment.after context).status = .halted)
  | stopped (requested : moment.surroundings.stopRequested = true)
      (status : (moment.after context).status = .halted)
  | ranOut (place : moment.engine.counter = context.program.size)
      (status : (moment.after context).status = .halted)
  | faulted {fault : Fault} (status : (moment.after context).status = .faulted fault)

/-- The ways in which a step can be taken in a program that is executed from top to
bottom. -/
inductive Passes (context : Context) (moment : Moment) : Prop where
  | again (repeats : moment.retries context = true) (again : moment.Again context)
  | onward (plain : moment.retries context = false)
      (running : (moment.after context).status = .running)
      (inside : moment.engine.counter < context.program.size)
      (counter : (moment.after context).counter = moment.engine.counter + 1)
  | ended (final : (moment.after context).status.isFinal = true)
      (counter : (moment.after context).counter = moment.engine.counter)
      (reason : moment.Ends context)

section Step

variable {context : Context} {moment : Moment}

/-- An operation either is repeated, goes on with the next instruction or ends the
engine. -/
theorem passes_of_operation (straight : context.program.isStraight = true)
    (honest : moment.surroundings.Honest) {op : Op} {instruction : Instruction}
    (fetched : moment.engine.fetch context moment.surroundings.stopRequested =
      .operation op instruction) : moment.Passes context := by
  have known := Engine.fetch_fetched moment.engine context moment.surroundings.stopRequested
  rw [fetched] at known
  rcases known with ⟨active, found, decoded⟩
  have lawful : Engine.Lawful moment.engine.wake.tick op instruction.operands
      (moment.effect context op instruction) :=
    Engine.execute_lawful moment.engine.wake.tick context.settings honest op instruction.operands
  have place : (moment.effect context op instruction).engine.counter = moment.engine.counter :=
    lawful.frame.counter.trans moment.engine.wake_counter
  have directs := lawful.directs
  have counter := Engine.settled_counter (moment.effect context op instruction)
  have status := Engine.settled_status (moment.effect context op instruction)
  rw [← after_of_operation fetched] at counter status
  have repeats := retries_of_operation fetched
  cases control : (moment.effect context op instruction).control with
  | next =>
      simp only [control] at counter status repeats
      have running := Engine.execute_running moment.engine context moment.surroundings active op
        instruction.operands
      exact .onward repeats (status.trans running) (Program.lt_size_of_get? found)
        (counter.trans (congrArg (· + 1) place))
  | jump target =>
      rw [control] at directs
      have plain := Program.diverts_of_isStraight straight found decoded
      rw [directs.diverts] at plain
      cases plain
  | retry =>
      simp only [control] at repeats
      exact .again repeats (again honest repeats)
  | halt =>
      simp only [control] at counter status directs
      have halts := directs.halts
      subst halts
      exact .ended (by rw [status]; rfl) (counter.trans place) (.told found decoded status)
  | fault cause =>
      simp only [control] at counter status
      exact .ended (by rw [status]; rfl) (counter.trans place) (.faulted status)

theorem passes (straight : context.program.isStraight = true) (honest : moment.surroundings.Honest)
    (active : moment.engine.status.isFinal = false)
    (inside : moment.engine.counter ≤ context.program.size) : moment.Passes context := by
  have known := Engine.fetch_fetched moment.engine context moment.surroundings.stopRequested
  have step : moment.after context = (moment.engine.step context moment.surroundings).1 := rfl
  unfold Engine.step at step
  cases fetched : moment.engine.fetch context moment.surroundings.stopRequested with
  | operation op instruction => exact passes_of_operation straight honest fetched
  | finished =>
      rw [fetched] at known
      simp [Engine.Fetched, active] at known
  | stopped =>
      rw [fetched] at known step
      refine .ended (by rw [step]; rfl) ?_ (.stopped known.2 (by rw [step]; rfl))
      rw [step]
      exact moment.engine.wake_counter
  | overBudget limit =>
      rw [fetched] at step
      refine .ended (by rw [step]; rfl) ?_ (.faulted (congrArg Engine.status step))
      rw [step]
      exact moment.engine.wake_counter
  | atEnd =>
      rw [fetched] at known step
      have place := Nat.le_antisymm inside (Program.size_le_of_get? known.2)
      refine .ended (by rw [step]; rfl) ?_ (.ranOut place (by rw [step]; rfl))
      rw [step]
      exact moment.engine.wake_counter
  | undecodable byte =>
      rw [fetched] at step
      refine .ended (by rw [step]; rfl) ?_ (.faulted (congrArg Engine.status step))
      rw [step]
      exact moment.engine.wake_counter

theorem Passes.ends (passes : moment.Passes context)
    (final : (moment.after context).status.isFinal = true) : moment.Ends context := by
  cases passes with
  | again _ again =>
      rw [again.running] at final
      cases final
  | onward _ running _ _ =>
      rw [running] at final
      cases final
  | ended _ _ reason => exact reason

end Step
end Moment

/-! ## Whole runs -/

/-- Where an engine stands after the moments of the past. -/
structure Descent (context : Context) (past : List Moment) (engine : Engine) : Prop where
  tally : Tally context past engine
  inside : engine.counter ≤ context.program.size
  /-- All steps were repetitions but those that led from one instruction to the next. -/
  counter : engine.status.isFinal = false →
    engine.counter = past.countP fun moment => !moment.retries context
  spent : engine.status.isFinal = false →
    past.length ≤ engine.counter * (context.settings.ping.maxRetries + 1) +
      (Moment.repeated context past).length

namespace Descent

variable {context : Context} {past : List Moment} {engine : Engine}

theorem initial (fresh : engine.attempts = 0) (top : engine.counter = 0) :
    Descent context [] engine :=
  ⟨.initial context fresh, by omega, fun _ => top, fun _ => Nat.zero_le _⟩

theorem meeting (descent : Descent context past engine) (occasion : Occasion) :
    Descent context past (engine.meeting occasion) :=
  ⟨descent.tally.meeting occasion, descent.inside, descent.counter, descent.spent⟩

theorem step (descent : Descent context past engine) (straight : context.program.isStraight = true)
    {surroundings : Surroundings} (honest : surroundings.Honest) :
    Descent context (past ++ [⟨engine, surroundings⟩]) (engine.step context surroundings).1 := by
  have tally := descent.tally.step honest
  let moment : Moment := ⟨engine, surroundings⟩
  change Descent context (past ++ [moment]) (moment.after context)
  change Tally context (past ++ [moment]) (moment.after context) at tally
  cases final : engine.status.isFinal with
  | true =>
      have stays : moment.after context = engine :=
        congrArg Prod.fst (Engine.step_of_final final context surroundings)
      refine ⟨tally, ?_, fun active => ?_, fun active => ?_⟩
      · rw [stays]
        exact descent.inside
      · rw [stays, final] at active
        cases active
      · rw [stays, final] at active
        cases active
  | false =>
      have counter := descent.counter final
      have spent := descent.spent final
      have few := descent.tally.bounded
      have passes : moment.Passes context := Moment.passes straight honest final descent.inside
      cases passes with
      | again repeats again =>
          have longer := Moment.repeated_concat past repeats
          refine ⟨tally, ?_, fun _ => ?_, fun _ => ?_⟩
          · rw [again.counter]
            exact descent.inside
          · simpa [again.counter, List.countP_append, repeats] using counter
          · rw [longer, again.counter, List.length_append, List.length_append]
            exact Nat.add_le_add_right spent 1
      | onward plain running inside moved =>
          refine ⟨tally, ?_, fun _ => ?_, fun _ => ?_⟩
          · rw [moved]
            exact inside
          · simpa [moved, List.countP_append, plain] using counter
          · rw [moved, List.length_append, Nat.add_mul]
            change past.length + 1 ≤ _
            change past.length ≤ moment.engine.counter * _ + _ at spent
            omega
      | ended ended stays _ =>
          refine ⟨tally, ?_, fun active => ?_, fun active => ?_⟩
          · rw [stays]
            exact descent.inside
          · rw [ended] at active
            cases active
          · rw [ended] at active
            cases active

theorem invariant (straight : context.program.isStraight = true) :
    Engine.Invariant context (Descent context) where
  meeting occasion descent := descent.meeting occasion
  step honest descent := descent.step straight honest

/-- An engine that has not come to its end has made at most as many steps as it takes to
execute all instructions with all repetitions. -/
theorem length_le (descent : Descent context past engine)
    (active : engine.status.isFinal = false) :
    past.length ≤ context.program.size * (context.settings.ping.maxRetries + 1) := by
  have spent := descent.spent active
  have few := descent.tally.bounded
  rcases Nat.lt_or_ge engine.counter context.program.size with inside | outside
  · have next := Nat.mul_le_mul_right (context.settings.ping.maxRetries + 1) inside
    rw [Nat.succ_mul] at next
    omega
  · -- There is no check behind the last instruction.
    have none : Moment.repeated context past = [] := by
      refine List.eq_nil_iff_forall_not_mem.mpr fun moment member => ?_
      rcases (descent.tally.placed moment member).2 with ⟨instruction, found, -⟩
      have inside := Program.lt_size_of_get? found
      omega
    rw [none, Nat.le_antisymm descent.inside outside] at spent
    exact spent

/-- The steps do not suffice for the engine to be still on its way. -/
theorem final (start : Descent context [] engine) (straight : context.program.isStraight = true)
    {occasions : List Occasion} (honest : ∀ occasion ∈ occasions, occasion.surroundings.Honest)
    (long : context.program.size * (context.settings.ping.maxRetries + 1) + 1 ≤
      occasions.length) :
    (engine.attend context occasions).1.status.isFinal = true := by
  have descent := (invariant straight).final start honest
  cases active : (engine.attend context occasions).1.status.isFinal with
  | true => rfl
  | false =>
      have short := descent.length_le active
      rw [Engine.length_course] at short
      omega

end Descent

/-- A main engine that has broken down does not move. -/
theorem Run.turn_of_mainCrashed {run : Run} (crashed : run.mainCrashed = true) :
    run.turn .initial = run := by
  unfold mainCrashed at crashed
  unfold turn
  cases present : run.threads[ThreadId.initial]? with
  | none => rfl
  | some thread =>
      rw [present, Option.map_some] at crashed
      cases phase : thread.phase with
      | crashed =>
          dsimp only
          rw [phase]
      | _ =>
          rw [phase] at crashed
          cases crashed

namespace Engine

section Ending

variable {engine : Engine} {context : Context}

/-- If an engine has come to its end, then one of the moments has brought it there. -/
theorem exists_ending (active : engine.status.isFinal = false) {occasions : List Occasion}
    (final : (engine.attend context occasions).1.status.isFinal = true) :
    ∃ earlier now later, engine.course context occasions = earlier ++ now :: later ∧
      now.engine.status.isFinal = false ∧
        (now.after context).status = (engine.attend context occasions).1.status := by
  induction occasions generalizing engine with
  | nil =>
      rw [attend, active] at final
      cases final
  | cons first rest ih =>
      cases ended : ((engine.meeting first).step context first.surroundings).1.status.isFinal with
      | true =>
          rcases attend_of_final context ended rest with ⟨status, -, -⟩
          exact ⟨[], _, _, rfl, active, status.symm⟩
      | false =>
          rcases ih ended final with ⟨earlier, now, later, split, ready, status⟩
          exact ⟨_ :: earlier, now, later, congrArg (List.cons _) split, ready, status⟩

end Ending

theorem pageSize_course {engine : Engine} {context : Context} {occasions : List Occasion}
    (honest : ∀ occasion ∈ occasions, occasion.surroundings.Honest)
    (kept : ∀ occasion ∈ occasions, occasion.KeepsPageSize) {moment : Moment}
    (listed : moment ∈ engine.course context occasions) :
    moment.engine.stores.memory.pageSize = engine.stores.memory.pageSize := by
  induction occasions generalizing engine with
  | nil => cases listed
  | cons now later ih =>
      have met : (engine.meeting now).stores.memory.pageSize = engine.stores.memory.pageSize :=
        kept now List.mem_cons_self engine.stores
      rcases List.mem_cons.mp listed with rfl | after
      · exact met
      · rw [ih (fun occasion member => honest occasion (List.mem_cons_of_mem _ member))
          (fun occasion member => kept occasion (List.mem_cons_of_mem _ member)) after,
          pageSize_step _ context (honest now List.mem_cons_self), met]

/-! ## From top to bottom -/

/-- How an engine goes through a program from top to bottom. -/
structure Descends (context : Context) (engine : Engine) (occasions : List Occasion) :
    Prop where
  /-- The engine does not break down. -/
  borne : ∀ moment ∈ engine.course context occasions,
    moment.engine.breakdown? context moment.surroundings.stopRequested = none
  /-- The engine has come to its end when every instruction could have been executed with all
  repetitions, and one of its steps has brought it there. -/
  ends : context.program.size * (context.settings.ping.maxRetries + 1) + 1 ≤ occasions.length →
    (engine.attend context occasions).1.status.isFinal = true ∧ ∃ earlier now later,
      engine.course context occasions = earlier ++ now :: later ∧
        earlier.length ≤ context.program.size * (context.settings.ping.maxRetries + 1) ∧
        now.Ends context ∧ (engine.attend context occasions).1.status = (now.after context).status
  /-- Each step repeats a check, leads to the very next instruction or ends the engine. -/
  order : ∀ earlier now later, engine.course context occasions = earlier ++ now :: later →
    now.engine.status.isFinal = false → now.Passes context ∧
      now.engine.counter = earlier.countP fun moment => !moment.retries context
  repeats : ∀ earlier stretch later,
    engine.course context occasions = earlier ++ stretch ++ later →
      (∀ moment ∈ stretch, moment.retries context = true) →
        stretch.length ≤ context.settings.ping.maxRetries

/-- **A program without jumps is executed from top to bottom and comes to an end**, if the
machine can bear the waits of the settings and a page of memory.  The answers that the engine
gets, what others do to its stores and the draws are arbitrary.  The engine ends because it
was told to, because of a fault, because of a request to stop or because there was no further
instruction.  Before that there are never more repetitions in a row than the policy allows. -/
theorem attend_descends (context : Context) (straight : context.program.isStraight = true)
    (thread : ThreadId) (stores : Stores)
    (bearable : context.settings.Bearable stores.memory.pageSize) (faults : FaultSource)
    (occasions : List Occasion) (honest : ∀ occasion ∈ occasions, occasion.surroundings.Honest)
    (kept : ∀ occasion ∈ occasions, occasion.KeepsPageSize) :
    Descends context (create context.settings thread 0 stores faults) occasions := by
  have start : Descent context [] (create context.settings thread 0 stores faults) :=
    .initial rfl rfl
  have passes (earlier : List Moment) (now : Moment) (later : List Moment)
      (split : (create context.settings thread 0 stores faults).course context occasions =
        earlier ++ now :: later)
      (active : now.engine.status.isFinal = false) : now.Passes context := by
    rcases (Descent.invariant straight).before start honest split with ⟨descent, fair⟩
    exact Moment.passes straight fair active descent.inside
  refine ⟨fun moment listed => ?_, fun long => ?_, fun earlier now later split active => ?_,
    fun earlier stretch later split repeats => ?_⟩
  · refine breakdown?_of_bearable ?_ _
    rw [pageSize_course honest kept listed]
    exact bearable
  · have final := start.final straight honest long
    rcases exists_ending rfl final with ⟨earlier, now, later, split, active, status⟩
    have ended : (now.after context).status.isFinal = true := by
      rw [status]
      exact final
    have short := ((Descent.invariant straight).before start honest split).1.length_le active
    refine ⟨final, earlier, now, later, split, short, ?_, status.symm⟩
    exact (passes earlier now later split active).ends ended
  · exact ⟨passes earlier now later split active,
      ((Descent.invariant straight).before start honest split).1.counter active⟩
  · rw [List.append_assoc] at split
    exact (Tally.initial context rfl).stretch honest split repeats

/-- A check, a pause, a value that goes into memory, a code byte without a meaning, and what is
never reached. -/
def plunge : Context where
  program := ⟨[⟨.ofOp .ping [], 1⟩, ⟨.ofOp .pause [], 2⟩, ⟨.ofOp .read [.register "x"], 3⟩,
    ⟨.ofOp .alloc [], 4⟩, ⟨⟨0, []⟩, 5⟩, ⟨.ofOp .halt [], 6⟩]⟩
  settings := .ofOverrides { pingProbability := some 0.5, pingRetries := some 2 }

/-- The first two draws make the check fail. -/
def plungeDraws : FaultSource :=
  .scripted 0 [0, 0xffffffffffffffff]

/-- As many steps as suffice for six instructions with two repetitions each. -/
def plungeOccasions : List Occasion :=
  List.replicate 19 ⟨id, .alone fun _ => .unset⟩

theorem plunge_descends :
    plunge.program.isStraight = true ∧
      plunge.settings.Bearable (Stores.empty plunge.settings).memory.pageSize ∧
      (∀ occasion ∈ plungeOccasions, occasion.surroundings.Honest ∧ occasion.KeepsPageSize) ∧
        ((first plunge.settings plungeDraws).attend plunge plungeOccasions).2 =
          [.retried 0 1, .retried 0 2, .faulted ⟨4, .invalidOpcode 0⟩] ∧
        ∃ earlier now later,
          (first plunge.settings plungeDraws).course plunge plungeOccasions =
            earlier ++ now :: later ∧ earlier.length ≤ 18 ∧ now.Ends plunge := by
  have straight : plunge.program.isStraight = true := by decide
  have bearable : plunge.settings.Bearable (Stores.empty plunge.settings).memory.pageSize :=
    ⟨by decide, by decide, by decide⟩
  have honest : ∀ occasion ∈ plungeOccasions,
      occasion.surroundings.Honest ∧ occasion.KeepsPageSize := by
    intro occasion member
    rw [List.eq_of_mem_replicate member]
    exact ⟨Surroundings.alone_honest _, fun _ => rfl⟩
  have descends := attend_descends plunge straight .initial (.empty plunge.settings) bearable
    plungeDraws plungeOccasions (fun occasion member => (honest occasion member).1)
    fun occasion member => (honest occasion member).2
  rcases descends.ends (by decide) with ⟨-, earlier, now, later, split, short, ends, -⟩
  exact ⟨straight, bearable, honest, by decide +kernel, earlier, now, later, split, short, ends⟩

/-! ## Machines that are asked too much -/

/-- A pause whose end the clock cannot tell. -/
def overlong : Context where
  program := ⟨[⟨.ofOp .pause [], 1⟩]⟩
  settings := { Settings.standard with pause := Machine.standard.longestWait + 1 }

/-- A check that fails and is to be repeated after such a wait. -/
def overdue : Context where
  program := ⟨[⟨.ofOp .ping [.word "FAIL"], 1⟩]⟩
  settings := { Settings.standard with
    ping := { PingPolicy.standard with backoff := Machine.standard.longestWait + 1 } }

/-- A value for which memory needs a page that the machine cannot lay out. -/
def oversized : Context where
  program := ⟨[⟨.ofOp .read [.register "x"], 1⟩, ⟨.ofOp .alloc [], 2⟩]⟩
  settings := .ofOverrides { pageSize := some 4611686018427387904 }

/-- Turns of the main engine in a run of its own. -/
def soleRun (context : Context) (turns : Nat) : Run :=
  (List.replicate turns ThreadId.initial).foldl Run.turn
    (Run.create context .standard .never false (.ofSeed 1))

theorem soleRun_of_mainCrashed {context : Context} {turns : Nat}
    (crashed : (soleRun context turns).mainCrashed = true) (more : Nat) :
    soleRun context (turns + more) = soleRun context turns := by
  induction more with
  | zero => rfl
  | succ more ih =>
      have next : soleRun context (turns + (more + 1)) =
          (soleRun context (turns + more)).turn .initial := by
        rw [← Nat.add_assoc, soleRun, List.replicate_succ', List.foldl_append]
        rfl
      rw [next, ih, Run.turn_of_mainCrashed crashed]

/-- A machine that is asked too much keeps the main engine from ever coming to its end, even
where the program has one or two instructions, so that it does not descend through it. -/
theorem overtaxed_not_descends :
    (∀ context ∈ [overlong, overdue, oversized], context.program.isStraight = true ∧
      context.settings.maxSteps = none ∧
        ∀ turns, (soleRun context turns).mainEngine.status.isFinal = false) ∧
      ¬ ∀ (context : Context) (thread : ThreadId) (faults : FaultSource)
          (occasions : List Occasion), context.program.isStraight = true →
        context.settings.maxSteps = none →
          (∀ occasion ∈ occasions, occasion.surroundings.Honest ∧ occasion.KeepsPageSize) →
            Descends context
              (create context.settings thread 0 (.empty context.settings) faults) occasions := by
  have held {context : Context} (turns : Nat)
      (active : ∀ fewer ≤ turns, (soleRun context fewer).mainEngine.status.isFinal = false)
      (crashed : (soleRun context turns).mainCrashed = true) (more : Nat) :
      (soleRun context more).mainEngine.status.isFinal = false := by
    rcases Nat.le_total more turns with few | many
    · exact active more few
    · rcases Nat.exists_eq_add_of_le many with ⟨rest, rfl⟩
      rw [soleRun_of_mainCrashed crashed]
      exact active turns (Nat.le_refl turns)
  refine ⟨?_, fun descends => ?_⟩
  · intro context listed
    simp only [List.mem_cons, List.not_mem_nil, or_false] at listed
    rcases listed with rfl | rfl | rfl
    · exact ⟨by decide, rfl, held 1 (by decide +kernel) (by decide +kernel)⟩
    · exact ⟨by decide, rfl, held 1 (by decide +kernel) (by decide +kernel)⟩
    · exact ⟨by decide, rfl, held 2 (by decide +kernel) (by decide +kernel)⟩
  · have borne := (descends overlong .initial (.ofSeed 1) [⟨id, .alone fun _ => .unset⟩]
      (by decide) rfl fun occasion member => ?_).borne _ List.mem_cons_self
    · exact absurd borne (by decide +kernel)
    · rw [List.mem_singleton.mp member]
      exact ⟨Surroundings.alone_honest _, fun _ => rfl⟩

end Engine
end CommandMachine
