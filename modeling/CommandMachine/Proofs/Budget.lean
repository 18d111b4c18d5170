import CommandMachine.Proofs.Attempts
import CommandMachine.Proofs.Faults
namespace CommandMachine

/-!
# What a budget of instructions does to a run

An engine with a budget is compared with the same engine without one; both get the same
answers.  The budget is looked at before each instruction and nowhere else, so that it can
do no more than cut the run off.  Up to there the two engines agree in everything they are
and report, and if the budget is not used up they agree throughout.

Every call for a step that does not end an engine executes one instruction, be it the
repetition of a check.  A budget therefore bounds the number of calls as well.
-/

/-- The same program and settings but for the budget. -/
def Context.withBudget (context : Context) (budget : Option Nat) : Context :=
  { context with settings := { context.settings with maxSteps := budget } }

/-- A budget allows as many instructions as a limit does. -/
def Allows (budget : Option Nat) (limit : Nat) : Prop :=
  ∀ most ∈ budget, limit ≤ most

theorem allows_none (limit : Nat) : Allows none limit := by
  intro most member
  cases member

theorem allows_some {limit most : Nat} (enough : limit ≤ most) : Allows (some most) limit := by
  intro other member
  cases member
  exact enough

namespace Engine

section Step

variable {engine : Engine} {context : Context} {limit : Nat}

/-- No operation knows the budget. -/
theorem execute_withBudget (budget : Option Nat) (surroundings : Surroundings) (op : Op)
    (operands : List Operand) :
    engine.execute (context.withBudget budget).settings surroundings op operands =
      engine.execute context.settings surroundings op operands := by
  cases op <;> rfl

/-- A step depends on the budget only through the question whether it is used up. -/
theorem step_withBudget {one other : Option Nat}
    (alike : engine.exhausted? (context.withBudget one).settings =
      engine.exhausted? (context.withBudget other).settings) (surroundings : Surroundings) :
    engine.step (context.withBudget one) surroundings =
      engine.step (context.withBudget other) surroundings := by
  have fetched : engine.fetch (context.withBudget one) surroundings.stopRequested =
      engine.fetch (context.withBudget other) surroundings.stopRequested := by
    unfold fetch
    rw [alike]
    rfl
  unfold step
  rw [fetched]
  cases engine.fetch (context.withBudget other) surroundings.stopRequested with
  | operation op instruction =>
      dsimp only
      rw [execute_withBudget, execute_withBudget]
      rfl
  | _ => rfl

theorem exhausted?_of_allows {budget : Option Nat} (allows : Allows budget limit)
    (left : engine.steps < limit) :
    engine.exhausted? (context.withBudget budget).settings = none := by
  refine Option.filter_eq_none_iff.mpr fun most member => ?_
  have enough := allows most member
  simp only [decide_eq_true_eq]
  omega

theorem exhausted?_of_spent (spent : limit ≤ engine.steps) :
    engine.exhausted? (context.withBudget (some limit)).settings = some limit :=
  Option.filter_eq_some_iff.mpr ⟨rfl, decide_eq_true spent⟩

/-- As long as there are instructions left, the budget does not matter. -/
theorem step_of_left {budget : Option Nat} (allows : Allows budget limit)
    (left : engine.steps < limit) (surroundings : Surroundings) :
    engine.step (context.withBudget (some limit)) surroundings =
      engine.step (context.withBudget budget) surroundings := by
  apply step_withBudget
  rw [exhausted?_of_allows (allows_some (Nat.le_refl limit)) left,
    exhausted?_of_allows allows left]

/-- What a budget can do to a step. -/
inductive Metered (context : Context) (limit : Nat) (engine : Engine) (now : Surroundings) :
    Prop where
  | left (left : engine.steps < limit)
  /-- No instruction is executed, because of the end of the engine or a request to stop. -/
  | idle (alike : ∀ budget, engine.step (context.withBudget budget) now =
        engine.step context now)
      (ended : (engine.step context now).1 =
        if engine.status.isFinal then engine else { engine with status := .halted })
  | cut (active : engine.status.isFinal = false) (spent : limit ≤ engine.steps)
      (raised : engine.step (context.withBudget (some limit)) now =
        engine.wake.raise (.stepLimitExceeded limit))

theorem metered (engine : Engine) (context : Context) (limit : Nat) (now : Surroundings) :
    Metered context limit engine now := by
  rcases Nat.lt_or_ge engine.steps limit with left | spent
  · exact .left left
  · cases final : engine.status.isFinal with
    | true =>
        refine .idle (fun budget => ?_) ?_
        · rw [step_of_final final, step_of_final final]
        · rw [step_of_final final, if_pos final]
    | false =>
        cases requested : now.stopRequested with
        | true =>
            have stopped (context : Context) : engine.fetch context now.stopRequested =
                .stopped := by
              simp [fetch, final, requested]
            refine .idle (fun budget => ?_) ?_
            · rw [step, step, stopped, stopped]
            · rw [step, stopped, final]
              exact engine.wake_halt
        | false =>
            have fetched : engine.fetch (context.withBudget (some limit)) now.stopRequested =
                .overBudget limit := by
              simp [fetch, final, requested, exhausted?_of_spent spent]
            exact .cut final spent (by rw [step, fetched])

theorem settled_steps (effect : Effect) : (settled effect).steps = effect.engine.steps := by
  unfold settled follow
  cases effect.control <;> rfl

theorem execute_steps (surroundings : Surroundings) (op : Op) (operands : List Operand) :
    (settled (engine.wake.tick.execute context.settings surroundings op operands)).steps =
      engine.steps + 1 := by
  rw [settled_steps, (execute_frame _ surroundings context.settings op operands).steps]
  exact congrArg (· + 1) engine.wake_steps

theorem Advances.steps_le {surroundings : Surroundings} {after : Engine}
    (advances : Advances context surroundings engine after) : after.steps ≤ engine.steps + 1 := by
  cases advances with
  | finished final => exact Nat.le_succ _
  | halted active ends => exact Nat.le_succ _
  | overBudget active exhausted => exact Nat.le_succ _
  | undecodable active found unknown => exact Nat.le_refl _
  | executed active found decoded => rw [execute_steps]

/-- A step that does not end the engine executes one instruction. -/
theorem Advances.steps {surroundings : Surroundings} {after : Engine}
    (advances : Advances context surroundings engine after)
    (active : after.status.isFinal = false) : after.steps = engine.steps + 1 := by
  cases advances with
  | finished final => simp [final] at active
  | halted _ ends => cases active
  | overBudget _ exhausted => cases active
  | undecodable _ found unknown => cases active
  | executed _ found decoded => exact execute_steps ..

/-- Without a budget no engine ends because of it: the operations never say so. -/
theorem Advances.unlimited {surroundings : Surroundings} {after : Engine}
    (advances : Advances (context.withBudget none) surroundings engine after)
    (honest : surroundings.Honest) (active : engine.status.isFinal = false)
    (counter reached : Nat) :
    after.status ≠ .faulted ⟨counter, .stepLimitExceeded reached⟩ := by
  intro faulted
  cases advances with
  | finished final => simp [final] at active
  | halted _ ends => cases faulted
  | overBudget _ exhausted => cases exhausted
  | undecodable _ found unknown => cases faulted
  | @executed instruction op _ found decoded =>
      have lawful := execute_lawful engine.wake.tick (context.withBudget none).settings honest op
        instruction.operands
      have running : engine.wake.tick.status = .running := wake_status active
      have control := (settled_faulted running lawful faulted).1
      cases execute_accounted engine.wake.tick instruction.operands _ honest op _ control

/-- No step leads beyond the budget. -/
theorem step_steps_le (few : engine.steps ≤ limit) (now : Surroundings) :
    (engine.step (context.withBudget (some limit)) now).1.steps ≤ limit := by
  cases engine.metered context limit now with
  | left left => exact Nat.le_trans (step_advances engine _ now).steps_le left
  | idle alike ended =>
      rw [alike, ended]
      split <;> exact few
  | cut active spent raised =>
      rw [raised, wake_raise]
      exact few

end Step

/-! ## Whole runs -/

section March

variable {engine : Engine} {context : Context} {limit : Nat}

theorem march_cons (engine : Engine) (context : Context) (now : Surroundings)
    (later : List Surroundings) :
    engine.march context (now :: later) =
      (((engine.step context now).1.march context later).1,
        (engine.step context now).2 ++ ((engine.step context now).1.march context later).2) :=
  rfl

/-- Each call for a step executes one instruction until the engine ends. -/
theorem march_steps {answers : List Surroundings}
    (active : (engine.march context answers).1.status.isFinal = false) :
    (engine.march context answers).1.steps = engine.steps + answers.length := by
  induction answers generalizing engine with
  | nil => rfl
  | cons now later ih =>
      rw [march_cons] at active ⊢
      have moved : (engine.step context now).1.status.isFinal = false := by
        apply eq_false_of_ne_true
        intro final
        rw [march_of_final final, final] at active
        cases active
      have steps := (step_advances engine context now).steps moved
      rw [ih active, steps, List.length_cons]
      omega

theorem march_steps_le (few : engine.steps ≤ limit) (answers : List Surroundings) :
    (engine.march (context.withBudget (some limit)) answers).1.steps ≤ limit := by
  induction answers generalizing engine with
  | nil => exact few
  | cons now later ih =>
      rw [march_cons]
      exact ih (step_steps_le few now)

/-- A budget that is not used up makes no difference to one that allows as much. -/
theorem march_of_allows {budget : Option Nat} (allows : Allows budget limit)
    {answers : List Surroundings}
    (fits : ∀ counter, (engine.march (context.withBudget (some limit)) answers).1.status ≠
      .faulted ⟨counter, .stepLimitExceeded limit⟩) :
    engine.march (context.withBudget budget) answers =
      engine.march (context.withBudget (some limit)) answers := by
  induction answers generalizing engine with
  | nil => rfl
  | cons now later ih =>
      have same : engine.step (context.withBudget (some limit)) now =
          engine.step (context.withBudget budget) now := by
        cases engine.metered context limit now with
        | left left => exact step_of_left allows left now
        | idle alike _ => exact (alike _).trans (alike _).symm
        | cut active spent raised =>
            exfalso
            apply fits engine.counter
            rw [march_cons, raised, wake_raise, march_of_final rfl]
      rw [march_cons] at fits
      rw [march_cons, march_cons, ← same, ih fits]

/-- A run that was cut off: up to there it is another run, which goes on. -/
structure Cut (limit : Nat) (whole part : Engine × List Report) : Prop where
  steps : part.1.steps = limit
  active : part.1.status.isFinal = false
  engine : whole.1 =
    { part.1 with status := .faulted ⟨part.1.counter, .stepLimitExceeded limit⟩ }
  events : Report.events whole.2 =
    Report.events part.2 ++ [.faulted ⟨part.1.counter, .stepLimitExceeded limit⟩]

/-- Where the budget is used up, the run without a budget is cut off. -/
theorem march_cut (few : engine.steps ≤ limit) (active : engine.status.isFinal = false)
    {answers : List Surroundings} (honest : ∀ now ∈ answers, now.Honest)
    {counter reached : Nat}
    (faulted : (engine.march (context.withBudget (some limit)) answers).1.status =
      .faulted ⟨counter, .stepLimitExceeded reached⟩) :
    reached = limit ∧ limit < engine.steps + answers.length ∧
      Cut limit (engine.march (context.withBudget (some limit)) answers)
        (engine.march (context.withBudget none) (answers.take (limit - engine.steps))) := by
  induction answers generalizing engine with
  | nil =>
      change engine.status = _ at faulted
      rw [faulted] at active
      cases active
  | cons now later ih =>
      rw [march_cons] at faulted ⊢
      cases engine.metered context limit now with
      | left left =>
          have same : engine.step (context.withBudget (some limit)) now =
              engine.step (context.withBudget none) now := step_of_left (allows_none limit) left now
          rw [same] at faulted ⊢
          have advances := step_advances engine (context.withBudget none) now
          -- The engine goes on, since an operation does not end it for this cause.
          have ready : (engine.step (context.withBudget none) now).1.status.isFinal = false := by
            apply eq_false_of_ne_true
            intro final
            rw [march_of_final final] at faulted
            exact advances.unlimited (honest now List.mem_cons_self) active _ _ faulted
          have steps := advances.steps ready
          have room : limit - engine.steps =
              limit - (engine.step (context.withBudget none) now).1.steps + 1 := by
            omega
          rcases ih (by omega) ready (fun other member => honest other (List.mem_cons_of_mem _ member))
            faulted with ⟨same, long, cut⟩
          rw [room, List.take_succ_cons, march_cons, List.length_cons]
          refine ⟨same, by omega, cut.steps, cut.active, cut.engine, ?_⟩
          rw [Report.events_append, Report.events_append, cut.events, List.append_assoc]
      | idle alike ended =>
          rw [alike, ended, active, if_neg Bool.false_ne_true, march_of_final rfl] at faulted
          cases faulted
      | cut _ spent raised =>
          rw [raised, wake_raise, march_of_final rfl] at faulted
          cases faulted
          have reaches : engine.steps = limit := Nat.le_antisymm few spent
          rw [raised, wake_raise, march_of_final rfl, Nat.sub_eq_zero_of_le spent, List.length_cons]
          refine ⟨rfl, by omega, reaches, active, rfl, ?_⟩
          rw [List.append_nil]
          change [Event.faulted ⟨engine.wake.counter, _⟩] = [Event.faulted ⟨engine.counter, _⟩]
          rw [engine.wake_counter]

end March

/-- How a run with a budget is related to the same run without one and to those with larger
budgets.  All engines get the same answers. -/
structure Truncates (context : Context) (limit : Nat) (engine : Engine)
    (answers : List Surroundings) : Prop where
  within : (engine.march (context.withBudget (some limit)) answers).1.steps ≤ limit
  ends : limit < answers.length →
    (engine.march (context.withBudget (some limit)) answers).1.status.isFinal = true
  /-- Both are the same while there have been no more steps than the budget allows, and also
  later if fewer instructions than that have been executed. -/
  alike : answers.length ≤ limit ∨
      (engine.march (context.withBudget (some limit)) answers).1.steps < limit →
    engine.march (context.withBudget none) answers =
      engine.march (context.withBudget (some limit)) answers
  untouched : (∀ counter, (engine.march (context.withBudget (some limit)) answers).1.status ≠
      .faulted ⟨counter, .stepLimitExceeded limit⟩) →
    engine.march (context.withBudget none) answers =
      engine.march (context.withBudget (some limit)) answers
  cut : ∀ counter reached,
    (engine.march (context.withBudget (some limit)) answers).1.status =
      .faulted ⟨counter, .stepLimitExceeded reached⟩ →
    reached = limit ∧ Cut limit (engine.march (context.withBudget (some limit)) answers)
      (engine.march (context.withBudget none) (answers.take limit))
  larger : (∀ counter, (engine.march (context.withBudget (some limit)) answers).1.status ≠
      .faulted ⟨counter, .stepLimitExceeded limit⟩) →
    ∀ most, limit ≤ most → engine.march (context.withBudget (some most)) answers =
      engine.march (context.withBudget (some limit)) answers

/-- **A budget cuts a run off and changes nothing else.**  An engine is started anywhere in
any program and gets any answers that a host can give.  It never executes more instructions
than its budget allows and ends when it is asked for one more.  Until then it is and reports
what the engine without a budget is and reports, and so it does to its end if it ends for
another reason. -/
theorem march_truncates (context : Context) (limit : Nat) (thread : ThreadId) (entry : Nat)
    (stores : Stores) (faults : FaultSource) (answers : List Surroundings)
    (honest : ∀ now ∈ answers, now.Honest) :
    Truncates context limit (create context.settings thread entry stores faults) answers := by
  have few : (create context.settings thread entry stores faults).steps ≤ limit := Nat.zero_le _
  have within : ((create context.settings thread entry stores faults).march
      (context.withBudget (some limit)) answers).1.steps ≤ limit := march_steps_le few answers
  refine ⟨within, fun long => ?_, fun early => ?_, march_of_allows (allows_none limit),
    fun counter reached faulted => ?_, fun fits most enough =>
      march_of_allows (allows_some enough) fits⟩
  · apply eq_true_of_ne_false
    intro active
    have steps := march_steps active
    change _ = 0 + _ at steps
    omega
  · apply march_of_allows (allows_none limit)
    intro counter faulted
    rcases march_cut few rfl honest faulted with ⟨-, long, cut⟩
    have steps := cut.steps
    rw [cut.engine] at early
    change limit < 0 + _ at long
    change _ ∨ (march _ _ _).1.steps < limit at early
    omega
  · rcases march_cut few rfl honest faulted with ⟨same, -, cut⟩
    exact ⟨same, cut⟩

/-- A program that prints without an end. -/
def chatter : Context where
  program := ⟨[⟨.ofOp .read [.register "x"], 1⟩, ⟨.ofOp .print [], 2⟩,
    ⟨.ofOp .jump [.target 0], 3⟩]⟩
  settings := .standard

def chatterAnswers : List Surroundings :=
  List.replicate 9 (.alone fun _ => .unset)

/-- The start of the program with a budget. -/
def chatterMarch (budget : Option Nat) (answers : List Surroundings) : Engine × List Report :=
  (create chatter.settings .initial 0 (.empty chatter.settings) (.ofSeed 1)).march
    (chatter.withBudget budget) answers

theorem chatter_truncates :
    (∀ now ∈ chatterAnswers, now.Honest) ∧
      (chatterMarch none chatterAnswers).1.status = .running ∧
        (chatterMarch (some 4) chatterAnswers).1.status =
          .faulted ⟨1, .stepLimitExceeded 4⟩ ∧
        Cut 4 (chatterMarch (some 4) chatterAnswers) (chatterMarch none (chatterAnswers.take 4)) := by
  have honest : ∀ now ∈ chatterAnswers, now.Honest := by
    intro now member
    rw [List.eq_of_mem_replicate member]
    exact Surroundings.alone_honest _
  have truncates := march_truncates chatter 4 .initial 0 (.empty chatter.settings) (.ofSeed 1)
    chatterAnswers honest
  have faulted : (chatterMarch (some 4) chatterAnswers).1.status =
      .faulted ⟨1, .stepLimitExceeded 4⟩ := by decide +kernel
  exact ⟨honest, by decide +kernel, faulted, (truncates.cut 1 4 faulted).2⟩

end Engine
end CommandMachine
