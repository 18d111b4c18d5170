import CommandMachine.Proofs.Budget
namespace CommandMachine

/-!
# Budgets that are as large as a run

An engine looks at its budget before it looks whether the program is at its end.  A budget
of just as many instructions as a run executes is therefore enough for a run whose last
instruction ends it, be it with a fault or without.  It is not enough for a run that ends
because there is no instruction left: with the budget spent, the engine faults where it
would have halted.

No other run notices a budget as large as itself, and in this one case nothing but the
ending is different.
-/

namespace Engine

/-- Whether an engine comes to a place where no instruction is left. -/
def runsOff (engine : Engine) (context : Context) : List Surroundings → Bool
  | [] => false
  | now :: later =>
    engine.fetch context now.stopRequested = .atEnd ||
      (engine.step context now).1.runsOff context later

/-! ## One step -/

section Step

variable {engine : Engine} {context : Context} {limit : Nat} {now : Surroundings}

theorem Advances.le_steps {after : Engine} (advances : Advances context now engine after) :
    engine.steps ≤ after.steps := by
  cases advances with
  | finished final => exact Nat.le_refl _
  | halted active ends => exact Nat.le_refl _
  | overBudget active exhausted => exact Nat.le_refl _
  | undecodable active found unknown => exact Nat.le_succ _
  | executed active found decoded =>
      rw [execute_steps]
      exact Nat.le_succ _

/-- Without a budget the end of the program is reached by an engine that nobody stops and
that finds no instruction. -/
theorem fetch_eq_atEnd_iff {stopRequested : Bool} :
    engine.fetch (context.withBudget none) stopRequested = .atEnd ↔
      engine.status.isFinal = false ∧ stopRequested = false ∧
        context.program.get? engine.counter = none := by
  constructor
  · intro fetched
    have known := fetch_fetched engine (context.withBudget none) stopRequested
    rw [fetched] at known
    cases stopRequested with
    | false => exact ⟨known.1, rfl, known.2⟩
    | true => simp [fetch, known.1] at fetched
  · rintro ⟨active, rfl, missing⟩
    have unlimited : engine.exhausted? (context.withBudget none).settings = none := rfl
    have ended : (context.withBudget none).program.get? engine.counter = none := missing
    simp [fetch, active, unlimited, ended]

theorem step_of_atEnd
    (fetched : engine.fetch (context.withBudget none) now.stopRequested = .atEnd) :
    engine.step (context.withBudget none) now =
      ({ engine with status := .halted }, [.event .halted]) := by
  rw [step, fetched]
  change engine.wake.halt = _
  exact Prod.ext engine.wake_halt rfl

/-- A spent budget comes before the end of the program. -/
theorem step_of_spent
    (fetched : engine.fetch (context.withBudget none) now.stopRequested = .atEnd)
    (spent : limit ≤ engine.steps) :
    engine.step (context.withBudget (some limit)) now =
      engine.wake.raise (.stepLimitExceeded limit) := by
  rcases fetch_eq_atEnd_iff.mp fetched with ⟨active, unstopped, -⟩
  have refused : engine.fetch (context.withBudget (some limit)) now.stopRequested =
      .overBudget limit := by
    simp [fetch, active, unstopped, exhausted?_of_spent spent]
  rw [step, refused]

/-- An engine that is neither at its end nor stopped nor at the end of the program executes
an instruction, which counts. -/
theorem Advances.steps_of_further {after : Engine}
    (advances : Advances (context.withBudget none) now engine after)
    (active : engine.status.isFinal = false) (unstopped : now.stopRequested = false)
    (further : engine.fetch (context.withBudget none) now.stopRequested ≠ .atEnd) :
    after.steps = engine.steps + 1 := by
  cases advances with
  | finished final =>
      rw [final] at active
      cases active
  | halted _ ends =>
      rcases ends with stopped | missing
      · rw [stopped] at unstopped
        cases unstopped
      · exact absurd (fetch_eq_atEnd_iff.mpr ⟨active, unstopped, missing⟩) further
  | overBudget _ exhausted => cases exhausted
  | undecodable _ found unknown => rfl
  | executed _ found decoded => exact execute_steps ..

/-- A step within the budget is the same without it, unless the budget is spent and there is
no instruction left. -/
theorem step_spared (few : (engine.step (context.withBudget none) now).1.steps ≤ limit)
    (spared : engine.steps < limit ∨
      engine.fetch (context.withBudget none) now.stopRequested ≠ .atEnd) :
    engine.step (context.withBudget (some limit)) now =
      engine.step (context.withBudget none) now := by
  rcases spared with left | further
  · exact step_of_left (allows_none limit) left now
  · cases engine.metered context limit now with
    | left left => exact step_of_left (allows_none limit) left now
    | idle alike _ => exact (alike _).trans (alike _).symm
    | cut active spent raised =>
        cases requested : now.stopRequested with
        | false =>
            have advances := step_advances engine (context.withBudget none) now
            have steps := advances.steps_of_further active requested further
            omega
        | true =>
            -- A request to stop comes before the budget.
            have stopped (budget : Option Nat) :
                engine.fetch (context.withBudget budget) now.stopRequested = .stopped := by
              simp [fetch, active, requested]
            rw [step, step, stopped, stopped]

end Step

/-! ## Whole runs -/

section March

variable {engine : Engine} {context : Context} {limit : Nat}

theorem runsOff_cons {now : Surroundings} {later : List Surroundings} :
    engine.runsOff context (now :: later) = true ↔
      engine.fetch context now.stopRequested = .atEnd ∨
        (engine.step context now).1.runsOff context later = true := by
  rw [runsOff, Bool.or_eq_true, decide_eq_true_iff]

theorem steps_le_march (context : Context) (answers : List Surroundings) :
    engine.steps ≤ (engine.march context answers).1.steps := by
  induction answers generalizing engine with
  | nil => exact Nat.le_refl _
  | cons now later ih => exact Nat.le_trans (step_advances engine context now).le_steps ih

/-- The engine goes no further than the end of the program. -/
theorem march_of_atEnd {now : Surroundings} {later : List Surroundings}
    (fetched : engine.fetch (context.withBudget none) now.stopRequested = .atEnd) :
    engine.march (context.withBudget none) (now :: later) =
      ({ engine with status := .halted }, [.event .halted]) := by
  rw [march_cons, step_of_atEnd fetched, march_of_final rfl]
  rfl

/-- What a spent budget makes of a run to the end of the program: a fault is raised and shown
where the run halts. -/
structure Overruns (limit : Nat) (whole limited : Engine × List Report) : Prop where
  halted : whole.1.status = .halted
  engine : limited.1 =
    { whole.1 with status := .faulted ⟨whole.1.counter, .stepLimitExceeded limit⟩ }
  events : ∃ shown, Report.events whole.2 = shown ++ [.halted] ∧
    Report.events limited.2 =
      shown ++ [.faulted ⟨whole.1.counter, .stepLimitExceeded limit⟩]

theorem Overruns.prepend {whole limited : Engine × List Report}
    (overruns : Overruns limit whole limited) (reports : List Report) :
    Overruns limit (whole.1, reports ++ whole.2) (limited.1, reports ++ limited.2) := by
  rcases overruns.events with ⟨shown, halts, faults⟩
  refine ⟨overruns.halted, overruns.engine, Report.events reports ++ shown, ?_, ?_⟩
  · rw [Report.events_append, halts, List.append_assoc]
  · rw [Report.events_append, faults, List.append_assoc]

theorem march_spared {answers : List Surroundings}
    (few : (engine.march (context.withBudget none) answers).1.steps ≤ limit)
    (spared : ¬ ((engine.march (context.withBudget none) answers).1.steps = limit ∧
      engine.runsOff (context.withBudget none) answers = true)) :
    engine.march (context.withBudget (some limit)) answers =
      engine.march (context.withBudget none) answers := by
  induction answers generalizing engine with
  | nil => rfl
  | cons now later ih =>
      have fewer : ((engine.step (context.withBudget none) now).1.march
          (context.withBudget none) later).1.steps ≤ limit := few
      have moved : (engine.step (context.withBudget none) now).1.steps ≤ limit :=
        Nat.le_trans (steps_le_march _ later) fewer
      have room : engine.steps < limit ∨
          engine.fetch (context.withBudget none) now.stopRequested ≠ .atEnd := by
        by_contra spent
        rw [not_or, Nat.not_lt, not_not] at spent
        rcases spent with ⟨spent, fetched⟩
        rw [march_of_atEnd fetched] at few spared
        exact spared ⟨Nat.le_antisymm few spent, runsOff_cons.mpr (Or.inl fetched)⟩
      have rest : (engine.step (context.withBudget none) now).1.march
          (context.withBudget (some limit)) later =
          (engine.step (context.withBudget none) now).1.march (context.withBudget none) later := by
        apply ih fewer
        rintro ⟨reaches, runs⟩
        exact spared ⟨reaches, runsOff_cons.mpr (Or.inr runs)⟩
      rw [march_cons, march_cons, step_spared moved room, rest]

theorem march_overruns {answers : List Surroundings}
    (reaches : (engine.march (context.withBudget none) answers).1.steps = limit)
    (runs : engine.runsOff (context.withBudget none) answers = true) :
    Overruns limit (engine.march (context.withBudget none) answers)
      (engine.march (context.withBudget (some limit)) answers) := by
  induction answers generalizing engine with
  | nil => cases runs
  | cons now later ih =>
      by_cases fetched : engine.fetch (context.withBudget none) now.stopRequested = .atEnd
      · rw [march_of_atEnd fetched] at reaches ⊢
        have spent : limit ≤ engine.steps := Nat.le_of_eq reaches.symm
        rw [march_cons, step_of_spent fetched spent, wake_raise, march_of_final rfl]
        refine ⟨rfl, rfl, [], rfl, ?_⟩
        change [Event.faulted ⟨engine.wake.counter, _⟩] = [Event.faulted ⟨engine.counter, _⟩]
        rw [engine.wake_counter]
      · have later := (runsOff_cons.mp runs).resolve_left fetched
        have moved : (engine.step (context.withBudget none) now).1.steps ≤ limit :=
          reaches ▸ steps_le_march _ _
        rw [march_cons, march_cons, step_spared moved (Or.inr fetched)]
        exact (ih reaches later).prepend _

end March

/-- How a run that executes no more instructions than a budget allows is related to the run
with this budget. -/
structure Suffices (context : Context) (limit : Nat) (engine : Engine)
    (answers : List Surroundings) : Prop where
  /-- Outcome and events are the same except if the run has executed as many instructions as
  the budget allows and has then come to the end of the program. -/
  invisible :
    ((engine.march (context.withBudget (some limit)) answers).1.outcome =
          (engine.march (context.withBudget none) answers).1.outcome ∧
        Report.events (engine.march (context.withBudget (some limit)) answers).2 =
          Report.events (engine.march (context.withBudget none) answers).2) ↔
      ¬ ((engine.march (context.withBudget none) answers).1.steps = limit ∧
        engine.runsOff (context.withBudget none) answers = true)
  /-- Then the engines are the same in all else, and so is what they report. -/
  alike :
    ¬ ((engine.march (context.withBudget none) answers).1.steps = limit ∧
        engine.runsOff (context.withBudget none) answers = true) →
      engine.march (context.withBudget (some limit)) answers =
        engine.march (context.withBudget none) answers
  overruns : (engine.march (context.withBudget none) answers).1.steps = limit →
    engine.runsOff (context.withBudget none) answers = true →
      Overruns limit (engine.march (context.withBudget none) answers)
        (engine.march (context.withBudget (some limit)) answers)

/-- **A budget as large as a run is noticed only by a run that it takes to the end of the
program.**  An engine is started anywhere in any program and gets any answers.  If without a
budget it executes no more instructions than the budget allows, then the budget makes no
difference, with the one exception that the engine has spent the budget and finds no
instruction left.  In that case it faults instead of halting. -/
theorem march_suffices (context : Context) (limit : Nat) (thread : ThreadId) (entry : Nat)
    (stores : Stores) (faults : FaultSource) (answers : List Surroundings)
    (few : ((create context.settings thread entry stores faults).march
      (context.withBudget none) answers).1.steps ≤ limit) :
    Suffices context limit (create context.settings thread entry stores faults) answers := by
  refine ⟨⟨fun same exception => ?_, fun spared => ?_⟩, march_spared few, march_overruns⟩
  · have overruns := march_overruns exception.1 exception.2
    have status := congrArg Outcome.status same.1
    change (march _ _ _).1.status = (march _ _ _).1.status at status
    rw [overruns.halted, overruns.engine] at status
    cases status
  · rw [march_spared few spared]
    exact ⟨rfl, rfl⟩

/-- Two instructions, the second of which ends the run. -/
def closed : Context where
  program := ⟨[⟨.ofOp .read [.register "x"], 1⟩, ⟨.ofOp .halt [], 2⟩]⟩
  settings := .standard

/-- One instruction, behind which the program is at its end. -/
def openEnded : Context where
  program := ⟨[⟨.ofOp .release [], 1⟩]⟩
  settings := .standard

/-- The start of a program by an engine that is asked for three steps. -/
def threeSteps (context : Context) (budget : Option Nat) : Engine × List Report :=
  (create context.settings .initial 0 (.empty context.settings) (.ofSeed 1)).march
    (context.withBudget budget) (List.replicate 3 (.alone fun _ => .unset))

/-- A run that an instruction ends does not notice a budget of just its size. -/
theorem closed_suffices :
    (threeSteps closed none).1.steps ≤ 2 ∧ (threeSteps closed none).1.status = .halted ∧
      threeSteps closed (some 2) = threeSteps closed none := by
  have few : (threeSteps closed none).1.steps ≤ 2 := by decide +kernel
  have enough := march_suffices closed 2 .initial 0 (.empty closed.settings) (.ofSeed 1)
    (List.replicate 3 (.alone fun _ => .unset)) few
  refine ⟨few, by decide +kernel, enough.alike fun exception => ?_⟩
  exact absurd exception.2 (by decide +kernel)

/-- A budget as large as a run is not always invisible, not even if the program never starts
another engine. -/
theorem openEnded_not_invisible :
    ¬ ∀ (context : Context) (limit : Nat) (thread : ThreadId) (entry : Nat) (stores : Stores)
        (faults : FaultSource) (answers : List Surroundings),
      let engine := create context.settings thread entry stores faults
      let whole := engine.march (context.withBudget none) answers
      let limited := engine.march (context.withBudget (some limit)) answers
      (∀ placed ∈ context.program.code, placed.instruction.op? ≠ some .thread) →
      whole.1.status.isFinal = true → whole.1.steps ≤ limit →
        limited.1.outcome = whole.1.outcome ∧
          Report.events limited.2 = Report.events whole.2 := by
  intro invisible
  have same := invisible openEnded 1 .initial 0 (.empty openEnded.settings) (.ofSeed 1)
    (List.replicate 3 (.alone fun _ => .unset)) (by decide +kernel) (by decide +kernel)
    (by decide +kernel)
  have faulted : (threeSteps openEnded (some 1)).1.outcome.status =
      .faulted ⟨1, .stepLimitExceeded 1⟩ := by decide +kernel
  have halted : (threeSteps openEnded none).1.outcome.status = .halted := by decide +kernel
  have status := congrArg Outcome.status same.1
  change (threeSteps openEnded (some 1)).1.outcome.status =
    (threeSteps openEnded none).1.outcome.status at status
  rw [faulted, halted] at status
  cases status

end Engine
end CommandMachine
