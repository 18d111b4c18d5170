import CommandMachine.Proofs.Isolation
import CommandMachine.Source.Assembly
import Mathlib.Data.List.Sort
namespace CommandMachine

/-!
# The order of turns does not matter

Engines with registers and memory of their own take turns in any order, until all of them
have come to their end.  If only the main engine has started others and waited for them,
then every order of turns leads to the same outcomes and lets each engine show the same
events.  One of these orders is sequential: the main engine does not go on before the
engine that it has started is at its end.
-/

/-- Whether the next instruction of an engine starts another one or waits for it. -/
def Engine.usesThreads (engine : Engine) (context : Context) (stopRequested : Bool) : Bool :=
  match engine.fetch context stopRequested with
  | .operation .thread _ => true
  | .operation .join _ => true
  | _ => false

theorem Strand.calm_of_usesThreads {strand : Strand} {context : Context}
    (apart : strand.engine.usesThreads context false = false) : strand.Calm context := by
  unfold Engine.usesThreads at apart
  unfold Calm Engine.request?
  cases fetched : strand.engine.fetch context false with
  | operation op instruction =>
      rw [fetched] at apart
      cases op with
      | thread => cases apart
      | join => cases apart
      | _ => exact ⟨nofun, nofun⟩
  | _ => exact ⟨nofun, nofun⟩

/-- An engine that does not take part in a wait is at its end or can move. -/
theorem Thread.isOver_of_phase {thread : Thread}
    (apart : thread.phase = .ready ∨ thread.phase = .crashed) :
    thread.isOver = !thread.isRunnable := by
  rcases apart with ready | crashed
  · rw [isOver, isRunnable, ready, Bool.not_not]
  · rw [isOver, isRunnable, crashed]
    rfl

namespace Run

/-- A run that nobody asks to stop. -/
def opening (context : Context) (backend : Inference) (manual : Bool) (entropy : UInt64) : Run :=
  create context backend .never manual (context.settings.faultSource entropy)

/-- The run after turns in the given order. -/
def turns (run : Run) (order : List ThreadId) : Run :=
  order.foldl turn run

/-- Whether all engines have come to their end. -/
def isComplete (run : Run) : Bool :=
  run.threads.all Thread.isOver

/-- Whether the turn of a thread executes an instruction that starts an engine or waits for
one. -/
def usesThreads (run : Run) (id : ThreadId) : Bool :=
  (run.threads[id]?).any fun thread =>
    thread.isRunnable &&
      (run.view thread.engine).usesThreads run.context run.stop.isRequested

/-- Whether no engine but the main one starts others or waits for them, if turns are taken in
the given order. -/
def onlyMainUsesThreads (run : Run) : List ThreadId → Bool
  | [] => true
  | id :: rest =>
    (id = .initial || !run.usesThreads id) && (run.turn id).onlyMainUsesThreads rest

/-- The main engine takes its turns only when all engines that it has started are at their
ends. -/
def Sequential (run : Run) : List ThreadId → Prop
  | [] => True
  | id :: rest =>
    (id = .initial → ∀ thread ∈ run.threads.tail, thread.isOver = true) ∧
      (run.turn id).Sequential rest

/-- Two runs have come to the same, apart from the order in which it happened. -/
structure SameResult (left right : Run) : Prop where
  main : left.result.main = right.result.main
  threads : left.result.threads = right.result.threads
  events : ∀ id, left.eventsOf id = right.eventsOf id

/-! ## What a complete run came to -/

section Results

variable {run left right : Run} {awaited : Option ThreadId}

theorem isComplete_ensemble (run : Run) : run.ensemble.IsComplete ↔ run.isComplete = true := by
  rw [isComplete, List.all_eq_true]
  constructor
  · intro complete thread member
    rcases List.getElem?_of_mem member with ⟨id, present⟩
    have listed := strands_ensemble_eq_some.mpr ⟨thread, present, rfl⟩
    rw [← isOver_strand run id]
    exact complete _ (List.mem_of_getElem? listed)
  · intro complete strand member
    rcases List.getElem?_of_mem member with ⟨id, present⟩
    rcases strands_ensemble_eq_some.mp present with ⟨thread, found, rfl⟩
    rw [isOver_strand]
    exact complete thread (List.mem_of_getElem? found)

theorem Standing.mainOutcome_ensemble (standing : run.Standing awaited) : run.mainOutcome =
    (run.ensemble.strands[ThreadId.initial]?).elim .crashed fun strand =>
      if strand.crashed then .crashed else strand.engine.outcome := by
  rw [strands_ensemble, mainOutcome, mainCrashed]
  cases present : run.threads[ThreadId.initial]? with
  | none => rfl
  | some thread => cases standing.main thread present <;> rfl

theorem Standing.eventsOf_ensemble (standing : run.Standing awaited) (id : ThreadId) :
    run.eventsOf id = (run.ensemble.strands[id]?).elim [] Strand.events := by
  rw [strands_ensemble]
  cases present : run.threads[id]? with
  | none => exact standing.silent id (List.getElem?_eq_none_iff.mp present)
  | some thread => rfl

/-- Nobody waits for an engine when all are at their ends. -/
theorem Standing.awaited_of_complete (standing : run.Standing awaited)
    (complete : run.ensemble.IsComplete) : awaited = none := by
  have inside := standing.inhabited
  have fits := standing.main _ (List.getElem?_eq_getElem inside)
  generalize run.threads[ThreadId.initial] = thread at fits
  cases fits with
  | ready => rfl
  | crashed => rfl
  | answered => rfl
  | waiting foreign running asked =>
      rw [List.getElem?_map] at running
      rcases Option.map_eq_some_iff.mp running with ⟨strand, present, unended⟩
      rw [Strand.ending?_eq_none, complete strand (List.mem_of_getElem? present)] at unended
      cases unended

/-- The outcomes that are collected are those of the engines. -/
theorem Standing.threads_result (standing : run.Standing awaited)
    (complete : run.ensemble.IsComplete) :
    (run.result.threads.Pairwise fun left right => left.1 < right.1) ∧
      ∀ thread outcome, (thread, outcome) ∈ run.result.threads ↔ thread ≠ .initial ∧
        ∃ ending, (run.ensemble.strands.map Strand.ending?)[thread]? = some (some ending) ∧
          ending.outcome = outcome := by
  cases standing.awaited_of_complete complete
  refine standing.attends.collect fun thread inside => ?_
  rw [List.length_map] at inside
  rcases Strand.ending?_of_isOver (complete _ (List.getElem_mem inside)) with ⟨ending, known⟩
  refine ⟨ending, ?_⟩
  rw [List.getElem?_map, List.getElem?_eq_getElem inside, Option.map_some, known]

/-- What a complete run came to can be seen from the engines alone. -/
theorem SameResult.of_ensemble {other : Option ThreadId} (first : left.Standing awaited)
    (second : right.Standing other) (same : left.ensemble = right.ensemble)
    (complete : left.ensemble.IsComplete) : left.SameResult right := by
  refine ⟨?_, ?_, fun id => ?_⟩
  · change left.mainOutcome = right.mainOutcome
    rw [first.mainOutcome_ensemble, second.mainOutcome_ensemble, same]
  · rcases first.threads_result complete with ⟨ascending, members⟩
    rcases second.threads_result (same ▸ complete) with ⟨sorted, listed⟩
    have irreflexive : Std.Irrefl fun left right : ThreadId × Outcome => left.1 < right.1 :=
      ⟨fun entry => Nat.lt_irrefl entry.1⟩
    have antisymmetric : Std.Antisymm fun left right : ThreadId × Outcome => left.1 < right.1 :=
      ⟨fun _ _ less more => absurd more (Nat.lt_asymm less)⟩
    refine ascending.eq_of_mem_iff sorted fun entry => ?_
    rw [members entry.1 entry.2, listed entry.1 entry.2, same]
  · rw [first.eventsOf_ensemble, second.eventsOf_ensemble, same]

end Results

/-! ## Turns in any order -/

section Orders

variable {run : Run} {id : ThreadId} {awaited : Option ThreadId} {last : Ensemble} {turns : Nat}

theorem standing_opening {context : Context} (isolated : context.settings.isolation = .isolated)
    (backend : Inference) (manual : Bool) (entropy : UInt64) :
    (opening context backend manual entropy).Standing none := by
  have events (id : ThreadId) : (opening context backend manual entropy).eventsOf id = [] := by
    cases manual with
    | true => rfl
    | false =>
        by_cases first : ThreadId.initial = id
        · simp [opening, create, eventsOf, reports, first, Report.event?]
        · simp [opening, create, eventsOf, reports, first]
  refine ⟨isolated, rfl, rfl, rfl, fun id _ => events id, fun id thread present later => ?_,
    fun thread present => ?_, .empty⟩
  · cases id with
    | zero => exact absurd rfl later
    | succ id => cases present
  · cases present
    exact .ready

theorem tame_of_usesThreads (standing : run.Standing awaited)
    (apart : (id = .initial || !run.usesThreads id) = true) : run.ensemble.Tame id := by
  intro later strand present active
  have unused : run.usesThreads id = false := by
    simpa [later] using apart
  rcases strands_ensemble_eq_some.mp present with ⟨thread, found, rfl⟩
  rw [isOver_strand] at active
  rw [usesThreads, found, Option.any_some, view_of_isolated standing.isolated,
    standing.stop] at unused
  rw [Thread.isOver_of_phase (standing.children id thread found later),
    Bool.not_eq_false'] at active
  rw [active, Bool.true_and] at unused
  exact Strand.calm_of_usesThreads unused

/-- Turns where only the main engine uses threads are a play of the ensemble. -/
theorem Standing.plays (standing : run.Standing awaited) {order : List ThreadId}
    (apart : run.onlyMainUsesThreads order = true) :
    ∃ turns, Ensemble.Plays (run.turns order).ensemble turns run.ensemble := by
  induction order generalizing run awaited with
  | nil => exact ⟨0, .finished⟩
  | cons id rest ih =>
      rcases Bool.and_eq_true_iff.mp apart with ⟨here, after⟩
      have tame := tame_of_usesThreads standing here
      rcases standing.turn tame with ⟨moved, later, standing⟩
      rcases ih standing after with ⟨turns, plays⟩
      rw [moved] at plays
      cases able : run.ensemble.prospect? id with
      | none =>
          -- The engine has to wait, and its turn does not count.
          rw [Ensemble.turn_of_none able] at plays
          exact ⟨turns, plays⟩
      | some result => exact ⟨turns + 1, .turn able tame plays⟩

/-- Whatever turns are taken, the play leads on to the same end. -/
theorem Standing.follow (standing : run.Standing awaited)
    (plays : Ensemble.Plays last turns run.ensemble) (complete : last.IsComplete)
    (order : List ThreadId) :
    ∃ later fewer, (run.turns order).Standing later ∧
      Ensemble.Plays last fewer (run.turns order).ensemble := by
  induction order generalizing run awaited turns with
  | nil => exact ⟨awaited, turns, standing, plays⟩
  | cons id rest ih =>
      rcases standing.turn (plays.tame complete id) with ⟨moved, later, standing⟩
      rcases plays.next complete id with ⟨fewer, plays⟩
      rw [← moved] at plays
      exact ih standing plays

/-! ## One engine after the other -/

theorem lastRunnable?_eq_some (found : run.lastRunnable? = some id) :
    ∃ thread, run.threads[id]? = some thread ∧ thread.isRunnable = true ∧
      ∀ (later : ThreadId) thread, id < later → run.threads[later]? = some thread →
        thread.isRunnable = false := by
  rcases Option.map_eq_some_iff.mp found with ⟨place, first, same⟩
  -- Engines are counted from the last one here.
  rcases List.findIdx?_eq_some_iff_getElem.mp first with ⟨inside, runnable, before⟩
  rw [List.length_reverse] at inside
  rw [List.getElem_reverse] at runnable
  subst same
  refine ⟨_, List.getElem?_eq_getElem (by omega), runnable, fun later thread after present => ?_⟩
  rcases List.getElem?_eq_some_iff.mp present with ⟨bound, rfl⟩
  have shorter : run.threads.length - 1 - later < place := by
    have after : @LT.lt Nat _ (run.threads.length - 1 - place) later := after
    omega
  have unable := before (run.threads.length - 1 - later) shorter
  rw [List.getElem_reverse] at unable
  have back : run.threads.length - 1 - (run.threads.length - 1 - later) = later := by omega
  simpa [back] using unable

theorem lastRunnable?_eq_none (found : run.lastRunnable? = none) {thread : Thread}
    (present : run.threads[id]? = some thread) : thread.isRunnable = false := by
  have none := List.findIdx?_eq_none_iff.mp (Option.map_eq_none_iff.mp found)
  exact none thread (List.mem_reverse.mpr (List.mem_of_getElem? present))

/-- An engine other than the main one is at its end if it cannot move. -/
theorem Standing.isOver_of_child (standing : run.Standing awaited) {thread : Thread}
    (present : run.threads[id]? = some thread) (later : id ≠ .initial)
    (stuck : thread.isRunnable = false) : thread.isOver = true := by
  rw [Thread.isOver_of_phase (standing.children id thread present later), stuck]
  rfl

/-- If all others are at their ends, the main engine is at its end if it cannot move. -/
theorem Standing.isOver_of_main (standing : run.Standing awaited) {thread : Thread}
    (present : run.threads[ThreadId.initial]? = some thread)
    (ended : ∀ (id : ThreadId) other, id ≠ .initial → run.threads[id]? = some other →
      other.isOver = true)
    (stuck : thread.isRunnable = false) : thread.isOver = true := by
  cases standing.main thread present with
  | ready => simpa [Thread.isRunnable, Thread.isOver] using stuck
  | crashed => rfl
  | answered => cases stuck
  | @waiting engine target foreign running asked =>
      rw [List.getElem?_map, strands_ensemble, Option.map_map] at running
      rcases Option.map_eq_some_iff.mp running with ⟨other, found, unended⟩
      rw [Function.comp, Strand.ending?_eq_none, isOver_strand, ended target other foreign found]
        at unended
      cases unended

theorem Standing.complete_of_stuck (standing : run.Standing awaited)
    (stuck : run.lastRunnable? = none) : run.isComplete = true := by
  have ended (id : ThreadId) (thread : Thread) (later : id ≠ .initial)
      (present : run.threads[id]? = some thread) : thread.isOver = true :=
    standing.isOver_of_child present later (lastRunnable?_eq_none stuck present)
  rw [isComplete, List.all_eq_true]
  intro thread member
  rcases List.getElem?_of_mem member with ⟨id, present⟩
  by_cases first : id = ThreadId.initial
  · subst first
    exact standing.isOver_of_main present ended (lastRunnable?_eq_none stuck present)
  · exact ended id thread first present

/-- An engine that can move is not at its end. -/
theorem Standing.active_of_runnable (standing : run.Standing awaited) {thread : Thread}
    (present : run.threads[id]? = some thread) (runnable : thread.isRunnable = true) :
    (run.strand id thread).isOver = false := by
  rw [isOver_strand]
  by_cases settled : thread.phase = .ready ∨ thread.phase = .crashed
  · rw [Thread.isOver_of_phase settled, runnable]
    rfl
  · cases standing.initial_of_phase present settled
    cases standing.main thread present with
    | ready => simp at settled
    | crashed => simp at settled
    | waiting => cases runnable
    | answered foreign ended told asked => exact Engine.unfinished_of_request? asked

/-- The engine that is chosen can move in the ensemble, and if it is the main engine, all
others are at their ends. -/
theorem Standing.able_of_chosen (standing : run.Standing awaited) (tame : run.ensemble.Tame id)
    (chosen : run.lastRunnable? = some id) :
    (∃ result, run.ensemble.prospect? id = some result) ∧
      (id = .initial → ∀ thread ∈ run.threads.tail, thread.isOver = true) := by
  rcases lastRunnable?_eq_some chosen with ⟨thread, present, runnable, stuck⟩
  have active := standing.active_of_runnable present runnable
  have ended (first : id = .initial) (place : ThreadId) (other : Thread) (later : place ≠ id)
      (found : run.threads[place]? = some other) : other.isOver = true := by
    subst first
    exact standing.isOver_of_child found later
      (stuck place other (Nat.pos_of_ne_zero later) found)
  constructor
  · rw [prospect?_ensemble present, if_neg (by simp [active])]
    by_cases first : id = .initial
    · refine Ensemble.outlook?_of_alone (fun place strand later listed => ?_) _
      rcases strands_ensemble_eq_some.mp listed with ⟨other, found, rfl⟩
      rw [isOver_strand]
      exact ended first place other later found
    · have listed := strands_ensemble_eq_some.mpr ⟨thread, present, rfl⟩
      rcases Ensemble.outlook?_of_calm (tame first _ listed active) with ⟨moved, same⟩
      exact ⟨_, same run.ensemble.strands id⟩
  · intro first other member
    rcases List.getElem?_of_mem member with ⟨place, found⟩
    rw [List.getElem?_tail] at found
    exact ended first (place + 1) other (first ▸ Nat.succ_ne_zero place) found

/-- The run that executes one engine after the other is a sequential one, and comes to the
same end. -/
theorem Standing.sequential (standing : run.Standing awaited)
    (plays : Ensemble.Plays last turns run.ensemble) (complete : last.IsComplete) :
    ∃ order later, run.execute turns = run.turns order ∧ run.Sequential order ∧
      (run.execute turns).Standing later ∧ (run.execute turns).ensemble = last := by
  -- The main engine never has to wait here, so each turn that is chosen is one of the play.
  induction turns generalizing run awaited with
  | zero =>
      refine ⟨[], awaited, rfl, trivial, standing, ?_⟩
      cases plays
      rfl
  | succ turns ih =>
      cases chosen : run.lastRunnable? with
      | none =>
          have still : run.execute (turns + 1) = run := by
            rw [execute, advance, advance?, chosen]
            rfl
          have atEnd := (isComplete_ensemble run).mpr (standing.complete_of_stuck chosen)
          rw [still]
          exact ⟨[], awaited, rfl, trivial, standing, plays.eq_of_complete atEnd⟩
      | some id =>
          have tame := plays.tame complete id
          rcases standing.able_of_chosen tame chosen with ⟨⟨result, able⟩, ended⟩
          rcases standing.turn tame with ⟨moved, later, standing⟩
          rcases plays.begin complete able with ⟨fewer, same, rest⟩
          cases Nat.succ.inj same
          rw [← moved] at rest
          rcases ih standing rest with ⟨order, final, followed, sequential, known, reached⟩
          have advanced : run.execute (turns + 1) = (run.turn id).execute turns := by
            have next : run.advance? .initial = some (run.turn id) := by
              rw [advance?, chosen]
              rfl
            rw [execute, advance, next]
            rfl
          rw [advanced]
          exact ⟨id :: order, final, followed, ⟨ended, sequential⟩, known, reached⟩

end Orders

/-! ## Schedules -/

theorem opening_of_seed {context : Context} {seed : UInt64}
    (seeded : context.settings.seed = some seed) (backend : Inference) (manual : Bool)
    (entropy other : UInt64) :
    opening context backend manual entropy = opening context backend manual other := by
  rw [opening, opening, Settings.faultSource, Settings.faultSource, seeded]
  rfl

/-- All orders of turns in which the engines come to their end lead to the same, if only the
main engine uses threads in one of them, and the run is reproducible.  What they lead to is
what the engines come to one after the other. -/
theorem result_of_schedule {context : Context} {seed : UInt64} {backend : Inference}
    {manual : Bool} (isolated : context.settings.isolation = .isolated)
    (seeded : context.settings.seed = some seed) (entropy other : UInt64)
    {order schedule : List ThreadId}
    (apart : (opening context backend manual entropy).onlyMainUsesThreads order = true)
    (complete : ((opening context backend manual entropy).turns order).isComplete = true)
    (finished : ((opening context backend manual other).turns schedule).isComplete = true) :
    ((opening context backend manual entropy).turns order).SameResult
        ((opening context backend manual other).turns schedule) ∧
      ∃ limit sequence,
        (opening context backend manual other).execute limit =
          (opening context backend manual other).turns sequence ∧
        (opening context backend manual other).Sequential sequence ∧
        ((opening context backend manual other).execute limit).isComplete = true ∧
        ((opening context backend manual entropy).turns order).SameResult
          ((opening context backend manual other).execute limit) := by
  rw [opening_of_seed seeded backend manual other entropy] at finished ⊢
  have standing := standing_opening isolated backend manual entropy
  have ended := (isComplete_ensemble _).mpr complete
  rcases standing.plays apart with ⟨turns, plays⟩
  rcases standing.follow plays ended order with ⟨_, _, settled, -⟩
  rcases standing.follow plays ended schedule with ⟨_, _, followed, rest⟩
  have same := rest.eq_of_complete ((isComplete_ensemble _).mpr finished)
  refine ⟨.of_ensemble settled followed same.symm ended, turns, ?_⟩
  rcases standing.sequential plays ended with
    ⟨sequence, _, executed, sequential, reached, agrees⟩
  refine ⟨sequence, executed, sequential, ?_, .of_ensemble settled reached agrees.symm ended⟩
  rw [← isComplete_ensemble, agrees]
  exact ended

/-- The main engine starts two others, with a register that it changes in between, and waits
for them, the last one first. -/
def relay : List String :=
  ["WRITE x 5", "THREAD worker", "WRITE x 7", "THREAD worker", "JOIN", "JOIN", "END",
    "LABEL worker", "READ x", "PRINT", "WRITE x 9"]

def relayProgram : Program where
  code := [⟨.ofOp .write [.register "x", .literal (.integer 5)], 1⟩,
    ⟨.ofOp .thread [.target 7], 2⟩, ⟨.ofOp .write [.register "x", .literal (.integer 7)], 3⟩,
    ⟨.ofOp .thread [.target 7], 4⟩, ⟨.ofOp .join [], 5⟩, ⟨.ofOp .join [], 6⟩,
    ⟨.ofOp .halt [], 7⟩, ⟨.ofOp .read [.register "x"], 9⟩, ⟨.ofOp .print [], 10⟩,
    ⟨.ofOp .write [.register "x", .literal (.integer 9)], 11⟩]

def relayContext : Context :=
  ⟨relayProgram, { Settings.standard with seed := some 7 }⟩

/-- Turns where the main engine waits before the others have begun. -/
def relayEarly : List ThreadId :=
  [0, 0, 0, 0, 0, 1, 2, 1, 2, 1, 2, 1, 2, 0, 0, 0, 0]

/-- Turns where the main engine waits for one engine only. -/
def relayLate : List ThreadId :=
  [0, 0, 1, 0, 0, 0, 1, 2, 1, 2, 1, 2, 2, 0, 0, 0]

/-- The reports come in different orders, and the two workers do not show the same. -/
theorem relay_schedules :
    let early := (opening relayContext .echo false 1).turns relayEarly
    let late := (opening relayContext .echo false 2).turns relayLate
    Assembly.compile .standard relay = .ok relayProgram ∧
      early.reports.map Prod.fst ≠ late.reports.map Prod.fst ∧
      early.eventsOf 1 ≠ early.eventsOf 2 ∧ early.isComplete = true ∧ late.isComplete = true ∧
      early.SameResult late := by
  have compiled : Assembly.compile .standard relay = .ok relayProgram := by decide +kernel
  have complete : ((opening relayContext .echo false 1).turns relayEarly).isComplete = true := by
    decide +kernel
  have finished : ((opening relayContext .echo false 2).turns relayLate).isComplete = true := by
    decide +kernel
  have apart : (opening relayContext .echo false 1).onlyMainUsesThreads relayEarly = true := by
    decide +kernel
  have seeded : relayContext.settings.seed = some 7 := rfl
  exact ⟨compiled, by decide +kernel, by decide +kernel, complete, finished,
    (result_of_schedule rfl seeded 1 2 apart complete finished).1⟩

end Run
end CommandMachine
