import CommandMachine.Proofs.Ensemble
import CommandMachine.Proofs.Host.SoleJoiner
import CommandMachine.Run
namespace CommandMachine

/-!
# Runs of isolated engines

If engines have stores of their own and nobody asks the run to stop, a run is an ensemble
with more detail.  A turn of the run is a turn of the ensemble: when the main engine is
parked or gets its answer, the ensemble does not change, and when it acts on the answer,
the ensemble looks up the same answer.  This holds as long as only the main engine asks
for other engines.
-/

/-- Whether there is no engine, or no longer one. -/
def Phase.isLost : Phase → Bool
  | .crashed => true
  | .refused => true
  | _ => false

def Phase.isWaiting : Phase → Bool
  | .waiting => true
  | _ => false

namespace Run

/-- The engine of a thread by itself. -/
def strand (run : Run) (id : ThreadId) (thread : Thread) : Strand where
  engine := thread.engine
  crashed := thread.phase.isLost
  events := run.eventsOf id

def ensemble (run : Run) : Ensemble where
  context := run.context
  backend := run.backend
  strands := run.threads.mapIdx run.strand

/-! ## Reports -/

section Reports

variable {run : Run} {id other : ThreadId} {reports : List Report}

theorem reports_report : (run.report id reports).reports =
    run.reports ++ reports.map fun report => (id, report) := by
  simp [Run.reports, report]

theorem eventsOf_report : (run.report id reports).eventsOf other =
    run.eventsOf other ++ if other = id then Report.events reports else [] := by
  rw [eventsOf, reports_report, List.filterMap_append, List.filterMap_map]
  congr 1
  split
  · rename_i own
    simp [own, Report.events]
  · rename_i differs
    simp [Ne.symm differs]

theorem eventsOf_report_of_quiet (quiet : Report.events reports = []) :
    (run.report id reports).eventsOf other = run.eventsOf other := by
  rw [eventsOf_report, quiet, ite_self, List.append_nil]

theorem eventsOf_of_journal {next : Run} (same : next.journal = run.journal) :
    next.eventsOf other = run.eventsOf other := by
  rw [eventsOf, eventsOf, Run.reports, Run.reports, same]

end Reports

/-! ## What the ensemble sees -/

section Ensembles

variable {run next : Run} {id other : ThreadId} {thread : Thread}

theorem strands_ensemble (run : Run) (id : ThreadId) :
    run.ensemble.strands[id]? = (run.threads[id]?).map (run.strand id) :=
  List.getElem?_mapIdx

theorem strands_ensemble_eq_some {strand : Strand} :
    run.ensemble.strands[id]? = some strand ↔
      ∃ thread, run.threads[id]? = some thread ∧ run.strand id thread = strand := by
  rw [strands_ensemble, Option.map_eq_some_iff]

theorem length_ensemble (run : Run) : run.ensemble.strands.length = run.threads.length :=
  List.length_mapIdx

theorem ensemble_congr (context : next.context = run.context) (backend : next.backend = run.backend)
    (strands : ∀ id, (next.threads[id]?).map (next.strand id) =
      (run.threads[id]?).map (run.strand id)) : next.ensemble = run.ensemble := by
  have same : next.ensemble.strands = run.ensemble.strands := by
    apply List.ext_getElem?
    intro id
    rw [strands_ensemble, strands_ensemble, strands]
  unfold ensemble at same ⊢
  rw [context, backend]
  exact congrArg _ same

/-- One engine is replaced, after it may have shown something. -/
theorem ensemble_replaced {after : Thread} {events : List Event}
    (present : run.threads[id]? = some thread)
    (context : next.context = run.context) (backend : next.backend = run.backend)
    (threads : next.threads = run.threads.set id after)
    (shown : ∀ other, next.eventsOf other =
      run.eventsOf other ++ if other = id then events else []) :
    next.ensemble = run.ensemble.put id
      ⟨after.engine, after.phase.isLost, run.eventsOf id ++ events⟩ := by
  have inside := (List.getElem?_eq_some_iff.mp present).1
  have same : next.ensemble.strands = run.ensemble.strands.set id
      ⟨after.engine, after.phase.isLost, run.eventsOf id ++ events⟩ := by
    apply List.ext_getElem?
    intro other
    rw [strands_ensemble, threads]
    by_cases own : other = id
    · subst own
      rw [List.getElem?_set_self inside, List.getElem?_set_self (by rwa [length_ensemble]),
        Option.map_some, strand, shown, if_pos rfl]
    · rw [List.getElem?_set_ne (Ne.symm own), List.getElem?_set_ne (Ne.symm own),
        strands_ensemble]
      cases run.threads[other]? with
      | none => rfl
      | some unchanged => rw [Option.map_some, Option.map_some, strand, strand, shown, if_neg own,
          List.append_nil]
  unfold ensemble at same ⊢
  rw [context, backend]
  exact congrArg _ same

theorem view_of_isolated (isolated : run.context.settings.isolation = .isolated) (engine : Engine) :
    run.view engine = engine := by
  simp only [view, isolated]

end Ensembles

end Run

/-! ## What always holds -/

/-- What is known of the main engine of a run, where the others have ended as given and the
main engine waits for the given thread. -/
inductive Thread.Fits (context : Context) (endings : List (Option Ending)) :
    Option ThreadId → Thread → Prop where
  | ready {engine : Engine} : Fits context endings none ⟨engine, .ready⟩
  | crashed {engine : Engine} : Fits context endings none ⟨engine, .crashed⟩
  | waiting {engine : Engine} {target : ThreadId} (foreign : target ≠ .initial)
      (running : endings[target]? = some none)
      (asked : engine.request? context false = some (.join target)) :
      Fits context endings (some target) ⟨engine, .waiting⟩
  | answered {engine : Engine} {target : ThreadId} {ending : Ending} {reply : JoinReply}
      (foreign : target ≠ .initial) (ended : endings[target]? = some (some ending))
      (told : reply.result = .ok ending.outcome)
      (asked : engine.request? context false = some (.join target)) :
      Fits context endings none ⟨engine, .answered reply⟩

namespace Thread.Fits

variable {context : Context} {endings : List (Option Ending)} {awaited : Option ThreadId}
  {thread : Thread} {id : ThreadId} {ending : Ending}

/-- A thread ends that the main engine does not wait for. -/
theorem set (fits : thread.Fits context endings awaited)
    (running : endings[id]? = some none) (foreign : awaited ≠ some id) :
    thread.Fits context (endings.set id (some ending)) awaited := by
  cases fits with
  | ready => exact .ready
  | crashed => exact .crashed
  | waiting differs unfinished asked =>
      refine .waiting differs ?_ asked
      rw [List.getElem?_set_ne fun same => foreign (congrArg some same.symm)]
      exact unfinished
  | answered differs ended told asked =>
      refine .answered differs ?_ told asked
      rw [List.getElem?_set_ne]
      · exact ended
      · rintro rfl
        simp [running] at ended

/-- A thread is started. -/
theorem append (fits : thread.Fits context endings awaited) :
    thread.Fits context (endings ++ [none]) awaited := by
  have kept {target : ThreadId} {known : Option Ending} (found : endings[target]? = some known) :
      (endings ++ [none])[target]? = some known := by
    rw [List.getElem?_append_left (List.getElem?_eq_some_iff.mp found).1]
    exact found
  cases fits with
  | ready => exact .ready
  | crashed => exact .crashed
  | waiting differs unfinished asked => exact .waiting differs (kept unfinished) asked
  | answered differs ended told asked => exact .answered differs (kept ended) told asked

end Thread.Fits

namespace Run

/-- The supervisor knows of the given endings, and only the main engine may have waited. -/
structure Prepared (run : Run) (endings : List (Option Ending)) (awaited : Option ThreadId) :
    Prop where
  isolated : run.context.settings.isolation = .isolated
  plan : run.plan = .never
  stop : run.stop.isRequested = false
  granted : run.refusal = none
  silent : ∀ id, run.threads.length ≤ id → run.eventsOf id = []
  children : ∀ (id : ThreadId) (thread : Thread), run.threads[id]? = some thread →
    id ≠ .initial → thread.phase = .ready ∨ thread.phase = .crashed
  main : ∀ thread, run.threads[ThreadId.initial]? = some thread →
    thread.Fits run.context endings awaited
  attends : run.supervisor.Attends endings awaited

/-- The supervisor knows of all endings. -/
def Standing (run : Run) (awaited : Option ThreadId) : Prop :=
  run.Prepared (run.ensemble.strands.map Strand.ending?) awaited

section Turns

variable {run : Run} {id target : ThreadId} {thread : Thread} {endings : List (Option Ending)}
  {awaited : Option ThreadId} {ending : Ending}

theorem answer_nil (run : Run) : run.answer [] = run := by
  have same : run.threads.mapIdx (fun _ thread => thread) = run.threads := by
    apply List.ext_getElem?
    intro id
    rw [List.getElem?_mapIdx, Option.map_id']
  exact congrArg (fun threads => { run with threads }) same

theorem threads_answer_main (run : Run) (reply : JoinReply) (id : ThreadId) :
    (run.answer [(.initial, reply)]).threads[id]? = (run.threads[id]?).map fun thread =>
      if id = .initial then { thread with phase := .answered reply } else thread := by
  change (run.threads.mapIdx _)[id]? = _
  rw [List.getElem?_mapIdx]
  congr 1
  funext thread
  rw [Host.lookup_entry]
  by_cases main : id = .initial
  · rw [if_pos main, if_pos main]
  · rw [if_neg main, if_neg main]
    rfl

/-- The end of an engine that nobody waits for is made known to the supervisor. -/
theorem Prepared.conclude_alone (prepared : run.Prepared endings awaited)
    (running : endings[id]? = some none) (alone : awaited ≠ some id)
    (noted : run.ensemble.strands.map Strand.ending? = endings.set id (some ending)) :
    (run.conclude id ending).ensemble = run.ensemble ∧
      (run.conclude id ending).Standing awaited := by
  rcases prepared.attends.finish_alone ending running alone with ⟨next, finished, attends⟩
  have concluded : run.conclude id ending = { run with supervisor := next } := by
    rw [Run.conclude, finished]
    exact answer_nil _
  rw [concluded]
  refine ⟨rfl, prepared.isolated, prepared.plan, prepared.stop, prepared.granted,
    prepared.silent, prepared.children, fun thread present => ?_, ?_⟩
  · exact noted.symm ▸ (prepared.main thread present).set running alone
  · exact noted.symm ▸ attends

/-- The ensemble does not notice that an engine that was parked gets its answer. -/
theorem ensemble_answer_main (waits : ∀ thread, run.threads[ThreadId.initial]? = some thread →
    thread.phase = .waiting) (reply : JoinReply) :
    (run.answer [(.initial, reply)]).ensemble = run.ensemble := by
  refine ensemble_congr rfl rfl fun other => ?_
  have events : (run.answer [(.initial, reply)]).eventsOf other = run.eventsOf other :=
    eventsOf_of_journal rfl
  rw [threads_answer_main, Option.map_map]
  cases present : run.threads[other]? with
  | none => rfl
  | some thread =>
      by_cases main : other = .initial
      · subst main
        simp [strand, events, waits thread present, Phase.isLost]
      · simp [strand, events, main]

/-- The end of the thread that the main engine waits for is made known to the supervisor, and
the main engine gets its answer. -/
theorem Prepared.conclude_awaited (prepared : run.Prepared endings (some id))
    (running : endings[id]? = some none)
    (noted : run.ensemble.strands.map Strand.ending? = endings.set id (some ending)) :
    (run.conclude id ending).ensemble = run.ensemble ∧
      (run.conclude id ending).Standing none := by
  rcases prepared.attends.finish_awaited ending running with ⟨next, reply, finished, told, attends⟩
  have concluded : run.conclude id ending =
      { run with supervisor := next }.answer [(.initial, reply)] := by
    rw [Run.conclude, finished]
  have waits (thread : Thread) (present : run.threads[ThreadId.initial]? = some thread) :
      thread.phase = .waiting := by
    cases prepared.main thread present with
    | waiting foreign unfinished asked => rfl
  have unseen : (run.conclude id ending).ensemble = run.ensemble := by
    rw [concluded]
    exact ensemble_answer_main waits reply
  refine ⟨unseen, ?_⟩
  rw [Standing, unseen, noted, concluded]
  refine ⟨prepared.isolated, prepared.plan, prepared.stop, prepared.granted,
    fun other outside => ?_, fun other thread present later => ?_, fun thread present => ?_,
    attends⟩
  · refine prepared.silent other ?_
    exact Nat.le_trans (Nat.le_of_eq (List.length_mapIdx).symm) outside
  · rw [threads_answer_main] at present
    rcases Option.map_eq_some_iff.mp present with ⟨before, found, same⟩
    rw [if_neg later] at same
    exact same ▸ prepared.children other before found later
  · rw [threads_answer_main] at present
    rcases Option.map_eq_some_iff.mp present with ⟨before, found, same⟩
    rw [if_pos rfl] at same
    subst same
    have inside := (List.getElem?_eq_some_iff.mp running).1
    cases prepared.main before found with
    | waiting foreign unfinished asked =>
        exact .answered foreign (List.getElem?_set_self inside) told asked

/-- The end of an engine is made known to the supervisor. -/
theorem Prepared.conclude (prepared : run.Prepared endings awaited)
    (running : endings[id]? = some none)
    (noted : run.ensemble.strands.map Strand.ending? = endings.set id (some ending)) :
    (run.conclude id ending).ensemble = run.ensemble ∧
      ∃ later, (run.conclude id ending).Standing later := by
  by_cases waits : awaited = some id
  · subst waits
    rcases prepared.conclude_awaited running noted with ⟨unseen, standing⟩
    exact ⟨unseen, none, standing⟩
  · rcases prepared.conclude_alone running waits noted with ⟨unseen, standing⟩
    exact ⟨unseen, awaited, standing⟩

/-- One engine is replaced that has not ended, and the supervisor does not know yet. -/
theorem Prepared.replace (prepared : run.Prepared endings awaited) {next : Run} {after : Thread}
    {events : List Event} (present : run.threads[id]? = some thread)
    (context : next.context = run.context) (plan : next.plan = run.plan)
    (stop : next.stop = run.stop) (refusal : next.refusal = run.refusal)
    (supervisor : next.supervisor = run.supervisor)
    (threads : next.threads = run.threads.set id after)
    (shown : ∀ other, next.eventsOf other =
      run.eventsOf other ++ if other = id then events else [])
    (child : id ≠ .initial → after.phase = .ready ∨ after.phase = .crashed)
    (main : id = .initial → after.Fits run.context endings awaited) :
    next.Prepared endings awaited := by
  have inside := (List.getElem?_eq_some_iff.mp present).1
  refine ⟨context ▸ prepared.isolated, plan.trans prepared.plan, stop ▸ prepared.stop,
    refusal.trans prepared.granted, fun other outside => ?_, fun other found listed later => ?_,
    fun found listed => ?_, supervisor ▸ prepared.attends⟩
  · rw [threads, List.length_set] at outside
    have differs : other ≠ id := fun own => Nat.not_lt.mpr outside (own ▸ inside)
    rw [shown, if_neg differs, List.append_nil]
    exact prepared.silent other outside
  · rw [threads] at listed
    by_cases own : id = other
    · subst own
      rw [List.getElem?_set_self inside] at listed
      cases listed
      exact child later
    · rw [List.getElem?_set_ne own] at listed
      exact prepared.children other found listed later
  · rw [threads] at listed
    rw [context]
    by_cases own : id = .initial
    · subst own
      rw [List.getElem?_set_self inside] at listed
      cases listed
      exact main rfl
    · rw [List.getElem?_set_ne own] at listed
      exact prepared.main found listed

theorem running_of_active (present : run.threads[id]? = some thread)
    (active : (run.strand id thread).isOver = false) :
    (run.ensemble.strands.map Strand.ending?)[id]? = some none := by
  rw [List.getElem?_map, strands_ensemble, present, Option.map_some, Option.map_some,
    Strand.ending?_eq_none.mpr active]

/-- A report without events is not noticed. -/
theorem ensemble_report (id : ThreadId) {reports : List Report}
    (quiet : Report.events reports = []) :
    (run.report id reports).ensemble = run.ensemble := by
  refine ensemble_congr rfl rfl fun other => ?_
  have same : (run.report id reports).strand other = run.strand other := by
    funext thread
    rw [strand, strand, eventsOf_report_of_quiet quiet]
  rw [same]
  rfl

theorem Prepared.report (prepared : run.Prepared endings awaited) (id : ThreadId)
    {reports : List Report} (quiet : Report.events reports = []) :
    (run.report id reports).Prepared endings awaited := by
  refine ⟨prepared.isolated, prepared.plan, prepared.stop, prepared.granted,
    fun other outside => ?_, prepared.children, prepared.main, prepared.attends⟩
  rw [eventsOf_report_of_quiet quiet]
  exact prepared.silent other outside

/-- The run after the step of an engine, before the end of the engine is made known. -/
def stepped (run : Run) (id : ThreadId) (engine : Engine) (surroundings : Surroundings) : Run :=
  let (moved, reports) := engine.step run.context surroundings
  (run.report id reports).setEngine id moved

theorem commit_of_unplanned (plan : run.plan = .never) (engine : Engine)
    (surroundings : Surroundings) :
    let moved := (engine.step run.context surroundings).1
    let next := run.stepped id engine surroundings
    run.commit id engine surroundings =
      if moved.status.isFinal then
        (next.report id (next.farewell id moved)).conclude id (.returned moved.outcome)
      else next := by
  have unplanned : (run.stepped id engine surroundings).applyPlan =
      run.stepped id engine surroundings := by
    have never : (run.stepped id engine surroundings).plan = .never := plan
    rw [applyPlan, never]
  dsimp only
  rw [← unplanned]
  rfl

theorem ensemble_stepped (present : run.threads[id]? = some thread)
    (whole : thread.phase.isLost = false) (surroundings : Surroundings) :
    (run.stepped id thread.engine surroundings).ensemble = run.ensemble.put id
      ((run.strand id thread).step run.context surroundings) := by
  have replaced : (run.stepped id thread.engine surroundings).ensemble = _ :=
    ensemble_replaced present rfl rfl rfl fun other => eventsOf_report
  have same : (run.strand id thread).step run.context surroundings =
      ⟨(thread.engine.step run.context surroundings).1, false,
        run.eventsOf id ++ Report.events (thread.engine.step run.context surroundings).2⟩ := by
    rw [← whole]
    rfl
  rw [same]
  exact replaced

theorem events_farewell (run : Run) (id : ThreadId) (engine : Engine) :
    Report.events (run.farewell id engine) = [] := by
  unfold farewell
  split <;> rfl

/-- One step of an engine in the run is the same step in the ensemble. -/
theorem Standing.commit (standing : run.Standing awaited)
    (present : run.threads[id]? = some thread) (active : (run.strand id thread).isOver = false)
    (main : id = .initial → awaited = none) {surroundings reference : Surroundings}
    (agree : surroundings.Agree reference
      (thread.engine.request? run.context surroundings.stopRequested)) :
    (run.commit id thread.engine surroundings).ensemble =
        run.ensemble.put id ((run.strand id thread).step run.context reference) ∧
      ∃ later, (run.commit id thread.engine surroundings).Standing later := by
  rcases Bool.or_eq_false_iff.mp active with ⟨whole, unfinished⟩
  have alike : (run.strand id thread).step run.context surroundings =
      (run.strand id thread).step run.context reference :=
    Strand.step_agree agree
  have running := running_of_active present active
  have prepared : (run.stepped id thread.engine surroundings).Prepared
      (run.ensemble.strands.map Strand.ending?) awaited := by
    refine standing.replace present rfl rfl rfl rfl rfl rfl (fun other => eventsOf_report)
      (fun _ => Or.inl rfl) fun own => ?_
    rw [main own]
    exact .ready
  have seen := ensemble_stepped present whole surroundings
  have endings : (run.stepped id thread.engine surroundings).ensemble.strands.map Strand.ending? =
      (run.ensemble.strands.map Strand.ending?).set id
        ((run.strand id thread).step run.context surroundings).ending? := by
    rw [seen, Ensemble.put, List.map_set]
  -- The supervisor knows of all endings but that of the engine that has just moved.
  rw [← alike, ← seen, commit_of_unplanned standing.plan]
  have intact : ((run.strand id thread).step run.context surroundings).crashed = false := whole
  split
  · rename_i final
    have quiet := events_farewell (run.stepped id thread.engine surroundings) id
      (thread.engine.step run.context surroundings).1
    have ended : ((run.strand id thread).step run.context surroundings).ending? =
        some (.returned (thread.engine.step run.context surroundings).1.outcome) := by
      rw [Strand.ending?, intact]
      exact if_pos final
    have noted := endings
    rw [ended, ← ensemble_report id quiet] at noted
    have concluded := (prepared.report id quiet).conclude running noted
    rw [ensemble_report id quiet] at concluded
    exact concluded
  · rename_i ongoing
    refine ⟨rfl, awaited, ?_⟩
    have unended : ((run.strand id thread).step run.context surroundings).ending? = none := by
      rw [Strand.ending?, intact]
      exact if_neg ongoing
    rcases List.getElem?_eq_some_iff.mp running with ⟨inside, same⟩
    rw [Standing, endings, unended, ← same, List.set_getElem_self inside]
    exact prepared

/-- An engine breaks down in the run as it does in the ensemble. -/
theorem Standing.crash (standing : run.Standing awaited)
    (present : run.threads[id]? = some thread) (active : (run.strand id thread).isOver = false)
    (main : id = .initial → awaited = none) (reports : List Report) :
    (run.crash id thread reports).ensemble =
        run.ensemble.put id ((run.strand id thread).breakDown reports) ∧
      ∃ later, (run.crash id thread reports).Standing later := by
  let next := (run.report id reports).setThread id { thread with phase := .crashed }
  have unplanned : (run.report id reports).applyPlan = run.report id reports := by
    have never : (run.report id reports).plan = .never := standing.plan
    rw [applyPlan, never]
  have prepared : next.Prepared (run.ensemble.strands.map Strand.ending?) awaited := by
    refine standing.replace present rfl rfl rfl rfl rfl rfl (fun other => eventsOf_report)
      (fun _ => Or.inr rfl) fun own => ?_
    rw [main own]
    exact .crashed
  have replaced : next.ensemble = _ :=
    ensemble_replaced present rfl rfl rfl fun other => eventsOf_report
  have seen : next.ensemble =
      run.ensemble.put id ((run.strand id thread).breakDown reports) := replaced
  have noted : next.ensemble.strands.map Strand.ending? =
      (run.ensemble.strands.map Strand.ending?).set id (some .crashed) := by
    rw [seen, Ensemble.put, List.map_set]
    rfl
  unfold Run.crash
  rw [unplanned, ← seen]
  exact prepared.conclude (running_of_active present active) noted

theorem Standing.inhabited (standing : run.Standing awaited) :
    ThreadId.initial < run.threads.length := by
  rw [← length_ensemble, ← List.length_map Strand.ending?]
  exact standing.attends.inhabited

theorem Standing.nextThread (standing : run.Standing awaited) :
    run.supervisor.nextThread = run.ensemble.strands.length := by
  refine standing.attends.nextId.trans ?_
  rw [List.length_map]

theorem eventsOf_startChild (run : Run) (engine : Engine) (entry : Nat) (other : ThreadId) :
    (run.startChild engine entry).eventsOf other = run.eventsOf other := by
  unfold startChild
  dsimp only
  split
  · exact eventsOf_report_of_quiet rfl
  · rfl

theorem context_startChild (run : Run) (engine : Engine) (entry : Nat) :
    (run.startChild engine entry).context = run.context := by
  unfold startChild
  dsimp only
  split <;> rfl

theorem startChild_of_granted (granted : run.refusal = none) (engine : Engine) (entry : Nat) :
    run.startChild engine entry = Run.report
      { run with
        supervisor := run.supervisor.spawn
        threads := run.threads ++ [⟨engine.child run.context.settings
          run.supervisor.nextThread entry, .ready⟩] }
      run.supervisor.nextThread [.notice (.started run.supervisor.nextThread entry)] := by
  rw [startChild, granted]

theorem Standing.threads_startChild (standing : run.Standing awaited) (engine : Engine)
    (entry : Nat) : (run.startChild engine entry).threads = run.threads ++
      [⟨engine.child run.context.settings run.ensemble.strands.length entry, .ready⟩] := by
  rw [← standing.nextThread, startChild_of_granted standing.granted]
  rfl

/-- A new engine takes its place in the ensemble. -/
theorem Standing.ensemble_startChild (standing : run.Standing awaited) (engine : Engine)
    (entry : Nat) : (run.startChild engine entry).ensemble = run.ensemble.start
      [.fresh (engine.child run.context.settings run.ensemble.strands.length entry)] := by
  have strands : (run.startChild engine entry).strand = run.strand := by
    funext other thread
    rw [strand, strand, eventsOf_startChild]
  -- Nothing has been shown under a number that is not in use yet.
  have unheard : run.eventsOf (0 + run.threads.length) = [] :=
    standing.silent _ (Nat.le_add_left _ 0)
  have same : (run.startChild engine entry).ensemble.strands = run.ensemble.strands ++
      [.fresh (engine.child run.context.settings run.ensemble.strands.length entry)] := by
    change (run.startChild engine entry).threads.mapIdx _ = _
    rw [standing.threads_startChild, List.mapIdx_append, strands, List.mapIdx_cons,
      List.mapIdx_nil, strand, unheard]
    rfl
  rw [startChild_of_granted standing.granted] at same ⊢
  exact congrArg (Ensemble.mk run.context run.backend) same

/-- A new engine takes its place in the run, and the supervisor knows of it. -/
theorem Standing.startChild (standing : run.Standing none) (engine : Engine) (entry : Nat) :
    (run.startChild engine entry).Standing none := by
  have threads := standing.threads_startChild engine entry
  have events (other : ThreadId) := eventsOf_startChild run engine entry other
  rw [Standing, standing.ensemble_startChild, Ensemble.start, List.map_append]
  rw [startChild_of_granted standing.granted] at threads events ⊢
  refine ⟨standing.isolated, standing.plan, standing.stop, standing.granted,
    fun other outside => ?_, fun other found listed later => ?_, fun found listed => ?_,
    standing.attends.spawn⟩
  · rw [threads, List.length_append] at outside
    rw [events]
    exact standing.silent other (Nat.le_trans (Nat.le_add_right _ _) outside)
  · rw [threads, List.getElem?_append] at listed
    split at listed
    · exact standing.children other found listed later
    · rw [List.mem_singleton.mp (List.mem_of_getElem? listed)]
      exact Or.inl rfl
  · rw [threads, List.getElem?_append_left standing.inhabited] at listed
    exact (standing.main found listed).append

/-! ## Turns -/

theorem prospect?_ensemble (present : run.threads[id]? = some thread) :
    run.ensemble.prospect? id =
      if (run.strand id thread).isOver then none
      else run.ensemble.outlook? id (run.strand id thread) := by
  rw [Ensemble.prospect?, strands_ensemble, present]
  rfl

/-- A step that the ensemble foresees. -/
theorem Standing.commit_turn (standing : run.Standing awaited)
    (present : run.threads[id]? = some thread) (active : (run.strand id thread).isOver = false)
    (main : id = .initial → awaited = none) {surroundings reference : Surroundings}
    (agree : surroundings.Agree reference
      (thread.engine.request? run.context surroundings.stopRequested))
    (foreseen : run.ensemble.outlook? id (run.strand id thread) =
      some ((run.strand id thread).step run.context reference, [])) :
    (run.commit id thread.engine surroundings).ensemble = run.ensemble.turn id ∧
      ∃ later, (run.commit id thread.engine surroundings).Standing later := by
  have able : run.ensemble.prospect? id =
      some ((run.strand id thread).step run.context reference, []) := by
    rw [prospect?_ensemble present, if_neg (by simp [active]), foreseen]
  rw [Ensemble.turn_of_some able, Ensemble.start_nil]
  exact standing.commit present active main agree

/-- A breakdown that the ensemble foresees. -/
theorem Standing.crash_turn (standing : run.Standing awaited)
    (present : run.threads[id]? = some thread) (active : (run.strand id thread).isOver = false)
    (main : id = .initial → awaited = none) {reports : List Report}
    (foreseen : run.ensemble.outlook? id (run.strand id thread) =
      some ((run.strand id thread).breakDown reports, [])) :
    (run.crash id thread reports).ensemble = run.ensemble.turn id ∧
      ∃ later, (run.crash id thread reports).Standing later := by
  have able : run.ensemble.prospect? id =
      some ((run.strand id thread).breakDown reports, []) := by
    rw [prospect?_ensemble present, if_neg (by simp [active]), foreseen]
  rw [Ensemble.turn_of_some able, Ensemble.start_nil]
  exact standing.crash present active main reports

theorem Standing.awaited_of_main (standing : run.Standing awaited)
    (present : run.threads[id]? = some thread) (moving : thread.phase.isWaiting = false) :
    id = .initial → awaited = none := by
  rintro rfl
  cases standing.main thread present with
  | ready => rfl
  | crashed => rfl
  | waiting foreign unfinished asked => cases moving
  | answered foreign ended told asked => rfl

theorem reply?_ensemble (foreign : target ≠ .initial) (running :
    (run.ensemble.strands.map Strand.ending?)[target]? = some none) :
    run.ensemble.reply? .initial target = none := by
  rw [List.getElem?_map] at running
  rcases Option.map_eq_some_iff.mp running with ⟨strand, present, unended⟩
  rw [Ensemble.reply?, if_neg foreign.symm, if_neg foreign, present]
  simp [unended]

theorem reply?_ensemble_of_ended (foreign : target ≠ .initial) (ended :
    (run.ensemble.strands.map Strand.ending?)[target]? = some (some ending)) :
    run.ensemble.reply? .initial target = some (.ok ending.outcome) := by
  rw [List.getElem?_map] at ended
  rcases Option.map_eq_some_iff.mp ended with ⟨strand, present, atEnd⟩
  rw [Ensemble.reply?, if_neg foreign.symm, if_neg foreign, present]
  simp [atEnd]

/-- The answer that the main engine has got is the one that the ensemble looks up. -/
theorem Standing.answered (standing : run.Standing none)
    (present : run.threads[ThreadId.initial]? = some thread)
    (active : (run.strand .initial thread).isOver = false)
    (asked : thread.engine.request? run.context false = some (.join target))
    {surroundings : Surroundings} (stop : surroundings.stopRequested = false)
    (told : run.ensemble.reply? .initial target = some (surroundings.join target).result) :
    (run.commit .initial thread.engine surroundings).ensemble = run.ensemble.turn .initial ∧
      ∃ later, (run.commit .initial thread.engine surroundings).Standing later := by
  have agree : surroundings.Agree
      { Surroundings.alone fun _ => .unset with
        join := fun _ => ⟨[], (surroundings.join target).result⟩ }
      (thread.engine.request? run.context surroundings.stopRequested) := by
    rw [stop, asked]
    refine ⟨stop, nofun, nofun, fun other same => ?_⟩
    cases same
    rfl
  refine standing.commit_turn present active (fun _ => rfl) agree ?_
  have foreseen : run.ensemble.outlook? .initial (run.strand .initial thread) = _ :=
    Ensemble.outlook?_of_join asked
  rw [foreseen, told]
  rfl

/-- The main engine is parked. -/
theorem Standing.park (standing : run.Standing none)
    (present : run.threads[ThreadId.initial]? = some thread) (ready : thread.phase = .ready)
    (asked : thread.engine.request? run.context false = some (.join target))
    (foreign : target ≠ .initial)
    (running : (run.ensemble.strands.map Strand.ending?)[target]? = some none)
    {next : Supervisor} (attends : next.Attends (run.ensemble.strands.map Strand.ending?)
      (some target)) :
    let parked := Run.setThread { run with supervisor := next } .initial
      { thread with phase := .waiting }
    parked.ensemble = run.ensemble ∧ parked.Standing (some target) := by
  intro parked
  have inside := (List.getElem?_eq_some_iff.mp present).1
  have threads (other : ThreadId) : parked.threads[other]? =
      if other = .initial then some { thread with phase := .waiting } else run.threads[other]? := by
    change (run.threads.set _ _)[other]? = _
    by_cases own : other = .initial
    · rw [own, List.getElem?_set_self inside, if_pos rfl]
    · rw [List.getElem?_set_ne (Ne.symm own), if_neg own]
  have seen : parked.ensemble = run.ensemble := by
    refine ensemble_congr rfl rfl fun other => ?_
    rw [threads]
    split
    · rename_i own
      rw [own, present, Option.map_some, Option.map_some, strand, strand, ready]
      rfl
    · rfl
  refine ⟨seen, ?_⟩
  rw [Standing, seen]
  refine ⟨standing.isolated, standing.plan, standing.stop, standing.granted,
    fun other outside => ?_, fun other found listed later => ?_, fun found listed => ?_,
    attends⟩
  · refine standing.silent other ?_
    exact Nat.le_trans (Nat.le_of_eq List.length_set.symm) outside
  · rw [threads, if_neg later] at listed
    exact standing.children other found listed later
  · rw [threads, if_pos rfl] at listed
    cases listed
    exact .waiting foreign running asked

/-- The main engine wants to wait. -/
theorem Standing.turnJoin (standing : run.Standing none)
    (present : run.threads[ThreadId.initial]? = some thread) (ready : thread.phase = .ready)
    (active : (run.strand .initial thread).isOver = false)
    (asked : thread.engine.request? run.context false = some (.join target)) :
    (run.turnReady .initial thread).ensemble = run.ensemble.turn .initial ∧
      ∃ later, (run.turnReady .initial thread).Standing later := by
  have joined := standing.attends.join target
  have kept {next : Supervisor} (attends : next.Attends
      (run.ensemble.strands.map Strand.ending?) none) :
      Run.Standing { run with supervisor := next } none :=
    ⟨standing.isolated, standing.plan, standing.stop, standing.granted, standing.silent,
      standing.children, standing.main, attends⟩
  unfold Run.turnReady
  rw [view_of_isolated standing.isolated, standing.stop]
  dsimp only
  rw [asked]
  dsimp only
  generalize run.supervisor.join .initial target = result at joined ⊢
  cases joined with
  | itself own attends =>
      have told : run.ensemble.reply? .initial target = some (.error (.selfJoin target)) := by
        rw [Ensemble.reply?, if_pos own.symm]
      exact (kept attends).answered present active asked standing.stop told
  | unknown foreign missing attends =>
      have told : run.ensemble.reply? .initial target =
          some (.error (.unknownThread (Int64.ofNat target))) := by
        rw [List.getElem?_map, Option.map_eq_none_iff] at missing
        rw [Ensemble.reply?, if_neg foreign.symm, if_neg foreign, missing]
      exact (kept attends).answered present active asked standing.stop told
  | ended foreign ended attends =>
      exact (kept attends).answered present active asked standing.stop
        (reply?_ensemble_of_ended foreign ended)
  | waits foreign running attends =>
      rcases standing.park present ready asked foreign running attends with ⟨seen, parked⟩
      have still : run.ensemble.prospect? .initial = none := by
        rw [prospect?_ensemble present, if_neg (by simp [active])]
        refine (Ensemble.outlook?_of_join asked).trans ?_
        rw [reply?_ensemble foreign running]
        rfl
      rw [Ensemble.turn_of_none still]
      exact ⟨seen, some target, parked⟩

/-- The main engine starts another one. -/
theorem Standing.turnSpawn (standing : run.Standing none)
    (present : run.threads[id]? = some thread) (active : (run.strand id thread).isOver = false)
    {entry : Nat} (asked : thread.engine.request? run.context false = some (.spawn entry)) :
    (run.turnReady id thread).ensemble = run.ensemble.turn id ∧
      ∃ later, (run.turnReady id thread).Standing later := by
  have seen := standing.ensemble_startChild thread.engine entry
  have started := standing.startChild thread.engine entry
  have inside := (List.getElem?_eq_some_iff.mp present).1
  have listed : (run.startChild thread.engine entry).threads[id]? = some thread := by
    rw [standing.threads_startChild, List.getElem?_append_left inside, present]
  have same : (run.startChild thread.engine entry).strand id thread = run.strand id thread := by
    rw [strand, strand, eventsOf_startChild]
  have number : run.surroundings.spawn = .ok run.ensemble.strands.length := by
    simp only [surroundings, standing.granted, standing.nextThread]
  have agree : run.surroundings.Agree
      { Surroundings.alone fun _ => .unset with spawn := .ok run.ensemble.strands.length }
      (thread.engine.request? (run.startChild thread.engine entry).context
        run.surroundings.stopRequested) := by
    rw [context_startChild, show run.surroundings.stopRequested = false from standing.stop, asked]
    exact ⟨standing.stop, nofun, fun _ _ => number, nofun⟩
  have able : run.ensemble.prospect? id = _ :=
    (prospect?_ensemble present).trans ((if_neg (by simp [active])).trans
      (Ensemble.outlook?_of_spawn asked))
  rw [Ensemble.turn_of_some able]
  unfold Run.turnReady
  rw [view_of_isolated standing.isolated, standing.stop]
  dsimp only
  rw [asked]
  have moved := started.commit listed (same ▸ active) (fun _ => rfl) agree
  rw [seen, same, context_startChild] at moved
  exact moved

/-- A turn of an engine that is executing. -/
theorem Standing.turnReady (standing : run.Standing awaited) (tame : run.ensemble.Tame id)
    (present : run.threads[id]? = some thread) (ready : thread.phase = .ready)
    (active : (run.strand id thread).isOver = false)
    (borne : thread.engine.breakdown? run.context false = none) :
    (run.turnReady id thread).ensemble = run.ensemble.turn id ∧
      ∃ later, (run.turnReady id thread).Standing later := by
  have main : id = .initial → awaited = none :=
    standing.awaited_of_main present (by rw [ready]; rfl)
  have calm (later : id ≠ .initial) : (run.strand id thread).Calm run.context :=
    tame later _ (strands_ensemble_eq_some.mpr ⟨thread, present, rfl⟩) active
  cases asked : thread.engine.request? run.context false with
  | none =>
      have silent : run.surroundings.Agree (.alone fun _ => .unset)
          (thread.engine.request? run.context run.surroundings.stopRequested) := by
        rw [show run.surroundings.stopRequested = false from standing.stop, asked]
        exact ⟨standing.stop, nofun, nofun, nofun⟩
      unfold Run.turnReady
      rw [view_of_isolated standing.isolated, standing.stop]
      dsimp only
      rw [asked]
      exact standing.commit_turn present active main silent
        (Ensemble.outlook?_of_none borne asked)
  | some request =>
      cases request with
      | infer payload =>
          have foreseen : run.ensemble.outlook? id (run.strand id thread) = _ :=
            Ensemble.outlook?_of_infer asked
          unfold Run.turnReady
          rw [view_of_isolated standing.isolated, standing.stop]
          dsimp only
          rw [asked]
          dsimp only
          cases answered : run.backend payload with
          | none =>
              have silent : run.ensemble.backend payload = none := answered
              rw [silent] at foreseen
              exact standing.crash_turn present active main foreseen
          | some value =>
              have known : run.ensemble.backend payload = some value := answered
              have kept : Run.Standing { run with inferences := run.inferences + 1 } awaited :=
                ⟨standing.isolated, standing.plan, standing.stop, standing.granted,
                  standing.silent, standing.children, standing.main, standing.attends⟩
              have agree : Surroundings.Agree { run.surroundings with infer := fun _ => value }
                  (.alone fun _ => value)
                  (thread.engine.request? run.context run.surroundings.stopRequested) := by
                rw [show run.surroundings.stopRequested = false from standing.stop, asked]
                exact ⟨standing.stop, fun _ _ => rfl, nofun, nofun⟩
              rw [known] at foreseen
              exact kept.commit_turn present active main agree foreseen
      | spawn entry =>
          by_cases first : id = .initial
          · cases main first
            exact standing.turnSpawn present active asked
          · exact absurd asked ((calm first).1 entry)
      | join target =>
          by_cases first : id = .initial
          · cases main first
            subst first
            exact standing.turnJoin present ready active asked
          · exact absurd asked ((calm first).2 target)

theorem isOver_strand (run : Run) (id : ThreadId) (thread : Thread) :
    (run.strand id thread).isOver = thread.isOver := by
  rcases thread with ⟨engine, phase⟩
  cases phase <;> rfl

/-- Only the main engine is ever parked or answered. -/
theorem Standing.initial_of_phase (standing : run.Standing awaited)
    (present : run.threads[id]? = some thread)
    (parked : ¬ (thread.phase = .ready ∨ thread.phase = .crashed)) : id = .initial := by
  by_contra later
  exact parked (standing.children id thread present later)

/-- An engine that is parked cannot move in the ensemble either. -/
theorem Standing.still_of_waiting (standing : run.Standing awaited)
    (present : run.threads[ThreadId.initial]? = some thread) (waiting : thread.phase = .waiting) :
    run.ensemble.prospect? .initial = none := by
  cases standing.main thread present with
  | waiting foreign running asked =>
      rw [prospect?_ensemble present]
      split
      · rfl
      · refine (Ensemble.outlook?_of_join asked).trans ?_
        rw [reply?_ensemble foreign running]
        rfl
  | ready => cases waiting
  | crashed => cases waiting
  | answered => cases waiting

/-- The main engine acts on the answer that it has got. -/
theorem Standing.turnAnswered (standing : run.Standing awaited) {reply : JoinReply}
    (present : run.threads[ThreadId.initial]? = some thread)
    (answered : thread.phase = .answered reply) :
    let moved := run.commit .initial thread.engine
      { run.surroundings with stopRequested := false, join := fun _ => reply }
    moved.ensemble = run.ensemble.turn .initial ∧ ∃ later, moved.Standing later := by
  have fits := standing.main thread present
  rcases thread with ⟨engine, phase⟩
  cases answered
  cases fits with
  | answered foreign ended told asked =>
      have active : (run.strand .initial ⟨engine, .answered reply⟩).isOver = false :=
        (isOver_strand run _ _).trans (Engine.unfinished_of_request? asked)
      refine standing.answered present active asked rfl ?_
      rw [told]
      exact reply?_ensemble_of_ended foreign ended

/-- A turn of the run is a turn of the ensemble. -/
theorem Standing.turn (standing : run.Standing awaited) (tame : run.ensemble.Tame id) :
    (run.turn id).ensemble = run.ensemble.turn id ∧ ∃ later, (run.turn id).Standing later := by
  have unmoved (still : run.ensemble.prospect? id = none) :
      run.ensemble = run.ensemble.turn id ∧ ∃ later, run.Standing later :=
    ⟨(Ensemble.turn_of_none still).symm, awaited, standing⟩
  unfold Run.turn
  cases present : run.threads[id]? with
  | none =>
      refine unmoved ?_
      rw [Ensemble.prospect?, strands_ensemble, present]
      rfl
  | some thread =>
      have prospect := prospect?_ensemble present
      dsimp only
      cases phase : thread.phase with
      | crashed =>
          refine unmoved ?_
          rw [prospect, if_pos]
          rw [isOver_strand, Thread.isOver, phase]
      | refused =>
          refine unmoved ?_
          rw [prospect, if_pos]
          rw [isOver_strand, Thread.isOver, phase]
      | waiting =>
          have first : id = .initial := standing.initial_of_phase present (by simp [phase])
          subst first
          exact unmoved (standing.still_of_waiting present phase)
      | answered reply =>
          have first : id = .initial := standing.initial_of_phase present (by simp [phase])
          subst first
          dsimp only
          rw [view_of_isolated standing.isolated]
          exact standing.turnAnswered present phase
      | ready =>
          dsimp only
          split
          · rename_i final
            refine unmoved ?_
            rw [prospect, if_pos]
            rw [isOver_strand, Thread.isOver, phase]
            exact final
          · rename_i unfinished
            have active : (run.strand id thread).isOver = false := by
              rw [isOver_strand, Thread.isOver, phase]
              simpa using unfinished
            rw [view_of_isolated standing.isolated, standing.stop]
            cases broken : thread.engine.breakdown? run.context false with
            | none => exact standing.turnReady tame present phase active broken
            | some reports =>
                have main : id = .initial → awaited = none :=
                  standing.awaited_of_main present (by rw [phase]; rfl)
                exact standing.crash_turn present active main
                  (Ensemble.outlook?_of_breakdown broken)

end Turns

end Run
end CommandMachine
