import CommandMachine.Proofs.Traffic
namespace CommandMachine

/-!
# What a turn does to the engines of a run

A turn ends in one of two ways.  Either no engine changes, or one engine takes a
step, after it may have started another one.  An engine that breaks down does not change,
and one that the system refuses to start is there like any new one, though it never moves.
All the rest of a turn (reports, the supervisor, plans to stop) cannot be seen by the
engines, except through the answers they are given.
-/

/-- The part of a run that engines compute with. -/
structure Scene where
  context : Context
  engines : List Engine
  common : Stores

/-- An engine with the stores it uses, which are those given if stores are shared. -/
def Engine.seeing (engine : Engine) (isolation : Isolation) (stores : Stores) : Engine :=
  match isolation with
  | .shared => { engine with stores }
  | .isolated => engine

namespace Scene

def isolation (scene : Scene) : Isolation :=
  scene.context.settings.isolation

/-- The engine of a thread with the stores it uses. -/
def engineAt? (scene : Scene) (id : ThreadId) : Option Engine :=
  (scene.engines[id]?).map fun engine => engine.seeing scene.isolation scene.common

/-- An engine has taken its turn. -/
def replace (scene : Scene) (id : ThreadId) (engine : Engine) : Scene where
  context := scene.context
  engines := scene.engines.set id engine
  common := match scene.isolation with
    | .shared => engine.stores
    | .isolated => scene.common

/-- Engines have been started. -/
def start (scene : Scene) (children : List Engine) : Scene :=
  { scene with engines := scene.engines ++ children }

theorem replace_self {scene : Scene} {id : ThreadId} {engine : Engine}
    (present : scene.engines[id]? = some engine) : scene.engines.set id engine = scene.engines := by
  rcases List.getElem?_eq_some_iff.mp present with ⟨inside, rfl⟩
  exact List.set_getElem_self inside

theorem common_replace_shared {scene : Scene} (shared : scene.isolation = .shared)
    (children : List Engine) (id : ThreadId) (engine : Engine) :
    ((scene.start children).replace id engine).common = engine.stores := by
  simp only [replace, show (scene.start children).isolation = .shared from shared]

/-- The engine that has taken its turn is seen as it is. -/
theorem engineAt?_replace_self {scene : Scene} {id : ThreadId}
    (present : id < scene.engines.length) (engine : Engine) :
    (scene.replace id engine).engineAt? id = some engine := by
  simp only [engineAt?, replace, List.getElem?_set_self present, Option.map_some,
    Option.some.injEq, Engine.seeing, isolation]
  cases scene.context.settings.isolation <;> rfl

theorem engineAt?_replace_of_ne (scene : Scene) {id other : ThreadId} (differs : other ≠ id)
    (engine : Engine) :
    (scene.replace id engine).engineAt? other =
      (scene.engines[other]?).map fun found => found.seeing scene.isolation
        (scene.replace id engine).common := by
  simp only [engineAt?, replace, List.getElem?_set_ne differs.symm]
  rfl

/-- An engine of the scene after a turn is one of those before or a new one. -/
theorem engineAt?_replace_cases {scene : Scene} {children : List Engine}
    (few : children.length ≤ 1) {id other : ThreadId} (differs : other ≠ id) {engine found : Engine}
    (present : ((scene.start children).replace id engine).engineAt? other = some found) :
    ∃ raw, found = raw.seeing scene.isolation ((scene.start children).replace id engine).common ∧
      (scene.engines[other]? = some raw ∨ other = scene.engines.length ∧ raw ∈ children) := by
  rw [engineAt?_replace_of_ne _ differs] at present
  rcases Option.map_eq_some_iff.mp present with ⟨raw, listed, rfl⟩
  refine ⟨raw, rfl, ?_⟩
  simp only [start, List.getElem?_append] at listed
  split at listed
  · exact Or.inl listed
  · rename_i outside
    have inside := (List.getElem?_eq_some_iff.mp listed).1
    have first : other - scene.engines.length = 0 :=
      Nat.lt_one_iff.mp (Nat.lt_of_lt_of_le inside few)
    refine Or.inr ⟨?_, List.mem_of_getElem? listed⟩
    exact Nat.le_antisymm (Nat.le_of_sub_eq_zero first) (Nat.le_of_not_lt outside)

end Scene

namespace Run

def scene (run : Run) : Scene where
  context := run.context
  engines := run.threads.map Thread.engine
  common := run.common

/-- The engine of a thread with the registers and memory it uses. -/
def engineAt? (run : Run) (id : ThreadId) : Option Engine :=
  (run.threads[id]?).map fun thread => run.view thread.engine

theorem engineAt?_eq (run : Run) (id : ThreadId) :
    run.engineAt? id = run.scene.engineAt? id := by
  simp only [engineAt?, Scene.engineAt?, scene, List.getElem?_map, Option.map_map]
  rfl

theorem engineAt?_of_scene {run next : Run} (same : next.scene = run.scene) (id : ThreadId) :
    next.engineAt? id = run.engineAt? id := by
  rw [Run.engineAt?_eq, Run.engineAt?_eq, same]

/-- The engine that a turn moves, and whether it is told to stop.  An engine that has
waited is not.  One that breaks down does not move. -/
def mover? (run : Run) (id : ThreadId) : Option (Engine × Bool) :=
  (run.threads[id]?).bind fun thread =>
    match thread.phase with
    | .ready =>
      if ((run.view thread.engine).breakdown? run.context run.stop.isRequested).isSome then none
      else some (run.view thread.engine, run.stop.isRequested)
    | .answered _ => some (run.view thread.engine, false)
    | .waiting => none
    | .crashed => none
    | .refused => none

/-- The exchange with memory that a turn brings about. -/
def exchange? (run : Run) (id : ThreadId) : Option Memory.Exchange :=
  (run.mover? id).bind fun (engine, stopRequested) =>
    engine.exchange? run.context stopRequested

/-- The answer of the backend that a turn brings about. -/
def inferred? (run : Run) (id : ThreadId) : Option Value :=
  (run.mover? id).bind fun (engine, stopRequested) =>
    match engine.request? run.context stopRequested with
    | some (.infer payload) => run.backend payload
    | _ => none

theorem engineAt?_of_mover? {run : Run} {id : ThreadId} {engine : Engine} {stopRequested : Bool}
    (mover : run.mover? id = some (engine, stopRequested)) : run.engineAt? id = some engine := by
  rcases Option.bind_eq_some_iff.mp mover with ⟨thread, present, moves⟩
  rw [engineAt?, present, Option.map_some]
  split at moves
  · split at moves
    · cases moves
    · cases moves
      rfl
  · cases moves
    rfl
  all_goals cases moves

theorem engineAt?_of_getElem? {run : Run} {id : ThreadId} {thread : Thread}
    (present : run.threads[id]? = some thread) :
    run.engineAt? id = some (run.view thread.engine) := by
  rw [engineAt?, present, Option.map_some]

theorem lt_of_engineAt? {run : Run} {id : ThreadId} {engine : Engine}
    (present : run.engineAt? id = some engine) : id < run.threads.length := by
  rcases Option.map_eq_some_iff.mp present with ⟨thread, listed, -⟩
  exact (List.getElem?_eq_some_iff.mp listed).1

/-- The exchange that a turn brings about is that of the engine whose turn it is. -/
theorem request_of_exchange? {run : Run} {id : ThreadId} {engine : Engine}
    (present : run.engineAt? id = some engine) {exchange : Memory.Exchange}
    (asked : run.exchange? id = some exchange) :
    ∃ request stopRequested, run.mover? id = some (engine, stopRequested) ∧
      engine.memoryRequest? run.context stopRequested = some request ∧
      engine.stores.memory.exchange request = exchange := by
  rcases Option.bind_eq_some_iff.mp asked with ⟨⟨mover, stopRequested⟩, moves, exchanged⟩
  have same := (Run.engineAt?_of_mover? moves).symm.trans present
  cases same
  rcases Option.map_eq_some_iff.mp exchanged with ⟨request, made, rfl⟩
  exact ⟨request, stopRequested, moves, made, rfl⟩

theorem engineAt?_of_exchange? {run : Run} {id : ThreadId} {exchange : Memory.Exchange}
    (asked : run.exchange? id = some exchange) : ∃ engine, run.engineAt? id = some engine := by
  rcases Option.bind_eq_some_iff.mp asked with ⟨⟨engine, stopRequested⟩, moves, -⟩
  exact ⟨engine, Run.engineAt?_of_mover? moves⟩

theorem stores_of_shared {run : Run} (shared : run.context.settings.isolation = .shared)
    {id : ThreadId} {engine : Engine} (present : run.engineAt? id = some engine) :
    engine.stores = run.common := by
  rcases Option.map_eq_some_iff.mp present with ⟨thread, -, rfl⟩
  simp only [view, shared]

/-! ## What the engines do not see -/

theorem scene_report (run : Run) (id : ThreadId) (reports : List Report) :
    (run.report id reports).scene = run.scene :=
  rfl

theorem scene_setThread (run : Run) (id : ThreadId) (thread : Thread) :
    (run.setThread id thread).scene =
      { run.scene with engines := run.scene.engines.set id thread.engine } := by
  simp only [scene, setThread, List.map_set]

theorem scene_answer (run : Run) (replies : List (ThreadId × JoinReply)) :
    (run.answer replies).scene = run.scene := by
  simp only [scene, answer, Scene.mk.injEq, true_and, and_true]
  apply List.ext_getElem?
  intro id
  simp only [List.getElem?_map, List.getElem?_mapIdx, Option.map_map]
  congr 1
  funext thread
  dsimp only [Function.comp_apply]
  split <;> rfl

theorem scene_conclude (run : Run) (id : ThreadId) (ending : Ending) :
    (run.conclude id ending).scene = run.scene :=
  scene_answer _ _

theorem scene_applyPlan (run : Run) : run.applyPlan.scene = run.scene := by
  unfold applyPlan
  repeat' split
  all_goals rfl

theorem scene_setEngine (run : Run) (id : ThreadId) (engine : Engine) :
    (run.setEngine id engine).scene = run.scene.replace id engine := by
  simp only [scene, setEngine, setThread, Scene.replace, List.map_set]
  rfl

theorem scene_commit (run : Run) (id : ThreadId) (engine : Engine)
    (surroundings : Surroundings) :
    (run.commit id engine surroundings).scene =
      run.scene.replace id (engine.step run.context surroundings).1 := by
  unfold commit
  dsimp only
  split
  · rw [scene_conclude, scene_report, scene_applyPlan, scene_setEngine, scene_report]
  · rw [scene_applyPlan, scene_setEngine, scene_report]

theorem scene_startChild (run : Run) (engine : Engine) (entry : Nat) :
    (run.startChild engine entry).scene = run.scene.start
      [engine.child run.context.settings run.supervisor.nextThread entry] := by
  unfold startChild
  dsimp only
  split <;> simp only [scene, report, Scene.start, List.map_append, List.map_cons, List.map_nil]

/-- Giving an engine another phase is not seen by the engines. -/
theorem scene_setPhase {run : Run} {id : ThreadId} {thread : Thread}
    (present : run.threads[id]? = some thread) (phase : Phase) :
    (run.setThread id { thread with phase }).scene = run.scene := by
  have listed : run.scene.engines[id]? = some thread.engine := by
    simp only [scene, List.getElem?_map, present, Option.map_some]
  rw [scene_setThread, Scene.replace_self listed]

theorem threads_applyPlan (run : Run) : run.applyPlan.threads = run.threads := by
  unfold applyPlan
  repeat' split
  all_goals rfl

theorem scene_crash {run : Run} {id : ThreadId} {thread : Thread}
    (present : run.threads[id]? = some thread) (reports : List Report) :
    (run.crash id thread reports).scene = run.scene := by
  have kept : (run.report id reports).applyPlan.threads[id]? = some thread := by
    rw [threads_applyPlan]
    exact present
  unfold crash
  dsimp only
  rw [scene_conclude, scene_setPhase kept, scene_applyPlan, scene_report]

/-! ## Turns -/

/-- An engine that has not been executed, with the stores of the engine that started it. -/
def IsNew (parent child : Engine) : Prop :=
  child.stores = parent.stores ∧ child.stack.items = [] ∧ child.status = .idle

/-- An engine has taken a step, with answers that the run could give, and may have
started another engine before. -/
structure Moves (run : Run) (id : ThreadId) (next : Run) (engine : Engine)
    (surroundings : Surroundings) (children : List Engine) : Prop where
  mover : run.mover? id = some (engine, surroundings.stopRequested)
  honest : surroundings.Honest
  inferred : ∀ payload, surroundings.infer payload = .unset ∨
    run.inferred? id = some (surroundings.infer payload)
  started : ∀ child ∈ children, IsNew engine child
  few : children.length ≤ 1
  same : next.scene = (run.scene.start children).replace id
    (engine.step run.context surroundings).1

/-- The ways in which a turn can end. -/
inductive Turned (run : Run) (id : ThreadId) (next : Run) : Prop where
  /-- No engine has changed, and nothing was asked of memory. -/
  | still (same : next.scene = run.scene) (silent : run.exchange? id = none)
  | moved {engine : Engine} {surroundings : Surroundings} {children : List Engine}
      (moves : run.Moves id next engine surroundings children)

section Turn

variable {run : Run} {id : ThreadId} {thread : Thread}

/-- A step without a new engine. -/
theorem turned_of_commit {engine : Engine} {surroundings : Surroundings} {before : Run}
    (same : before.scene = run.scene)
    (mover : run.mover? id = some (engine, surroundings.stopRequested))
    (honest : surroundings.Honest)
    (inferred : ∀ payload, surroundings.infer payload = .unset ∨
      run.inferred? id = some (surroundings.infer payload)) :
    run.Turned id (before.commit id engine surroundings) := by
  have context : before.context = run.context := congrArg Scene.context same
  have stepped : (before.commit id engine surroundings).scene =
      (run.scene.start []).replace id (engine.step run.context surroundings).1 := by
    rw [scene_commit, same, context, Scene.start, List.append_nil]
  exact .moved ⟨mover, honest, inferred, fun _ member => absurd member List.not_mem_nil,
    Nat.zero_le 1, stepped⟩

theorem turnReady_turned (present : run.threads[id]? = some thread)
    (ready : thread.phase = .ready)
    (borne : (run.view thread.engine).breakdown? run.context run.stop.isRequested = none) :
    run.Turned id (run.turnReady id thread) := by
  have mover : run.mover? id = some (run.view thread.engine, run.stop.isRequested) := by
    simp [mover?, present, ready, borne]
  have silent {request : Request} (asked : (run.view thread.engine).request? run.context
      run.stop.isRequested = some request) : run.exchange? id = none := by
    simp only [exchange?, mover, Option.bind_some, Engine.exchange?,
      Engine.memoryRequest?_of_request? asked, Option.map_none]
  unfold turnReady
  dsimp only
  split
  · exact turned_of_commit rfl mover run.surroundings_honest fun _ => Or.inl rfl
  · rename_i payload asked
    split
    · exact .still (scene_crash present _) (silent asked)
    · rename_i value answered
      refine turned_of_commit rfl mover run.surroundings_honest fun _ => Or.inr ?_
      simp only [inferred?, mover, Option.bind_some, asked, answered]
  · rename_i entry asked
    have stepped : ((run.startChild (run.view thread.engine) entry).commit id
          (run.view thread.engine) run.surroundings).scene =
        (run.scene.start [(run.view thread.engine).child run.context.settings
          run.supervisor.nextThread entry]).replace id
            ((run.view thread.engine).step run.context run.surroundings).1 := by
      have same := scene_startChild run (run.view thread.engine) entry
      have context := congrArg Scene.context same
      rw [scene_commit, same, show (run.startChild _ entry).context = run.context from context]
    refine .moved ⟨mover, run.surroundings_honest, fun _ => Or.inl rfl, fun child member => ?_,
      by simp, stepped⟩
    rw [List.mem_singleton.mp member]
    exact ⟨rfl, rfl, rfl⟩
  · rename_i target asked
    split
    · rename_i supervisor reply joined
      exact turned_of_commit rfl mover (fun _ => Supervisor.join_honest joined)
        fun _ => Or.inl rfl
    · rename_i supervisor joined
      have kept : ({ run with supervisor } : Run).threads[id]? = some thread := present
      exact .still (scene_setPhase kept .waiting) (silent asked)

theorem view_status (run : Run) (engine : Engine) : (run.view engine).status = engine.status := by
  unfold view
  split <;> rfl

theorem turn_turned {context : Context} (sound : run.Sound context) (id : ThreadId) :
    run.Turned id (run.turn id) := by
  unfold turn
  cases present : run.threads[id]? with
  | none => exact .still rfl (by simp [exchange?, mover?, present])
  | some thread =>
      have fits := sound.threads thread (List.mem_of_getElem? present)
      dsimp only
      cases phase : thread.phase with
      | crashed => exact .still rfl (by simp [exchange?, mover?, present, phase])
      | refused => exact .still rfl (by simp [exchange?, mover?, present, phase])
      | waiting => exact .still rfl (by simp [exchange?, mover?, present, phase])
      | answered reply =>
          have mover : run.mover? id = some (run.view thread.engine, false) := by
            simp only [mover?, present, phase, Option.bind_some]
          exact turned_of_commit rfl mover (fun _ => fits.reply reply phase)
            fun _ => Or.inl rfl
      | ready =>
          dsimp only
          split
          · rename_i final
            have ended : (run.view thread.engine).status.isFinal = true := by
              rw [view_status]
              exact final
            refine .still rfl ?_
            simp [exchange?, mover?, present, phase, Engine.exchange?, Engine.memoryRequest?,
              Engine.breakdown?, Engine.fetch, ended]
          · split
            · rename_i reports broken
              refine .still (scene_crash present reports) ?_
              simp [exchange?, mover?, present, phase, broken]
            · rename_i borne
              exact turnReady_turned present phase borne

end Turn

/-! ## The engines after a turn -/

section Neighbours

variable {run next : Run} {id other : ThreadId} {engine : Engine} {surroundings : Surroundings}
  {children : List Engine}

theorem Moves.present (moves : run.Moves id next engine surroundings children) :
    run.engineAt? id = some engine :=
  engineAt?_of_mover? moves.mover

theorem Moves.engineAt?_self (moves : run.Moves id next engine surroundings children) :
    next.engineAt? id = some (engine.step run.context surroundings).1 := by
  have inside : id < (run.scene.start children).engines.length := by
    simp only [Scene.start, scene, List.length_append, List.length_map]
    exact Nat.lt_add_right _ (lt_of_engineAt? moves.present)
  rw [engineAt?_eq, moves.same, Scene.engineAt?_replace_self inside]

/-- If stores are shared, the other engines see those that the moved one has left, and
nothing else about them has changed. -/
theorem Moves.neighbour_shared (moves : run.Moves id next engine surroundings children)
    (shared : run.context.settings.isolation = .shared) (differs : other ≠ id)
    {found : Engine} (present : next.engineAt? other = some found) :
    found.stores = (engine.step run.context surroundings).1.stores ∧
      ((found.stack.items = [] ∧ found.status = .idle) ∨
        ∃ before, run.engineAt? other = some before ∧ found.stack = before.stack ∧
          found.status = before.status) := by
  have mode : run.scene.isolation = .shared := shared
  rw [engineAt?_eq, moves.same] at present
  rcases Scene.engineAt?_replace_cases moves.few differs present with ⟨raw, rfl, origin⟩
  rw [mode, Scene.common_replace_shared mode]
  refine ⟨rfl, ?_⟩
  rcases origin with old | ⟨-, new⟩
  · refine Or.inr ⟨raw.seeing .shared run.common, ?_, rfl, rfl⟩
    rw [engineAt?_eq, Scene.engineAt?, old, mode]
    rfl
  · exact Or.inl (moves.started raw new).2

/-- If stores are not shared, the other engines do not notice the turn. -/
theorem Moves.neighbour_isolated (moves : run.Moves id next engine surroundings children)
    (isolated : run.context.settings.isolation = .isolated) (differs : other ≠ id)
    {found : Engine} (present : next.engineAt? other = some found) :
    run.engineAt? other = some found ∨
      other = run.threads.length ∧ IsNew engine found := by
  have mode : run.scene.isolation = .isolated := isolated
  rw [engineAt?_eq, moves.same] at present
  rcases Scene.engineAt?_replace_cases moves.few differs present with
    ⟨raw, rfl, old | ⟨place, new⟩⟩
  · refine Or.inl ?_
    rw [engineAt?_eq, Scene.engineAt?, old, mode]
    rfl
  · refine Or.inr ⟨by simpa [scene] using place, ?_⟩
    rw [mode]
    exact moves.started raw new

/-- No engine is lost in a turn. -/
theorem Moves.exists_neighbour (moves : run.Moves id next engine surroundings children)
    {before : Engine} (present : run.engineAt? other = some before) :
    ∃ found, next.engineAt? other = some found := by
  have inside : other < next.scene.engines.length := by
    rw [moves.same]
    simp only [Scene.replace, Scene.start, scene, List.length_set, List.length_append,
      List.length_map]
    exact Nat.lt_add_right _ (lt_of_engineAt? present)
  rw [engineAt?_eq, Scene.engineAt?, List.getElem?_eq_getElem inside]
  exact ⟨_, rfl⟩

end Neighbours
end Run
end CommandMachine
