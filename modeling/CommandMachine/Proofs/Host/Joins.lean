import CommandMachine.Proofs.Host.Crew
namespace CommandMachine

/-!
# What engines learn of each other's end

Each step of a crew keeps what is known of it, until all threads have been collected.
From then on nothing happens any more.  So in whatever order the steps are taken, all
who ask for the outcome of a thread are told the same, and none is lost.
-/

namespace Crew

/-! ## Steps -/

/-- Everything that is known of a crew until all threads have been collected. -/
structure Sound (crew : Crew) : Prop where
  ascending : crew.host.Ascending
  registry : crew.Registry
  keeping : crew.Keeping
  links : crew.Links
  unfinished : ∀ outcomes, crew.collecting ≠ .done outcomes
  convened : crew.collecting ≠ .absent →
    ∃ ending, crew.duties .initial = some (.ended ending)

namespace Sound

variable {crew : Crew} {engine parent child joiner target thread : ThreadId}

/-- What a step that changes the duty of one engine has to keep besides the three parts. -/
theorem convened_assign (sound : crew.Sound) {duty : Duty}
    (active : ∀ ending, crew.duties engine ≠ some (.ended ending))
    (begun : crew.collecting ≠ .absent) :
    ∃ ending, (crew.assign engine duty).duties .initial = some (.ended ending) := by
  rcases sound.convened begun with ⟨ending, atEnd⟩
  exact ⟨ending, ended_assign atEnd active⟩

theorem takeId (sound : crew.Sound) (free : crew.duties parent = some .free) :
    ({ crew with host := crew.host.takeId.2 }.assign parent
      (.starting crew.host.takeId.1)).Sound := by
  have active (ending : Ending) : crew.duties parent ≠ some (.ended ending) := by simp [free]
  have keeping : Keeping { crew with host := crew.host.takeId.2 } :=
    sound.keeping.withHost rfl
  have links : Links { crew with host := crew.host.takeId.2 } :=
    sound.links.of_same (fun _ => rfl) fun _ => rfl
  have idle : (crew.duties parent).bind Duty.target? = none := by rw [free]; rfl
  exact ⟨sound.ascending, sound.registry.takeId free,
    keeping.assign active trivial fun _ => nofun, links.assign idle,
    sound.unfinished, sound.convened_assign active⟩

theorem launch (sound : crew.Sound) (starting : crew.duties parent = some (.starting child))
    (unborn : crew.duties child = none) : (crew.assign child .free).Sound := by
  have active (ending : Ending) : crew.duties child ≠ some (.ended ending) := by simp [unborn]
  exact ⟨sound.ascending, sound.registry.launch starting unborn,
    sound.keeping.assign active trivial fun _ => nofun, sound.links.assign (by rw [unborn]; rfl),
    sound.unfinished, sound.convened_assign active⟩

theorem refuse (sound : crew.Sound) (starting : crew.duties parent = some (.starting child))
    (unborn : crew.duties child = none) : (crew.assign parent .free).Sound := by
  have active (ending : Ending) : crew.duties parent ≠ some (.ended ending) := by simp [starting]
  exact ⟨sound.ascending, sound.registry.refuse starting unborn,
    sound.keeping.assign active trivial fun _ => nofun, sound.links.assign (by rw [starting]; rfl),
    sound.unfinished, sound.convened_assign active⟩

theorem enter (sound : crew.Sound) (starting : crew.duties parent = some (.starting child))
    (born : (crew.duties child).isSome) :
    ({ crew with host := crew.host.enter child }.assign parent .free).Sound := by
  have active (ending : Ending) : crew.duties parent ≠ some (.ended ending) := by simp [starting]
  have missing := (sound.registry.starting parent child starting).2.2
  have links : Links { crew with host := crew.host.enter child } :=
    sound.links.of_same (fun _ => rfl) fun _ => rfl
  exact ⟨sound.ascending.setSlot child .running, sound.registry.enter starting born,
    (sound.keeping.enter missing).assign active trivial fun _ => nofun,
    links.assign (by rw [starting]; rfl), sound.unfinished, sound.convened_assign active⟩

theorem finish (sound : crew.Sound) (ending : Ending) (free : crew.duties engine = some .free) :
    (crew.assign engine (.ended ending)).Sound := by
  have active (ending : Ending) : crew.duties engine ≠ some (.ended ending) := by simp [free]
  exact ⟨sound.ascending,
    sound.registry.of_same (map_duties_assign Duty.child? free rfl) (fun _ => rfl) rfl,
    sound.keeping.assign active trivial fun _ => nofun, sound.links.assign (by rw [free]; rfl),
    sound.unfinished, sound.convened_assign active⟩

/-- An engine without a wait in the graph is answered. -/
theorem answer (sound : crew.Sound) {result : Except Cause Outcome}
    (free : crew.duties joiner = some .free)
    (ended : ∀ outcome, result = .ok outcome → ∃ ending,
      crew.duties target = some (.ended ending) ∧ ending.outcome = outcome) :
    (crew.answer joiner target result).Sound := by
  have active (ending : Ending) : crew.duties joiner ≠ some (.ended ending) := by simp [free]
  have links : (crew.assign joiner .free).Links := sound.links.assign (by rw [free]; rfl)
  exact ⟨sound.ascending,
    sound.registry.of_same (map_duties_assign Duty.child? free rfl) (fun _ => rfl) rfl,
    sound.keeping.answer active ended, links.of_same (fun _ => rfl) fun _ => rfl,
    sound.unfinished, sound.convened_assign active⟩

theorem park (sound : crew.Sound) (free : crew.duties joiner = some .free)
    (found : crew.host.slot? target = some .joining)
    (clear : crew.host.closesCycle joiner target = false) :
    ({ crew with host := crew.host.await joiner target }.assign joiner (.parked target)).Sound := by
  have active (ending : Ending) : crew.duties joiner ≠ some (.ended ending) := by simp [free]
  have keeping : Keeping { crew with host := crew.host.await joiner target } :=
    sound.keeping.withHost rfl
  have fits : (Duty.parked target).Fits (crew.host.await joiner target) := by
    change (crew.host.slot? target).isSome
    rw [found]
    rfl
  exact ⟨sound.ascending,
    sound.registry.of_same (map_duties_assign Duty.child? free rfl) (fun _ => rfl) rfl,
    keeping.assign active fits fun _ => nofun, sound.links.await clear rfl,
    sound.unfinished, sound.convened_assign active⟩

theorem take (sound : crew.Sound) (free : crew.duties joiner = some .free)
    (found : crew.host.slot? target = some .running)
    (clear : crew.host.closesCycle joiner target = false) :
    ({ crew with
        host := (crew.host.setSlot target .joining).await joiner target
        taken := target :: crew.taken }.assign joiner (.holding target)).Sound := by
  have active (ending : Ending) : crew.duties joiner ≠ some (.ended ending) := by simp [free]
  have unheld : crew.Unheld target := sound.keeping.unheld found nofun
  have keeping : Keeping { crew with
      host := (crew.host.setSlot target .joining).await joiner target
      taken := target :: crew.taken } :=
    (sound.keeping.take found).withHost rfl
  have fits : (Duty.holding target).Fits
      ((crew.host.setSlot target .joining).await joiner target) := by
    change (crew.host.setSlot target .joining).slot? target = some .joining
    rw [Host.slot?_setSlot, if_pos rfl]
  have links : Links { crew with
      host := crew.host.setSlot target .joining
      taken := target :: crew.taken } :=
    sound.links.of_same (fun _ => rfl) fun _ => rfl
  refine ⟨sound.ascending.setSlot target .joining,
    sound.registry.of_same (map_duties_assign Duty.child? free rfl)
      (Host.isSome_slot?_setSlot found) rfl,
    keeping.assign active fits fun thread same => ?_,
    links.await ((Host.closesCycle_setSlot ..).trans clear) rfl,
    sound.unfinished, sound.convened_assign active⟩
  cases same
  exact unheld

/-- A look at the table on behalf of an engine that waits for nobody. -/
theorem look (sound : crew.Sound) (free : crew.duties joiner = some .free) :
    (crew.afterLook joiner target (crew.host.lookFor joiner target)).Sound := by
  have looked := crew.host.lookFor_looked joiner target
  generalize crew.host.lookFor joiner target = result at looked ⊢
  cases looked with
  | unknown missing => exact sound.answer free fun _ => nofun
  | known found =>
      refine sound.answer free fun outcome same => ?_
      cases same
      exact sound.keeping.finished target _ found
  | circle found unfinished closes => exact sound.answer free fun _ => nofun
  | parked found clear => exact sound.park free found clear
  | taken found clear => exact sound.take free found clear

/-- An engine that was parked takes back its wait before it looks again. -/
theorem rise (sound : crew.Sound) (parked : crew.duties joiner = some (.parked target)) :
    ({ crew with host := crew.host.leave joiner }.assign joiner .free).Sound := by
  have active (ending : Ending) : crew.duties joiner ≠ some (.ended ending) := by simp [parked]
  have keeping : Keeping { crew with host := crew.host.leave joiner } :=
    sound.keeping.withHost rfl
  exact ⟨sound.ascending,
    sound.registry.of_same (map_duties_assign Duty.child? parked rfl) (fun _ => rfl) rfl,
    keeping.assign active trivial fun _ => nofun, sound.links.leave rfl,
    sound.unfinished, sound.convened_assign active⟩

theorem wake (sound : crew.Sound) (parked : crew.duties joiner = some (.parked target)) :
    (crew.afterLook joiner target (crew.host.wake joiner target)).Sound := by
  have risen := sound.rise parked
  rw [← afterLook_assign crew (crew.host.leave joiner) joiner target .free]
  exact risen.look (if_pos rfl)

theorem join (sound : crew.Sound) (free : crew.duties joiner = some .free) :
    (crew.afterLook joiner target (crew.host.beginJoin joiner target)).Sound := by
  rw [Host.beginJoin]
  split
  · exact sound.answer free fun _ => nofun
  · exact sound.look free

theorem record (sound : crew.Sound) {ending : Ending}
    (holding : crew.duties joiner = some (.holding target))
    (ended : crew.duties target = some (.ended ending)) :
    ({ crew with host := crew.host.record target ending.outcome }.assign joiner
      (.leaving target ending.outcome)).Sound := by
  have active (ending : Ending) : crew.duties joiner ≠ some (.ended ending) := by simp [holding]
  have joining : crew.host.slot? target = some .joining := sound.keeping.duties joiner _ holding
  -- The handle is put away first, so that nobody has it when the slot changes.
  have released : (crew.assign joiner .free).Keeping :=
    sound.keeping.assign active trivial fun _ => nofun
  have unheld : (crew.assign joiner .free).Unheld target := by
    refine ⟨fun other holds => ?_, sound.keeping.rival joiner target holding⟩
    rcases assigned holds with ⟨-, same⟩ | ⟨differs, old⟩
    · cases same
    · exact differs (sound.keeping.alone other joiner target old holding)
  have settled := released.settle joining unheld (ended_assign ended active)
  have fits : (Duty.leaving target ending.outcome).Fits
      (crew.host.record target ending.outcome) := by
    change (crew.host.setSlot target _).slot? target = _
    rw [Host.slot?_setSlot, if_pos rfl]
  have keeping : (({ crew with host := crew.host.record target ending.outcome }.assign joiner
      .free).assign joiner (.leaving target ending.outcome)).Keeping :=
    settled.assign (by simp) fits fun _ => nofun
  rw [assign_assign] at keeping
  have links : Links { crew with host := crew.host.record target ending.outcome } :=
    sound.links.of_same (fun _ => rfl) fun _ => rfl
  exact ⟨sound.ascending.setSlot target _,
    sound.registry.of_same (map_duties_assign Duty.child? holding rfl)
      (Host.isSome_slot?_setSlot joining) rfl,
    keeping, links.assign (by rw [holding]; rfl), sound.unfinished,
    sound.convened_assign active⟩

theorem leave (sound : crew.Sound) {outcome : Outcome}
    (leaving : crew.duties joiner = some (.leaving target outcome)) :
    ({ crew with host := crew.host.leave joiner }.answer joiner target (.ok outcome)).Sound := by
  have active (ending : Ending) : crew.duties joiner ≠ some (.ended ending) := by simp [leaving]
  have keeping : Keeping { crew with host := crew.host.leave joiner } :=
    sound.keeping.withHost rfl
  have links : ({ crew with host := crew.host.leave joiner }.assign joiner .free).Links :=
    sound.links.leave rfl
  refine ⟨sound.ascending,
    sound.registry.of_same (map_duties_assign Duty.child? leaving rfl) (fun _ => rfl) rfl,
    keeping.answer active fun known same => ?_, links.of_same (fun _ => rfl) fun _ => rfl,
    sound.unfinished, sound.convened_assign active⟩
  cases same
  exact sound.keeping.finished target outcome (sound.keeping.duties joiner _ leaving)

theorem convene (sound : crew.Sound) {ending : Ending}
    (atEnd : crew.duties .initial = some (.ended ending)) :
    Sound { crew with collecting := .looking } :=
  ⟨sound.ascending, sound.registry.of_same (fun _ => rfl) (fun _ => rfl) rfl,
    sound.keeping.convene, sound.links.of_same (fun _ => rfl) fun _ => rfl, fun _ => nofun,
    fun _ => ⟨ending, atEnd⟩⟩

/-- The one who collects takes the handle of a thread that runs. -/
theorem pick (sound : crew.Sound) (looking : crew.collecting = .looking)
    (running : crew.host.slot? thread = some .running) :
    Sound { crew with
      host := crew.host.setSlot thread .joining
      collecting := .holding thread
      taken := thread :: crew.taken } := by
  have unheld : crew.Unheld thread := sound.keeping.unheld running nofun
  have joining : (crew.host.setSlot thread .joining).slot? thread = some .joining := by
    rw [Host.slot?_setSlot, if_pos rfl]
  refine ⟨sound.ascending.setSlot thread .joining,
    sound.registry.of_same (fun _ => rfl) (Host.isSome_slot?_setSlot running) rfl,
    (sound.keeping.take running).gather joining unheld,
    sound.links.of_same (fun _ => rfl) fun _ => rfl, fun _ => nofun, fun _ => ?_⟩
  exact sound.convened (by simp [looking])

theorem gather (sound : crew.Sound) {ending : Ending}
    (holding : crew.collecting = .holding thread)
    (ended : crew.duties thread = some (.ended ending)) :
    Sound { crew with
      host := crew.host.record thread ending.outcome, collecting := .looking } := by
  have joining := sound.keeping.gathering thread holding
  have unheld : Unheld { crew with collecting := .looking } thread :=
    ⟨fun engine holds => sound.keeping.rival engine thread holds holding, nofun⟩
  refine ⟨sound.ascending.setSlot thread _,
    sound.registry.of_same (fun _ => rfl) (Host.isSome_slot?_setSlot joining) rfl,
    sound.keeping.convene.settle joining unheld ended,
    sound.links.of_same (fun _ => rfl) fun _ => rfl, fun _ => nofun, fun _ => ?_⟩
  exact sound.convened (by simp [holding])

end Sound

theorem sound_start : start.Sound := by
  have lone {engine : ThreadId} {duty : Duty} (found : start.duties engine = some duty) :
      engine = .initial ∧ duty = .free := by
    change (if engine = .initial then some Duty.free else none) = some duty at found
    split at found
    · rename_i own
      exact ⟨own, (Option.some.inj found).symm⟩
    · cases found
  have registry : start.Registry := by
    refine ⟨fun engine known => ?_, fun parent child starts => ?_,
      fun parent _ child starts _ => ?_, fun thread found => ?_, fun thread known later => ?_⟩
    · rcases Option.isSome_iff_exists.mp known with ⟨duty, found⟩
      rw [(lone found).1]
      exact Nat.lt_succ_self _
    · cases (lone starts).2
    · cases (lone starts).2
    · cases found
    · rcases Option.isSome_iff_exists.mp known with ⟨duty, found⟩
      exact absurd (lone found).1 later
  have keeping : start.Keeping := by
    refine ⟨fun _ _ found => ?_, fun engine duty found => ?_, fun _ => nofun,
      fun engine _ thread holds _ => ?_, fun engine thread holds => ?_, fun _ => rfl,
      fun _ given => ?_⟩
    · cases found
    · rw [(lone found).2]
      trivial
    · cases (lone holds).2
    · cases (lone holds).2
    · cases given
  have links : start.Links := by
    refine ⟨fun engine => ?_, fun engine waits positive met => ?_⟩
    · cases found : start.duties engine with
      | none => rfl
      | some duty =>
          rw [(lone found).2]
          rfl
    · obtain ⟨rest, rfl⟩ := Nat.exists_eq_succ_of_ne_zero (Nat.ne_of_gt positive)
      cases met
  exact ⟨List.Pairwise.nil, registry, keeping, links, fun _ => nofun, fun begun => absurd rfl begun⟩

/-! ## When all threads have been collected -/

/-- How a thread has ended, as it is told to others. -/
def result? (crew : Crew) (thread : ThreadId) : Option Outcome :=
  match crew.duties thread with
  | some (.ended ending) => some ending.outcome
  | _ => none

theorem result?_eq_some {crew : Crew} {thread : ThreadId} {outcome : Outcome} :
    crew.result? thread = some outcome ↔
      ∃ ending, crew.duties thread = some (.ended ending) ∧ ending.outcome = outcome := by
  unfold result?
  split
  · rename_i ending found
    simp [found]
  · rename_i other
    simp only [reduceCtorEq, false_iff]
    rintro ⟨ending, found, -⟩
    exact other ending found

/-- The thread has been started at some time. -/
def Spawned (crew : Crew) (thread : ThreadId) : Prop :=
  thread ≠ .initial ∧ (crew.duties thread).isSome

/-- All engines have ended, and the outcomes are those of all threads. -/
structure Settled (crew : Crew) (outcomes : List (ThreadId × Outcome)) : Prop where
  finished : crew.collecting = .done outcomes
  forgotten : crew.host.slots = []
  quiet : crew.host.waiting = []
  ended : ∀ engine duty, crew.duties engine = some duty → ∃ ending, duty = .ended ending
  ordered : (outcomes.map Prod.fst).Pairwise (· < ·)
  listed : ∀ thread, thread ∈ outcomes.map Prod.fst ↔ crew.Spawned thread
  results : ∀ entry ∈ outcomes, crew.result? entry.1 = some entry.2
  handles : ∀ thread, crew.taken.count thread ≤ 1 ∧
    (crew.Spawned thread → crew.taken.count thread = 1)
  answered : ∀ answer ∈ crew.answers, ∀ outcome, answer.result = .ok outcome →
    crew.result? answer.target = some outcome

namespace Sound

variable {crew : Crew}

/-- When all outcomes are recorded, nobody is left who might start another thread. -/
theorem ended_of_finished (sound : crew.Sound) (begun : crew.collecting ≠ .absent)
    (finished : ∀ thread slot, crew.host.slot? thread = some slot →
      ∃ outcome, slot = .finished outcome) (engine : ThreadId)
    (known : (crew.duties engine).isSome) :
    ∃ ending, crew.duties engine = some (.ended ending) := by
  induction engine using Nat.strong_induction_on with
  | h engine ih =>
      by_cases first : engine = ThreadId.initial
      · rw [first]
        exact sound.convened begun
      · rcases sound.registry.entered engine known first with listed | ⟨parent, starting⟩
        · rcases Option.isSome_iff_exists.mp listed with ⟨slot, found⟩
          rcases finished engine slot found with ⟨outcome, rfl⟩
          rcases sound.keeping.finished engine outcome found with ⟨ending, atEnd, -⟩
          exact ⟨ending, atEnd⟩
        · -- Whoever starts a thread has a smaller number, and has not ended.
          have smaller := (sound.registry.starting parent engine starting).1
          rcases ih parent smaller (by rw [starting]; rfl) with ⟨ending, atEnd⟩
          simp [starting] at atEnd

/-- The handle of a thread has been taken once, or nobody has wanted it yet. -/
theorem count_taken_le (sound : crew.Sound) (thread : ThreadId) :
    crew.taken.count thread ≤ 1 := by
  rw [sound.keeping.handles]
  split
  · exact Nat.le_refl 1
  · exact Nat.zero_le 1

theorem answered (sound : crew.Sound) {answer : Answer} (given : answer ∈ crew.answers)
    {outcome : Outcome} (good : answer.result = .ok outcome) :
    crew.result? answer.target = some outcome :=
  result?_eq_some.mpr (sound.keeping.answered answer given outcome good)

theorem settled (sound : crew.Sound) (looking : crew.collecting = .looking)
    (finished : ∀ thread slot, crew.host.slot? thread = some slot →
      ∃ outcome, slot = .finished outcome) (nobody : crew.host.waiting = []) :
    Settled { crew with
      host := { crew.host with slots := [] }
      collecting := .done crew.host.outcomes } crew.host.outcomes := by
  have ended := sound.ended_of_finished (by simp [looking]) finished
  have entry {thread : ThreadId} {outcome : Outcome} :
      (thread, outcome) ∈ crew.host.outcomes ↔
        crew.host.slot? thread = some (.finished outcome) :=
    Host.mem_outcomes.trans sound.ascending.slot?_eq_some.symm
  -- A thread that runs and does not stand in the table has a parent that has not ended.
  have spawned (thread : ThreadId) (known : crew.Spawned thread) :
      ∃ outcome, crew.host.slot? thread = some (.finished outcome) := by
    rcases sound.registry.entered thread known.2 known.1 with listed | ⟨parent, starting⟩
    · rcases Option.isSome_iff_exists.mp listed with ⟨slot, found⟩
      rcases finished thread slot found with ⟨outcome, rfl⟩
      exact ⟨outcome, found⟩
    · rcases ended parent (by rw [starting]; rfl) with ⟨ending, atEnd⟩
      simp [starting] at atEnd
  refine ⟨rfl, rfl, nobody, fun engine duty present => ?_, ?_, fun thread => ⟨fun member => ?_,
    fun known => ?_⟩, fun recorded member => ?_, fun thread => ⟨sound.count_taken_le thread,
    fun known => ?_⟩, fun answer given outcome good => sound.answered given good⟩
  · rcases ended engine (Option.isSome_iff_exists.mpr ⟨duty, present⟩) with ⟨ending, atEnd⟩
    exact ⟨ending, Option.some.inj (present.symm.trans atEnd)⟩
  · exact List.pairwise_map.mpr sound.ascending.outcomes
  · rcases List.mem_map.mp member with ⟨⟨_, outcome⟩, inside, rfl⟩
    exact sound.registry.listed _ (Option.isSome_iff_exists.mpr ⟨_, entry.mp inside⟩)
  · rcases spawned thread known with ⟨outcome, found⟩
    exact List.mem_map.mpr ⟨(thread, outcome), entry.mpr found, rfl⟩
  · exact result?_eq_some.mpr (sound.keeping.finished recorded.1 recorded.2 (entry.mp member))
  · rcases spawned thread known with ⟨outcome, found⟩
    change crew.taken.count thread = 1
    rw [sound.keeping.handles, found]
    rfl

/-- What a look of the one who collects leads to. -/
theorem collect (sound : crew.Sound) (looking : crew.collecting = .looking) :
    (crew.afterCollect crew.host.collect).Sound ∨
      ∃ outcomes, (crew.afterCollect crew.host.collect).Settled outcomes := by
  have collected := sound.ascending.collect_collected
  generalize crew.host.collect = result at collected ⊢
  cases collected with
  | taken found => exact Or.inl (sound.pick looking found)
  | parked busy => exact Or.inl sound
  | complete finished nobody => exact Or.inr ⟨_, sound.settled looking finished nobody⟩

end Sound

/-- When all threads have been collected, nobody is left who could do anything. -/
theorem Settled.final {crew next : Crew} {outcomes : List (ThreadId × Outcome)}
    (settled : crew.Settled outcomes) : ¬ Step crew next := by
  have ended {engine : ThreadId} {duty : Duty} (found : crew.duties engine = some duty)
      (active : ∀ ending, duty ≠ .ended ending) : False := by
    rcases settled.ended engine duty found with ⟨ending, same⟩
    exact active ending same
  intro step
  cases step with
  | takeId free => exact ended free (by simp)
  | launch starting unborn => exact ended starting (by simp)
  | refuse starting unborn => exact ended starting (by simp)
  | enter starting born => exact ended starting (by simp)
  | join target free => exact ended free (by simp)
  | wake parked => exact ended parked (by simp)
  | record holding atEnd => exact ended holding (by simp)
  | leave leaving => exact ended leaving (by simp)
  | finish ending free => exact ended free (by simp)
  | convene absent atEnd => simp [settled.finished] at absent
  | collect looking => simp [settled.finished] at looking
  | gather holding atEnd => simp [settled.finished] at holding

/-- What is known of a crew at any time. -/
theorem Reachable.sound_or_settled {crew : Crew} (reachable : crew.Reachable) :
    crew.Sound ∨ ∃ outcomes, crew.Settled outcomes := by
  induction reachable with
  | start => exact Or.inl sound_start
  | step earlier step ih =>
      rcases ih with sound | ⟨outcomes, settled⟩
      · cases step with
        | takeId free => exact Or.inl (sound.takeId free)
        | launch starting unborn => exact Or.inl (sound.launch starting unborn)
        | refuse starting unborn => exact Or.inl (sound.refuse starting unborn)
        | enter starting born => exact Or.inl (sound.enter starting born)
        | join target free => exact Or.inl (sound.join free)
        | wake parked => exact Or.inl (sound.wake parked)
        | record holding atEnd => exact Or.inl (sound.record holding atEnd)
        | leave leaving => exact Or.inl (sound.leave leaving)
        | finish ending free => exact Or.inl (sound.finish ending free)
        | convene absent atEnd => exact Or.inl (sound.convene atEnd)
        | collect looking => exact sound.collect looking
        | gather holding atEnd => exact Or.inl (sound.gather holding atEnd)
      · exact absurd step settled.final

/-! ## Agreement -/

/-- What engines and the one who collects are told of the ends of threads. -/
structure Agreement (crew : Crew) : Prop where
  /-- The handle of a thread is taken at most once. -/
  once : ∀ thread, crew.taken.count thread ≤ 1
  /-- Everybody who gets an outcome of a thread gets the one it has ended with. -/
  agreed : ∀ answer ∈ crew.answers, ∀ outcome, answer.result = .ok outcome →
    crew.result? answer.target = some outcome
  /-- Who has found a thread in the table finds it there again. -/
  found : ∀ joiner target, crew.duties joiner = some (.parked target) →
    ∀ operand, (crew.host.wake joiner target).2 ≠ .refused (.unknownThread operand)
  /-- All threads are collected in ascending order, each once and with its outcome, and
  nothing of them is left in the host. -/
  collected : ∀ outcomes, crew.collecting = .done outcomes →
    (outcomes.map Prod.fst).Pairwise (· < ·) ∧
    (∀ thread, thread ∈ outcomes.map Prod.fst ↔ crew.Spawned thread) ∧
    (∀ entry ∈ outcomes, crew.result? entry.1 = some entry.2) ∧
    (∀ thread, crew.Spawned thread → crew.taken.count thread = 1) ∧
    crew.host.slots = [] ∧ crew.host.waiting = []

/-- In whatever order engines and the one who collects use the host, they agree on how the
threads have ended, and no outcome is lost. -/
theorem agreement_of_reachable {crew : Crew} (reachable : crew.Reachable) : crew.Agreement := by
  rcases reachable.sound_or_settled with sound | ⟨outcomes, settled⟩
  · refine ⟨sound.count_taken_le, fun answer given outcome good => sound.answered given good,
      fun joiner target parked operand refused => ?_,
      fun outcomes done => absurd done (sound.unfinished outcomes)⟩
    have listed : (crew.host.slot? target).isSome := sound.keeping.duties joiner _ parked
    have looked := crew.host.wake_looked joiner target
    generalize crew.host.wake joiner target = result at looked refused
    cases looked with
    | unknown missing =>
        rw [Host.slot?_leave] at missing
        simp [missing] at listed
    | known found => cases refused
    | circle found unfinished closes => cases refused
    | parked found clear => cases refused
    | taken found clear => cases refused
  · refine ⟨fun thread => (settled.handles thread).1, settled.answered,
      fun joiner target parked => ?_, fun others done => ?_⟩
    · rcases settled.ended joiner _ parked with ⟨ending, same⟩
      cases same
    · have same : outcomes = others := Collecting.done.inj (settled.finished.symm.trans done)
      subst same
      exact ⟨settled.ordered, settled.listed, settled.results,
        fun thread => (settled.handles thread).2, settled.forgotten, settled.quiet⟩

/-- Two engines wait for the same thread, which returns; the second one crashes later and is
collected. -/
theorem rivals_agree :
    ∃ crew : Crew, crew.Reachable ∧
      crew.collecting = .done [(1, ⟨.halted, 7, [], []⟩), (2, .crashed)] ∧
      (crew.answers.map fun answer => (answer.joiner, answer.target)) = [(0, 1), (2, 1)] ∧
      crew.Agreement := by
  have started := Reachable.start.step (@Step.takeId _ 0 rfl)
  have launched := started.step (@Step.launch _ 0 1 rfl rfl)
  have entered := launched.step (@Step.enter _ 0 1 rfl rfl)
  have second := ((entered.step (@Step.takeId _ 0 rfl)).step (@Step.launch _ 0 2 rfl rfl)).step
    (@Step.enter _ 0 2 rfl rfl)
  have taken := second.step (@Step.join _ 0 1 rfl)
  have parked := taken.step (@Step.join _ 2 1 rfl)
  have ended := parked.step (@Step.finish _ 1 (.returned ⟨.halted, 7, [], []⟩) rfl)
  have recorded := ended.step (@Step.record _ 0 1 _ rfl rfl)
  have known := recorded.step (@Step.wake _ 2 1 rfl)
  have left := known.step (@Step.leave _ 0 1 _ rfl)
  have crashed := left.step (@Step.finish _ 2 .crashed rfl)
  have atEnd := crashed.step (@Step.finish _ 0 (.returned ⟨.halted, 9, [], []⟩) rfl)
  have convened := atEnd.step (@Step.convene _ _ rfl rfl)
  have held := convened.step (@Step.collect _ rfl)
  have gathered := held.step (@Step.gather _ 2 _ rfl rfl)
  have complete := gathered.step (@Step.collect _ rfl)
  exact ⟨_, complete, rfl, rfl, agreement_of_reachable complete⟩

end Crew
end CommandMachine
