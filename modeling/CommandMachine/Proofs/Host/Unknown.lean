import CommandMachine.Proofs.Host.Deadlock
import Mathlib.Logic.Relation
namespace CommandMachine

/-!
# Threads that the host does not know

A new thread runs before its parent enters it into the table.  Numbers are given out in
order, so another engine can guess the number of the new thread and ask for it while it
runs already but is still unknown to the host.  Such a wait is refused, and it is the only
one: a thread that has been started is unknown exactly until its parent has entered it,
and from then on every wait for it finds it, until all threads have been collected.
-/

/-- A wait is refused since the host does not know the thread. -/
def JoinStep.IsUnknown (step : JoinStep) : Prop :=
  ∃ number, step = .refused (.unknownThread number)

theorem Host.Looked.isUnknown_iff {host : Host} {joiner target : ThreadId}
    {result : Host × JoinStep} (looked : Looked host joiner target result) :
    result.2.IsUnknown ↔ host.slot? target = none := by
  cases looked with
  | unknown missing => exact iff_of_true ⟨_, rfl⟩ missing
  | known found => simp [JoinStep.IsUnknown, found]
  | circle found unfinished closes => simp [JoinStep.IsUnknown, found]
  | parked found clear => simp [JoinStep.IsUnknown, found]
  | taken found clear => simp [JoinStep.IsUnknown, found]

theorem Host.listed_setSlot {host : Host} {thread : ThreadId}
    (listed : (host.slot? thread).isSome) (other : ThreadId) (slot : ThreadSlot) :
    ((host.setSlot other slot).slot? thread).isSome := by
  rw [slot?_setSlot]
  split
  · rfl
  · exact listed

/-- A look leaves in the table whoever stands there. -/
theorem Host.Looked.listed {host : Host} {joiner target thread : ThreadId}
    {result : Host × JoinStep} (looked : Looked host joiner target result)
    (listed : (host.slot? thread).isSome) : (result.1.slot? thread).isSome := by
  cases looked with
  | unknown missing => exact listed
  | known found => exact listed
  | circle found unfinished closes => exact listed
  | parked found clear => exact listed
  | taken found clear => exact listed_setSlot listed _ _

namespace Crew

variable {crew next later : Crew} {joiner target thread : ThreadId} {host : Host}
  {step : JoinStep}

/-! ## Between the start of a thread and its entry -/

/-- The parent of the thread has not entered it into the table yet. -/
def Pending (crew : Crew) (thread : ThreadId) : Prop :=
  ∃ parent, crew.duties parent = some (.starting thread)

theorem Registry.slot?_eq_none_iff (registry : crew.Registry) (spawned : crew.Spawned thread) :
    crew.host.slot? thread = none ↔ crew.Pending thread := by
  constructor
  · intro missing
    rcases registry.entered thread spawned.2 spawned.1 with listed | pending
    · simp [missing] at listed
    · exact pending
  · rintro ⟨parent, starting⟩
    exact (registry.starting parent thread starting).2.2

theorem Looks.isUnknown_iff (looks : crew.Looks joiner target host step)
    (differs : joiner ≠ target) : step.IsUnknown ↔ crew.host.slot? target = none := by
  cases looks with
  | first free =>
      rw [Host.beginJoin, if_neg differs]
      exact (crew.host.lookFor_looked joiner target).isUnknown_iff
  | again parked => exact (crew.host.wake_looked joiner target).isUnknown_iff

theorem Reachable.sound (reachable : crew.Reachable)
    (uncollected : ∀ outcomes, crew.collecting ≠ .done outcomes) : crew.Sound := by
  rcases reachable.sound_or_settled with sound | ⟨outcomes, settled⟩
  · exact sound
  · exact absurd settled.finished (uncollected outcomes)

/-- In whatever order the steps were taken, a wait for a thread that has been started is
refused as unknown exactly if its parent has not entered it yet.  An engine that was parked
is never refused so. -/
theorem isUnknown_iff_pending (reachable : crew.Reachable)
    (uncollected : ∀ outcomes, crew.collecting ≠ .done outcomes)
    (spawned : crew.Spawned target) (differs : joiner ≠ target)
    (looks : crew.Looks joiner target host step) :
    step.IsUnknown ↔ crew.Pending target ∧ crew.duties joiner = some .free := by
  have sound := reachable.sound uncollected
  rw [looks.isUnknown_iff differs, sound.registry.slot?_eq_none_iff spawned]
  refine (and_iff_left_of_imp fun pending => ?_).symm
  cases looks with
  | first free => exact free
  | again parked =>
      have listed : (crew.host.slot? target).isSome := sound.keeping.duties joiner _ parked
      rw [(sound.registry.slot?_eq_none_iff spawned).mpr pending] at listed
      cases listed

/-- The second thread runs already when the first one asks for it, but the main engine has
not entered it yet. -/
theorem overtaken_isUnknown :
    ∃ crew : Crew, crew.Reachable ∧ crew.collecting = .absent ∧ crew.Spawned 2 ∧
      crew.Looks 1 2 crew.host (.refused (.unknownThread 2)) := by
  have first := ((Reachable.start.step (@Step.takeId _ 0 rfl)).step
    (@Step.launch _ 0 1 rfl rfl)).step (@Step.enter _ 0 1 rfl rfl)
  have second := (first.step (@Step.takeId _ 0 rfl)).step (@Step.launch _ 0 2 rfl rfl)
  exact ⟨_, second, rfl, ⟨by decide, rfl⟩, .first rfl⟩

/-! ## From its entry on -/

theorem host_afterLook (crew : Crew) (joiner target : ThreadId) (looked : Host × JoinStep) :
    (crew.afterLook joiner target looked).host = looked.1 := by
  rcases looked with ⟨host, step⟩
  cases step <;> rfl

/-- No step but the last one of collecting takes a thread out of the table. -/
theorem Sound.listed_step (sound : crew.Sound) (step : crew.Step next)
    (listed : (crew.host.slot? thread).isSome) :
    (next.host.slot? thread).isSome ∨ ∃ outcomes, next.collecting = .done outcomes := by
  cases step with
  | takeId free => exact Or.inl listed
  | launch starting unborn => exact Or.inl listed
  | refuse starting unborn => exact Or.inl listed
  | enter starting born => exact Or.inl (Host.listed_setSlot listed _ _)
  | @join joiner target free =>
      rw [host_afterLook, Host.beginJoin]
      split
      · exact Or.inl listed
      · exact Or.inl ((crew.host.lookFor_looked joiner target).listed listed)
  | @wake joiner target parked =>
      rw [host_afterLook]
      exact Or.inl ((crew.host.wake_looked joiner target).listed listed)
  | record holding ended => exact Or.inl (Host.listed_setSlot listed _ _)
  | leave leaving => exact Or.inl listed
  | finish ending free => exact Or.inl listed
  | convene absent atEnd => exact Or.inl listed
  | collect looking =>
      have collected := sound.ascending.collect_collected
      generalize crew.host.collect = result at collected ⊢
      cases collected with
      | taken found => exact Or.inl (Host.listed_setSlot listed _ _)
      | parked busy => exact Or.inl listed
      | complete finished nobody => exact Or.inr ⟨_, rfl⟩
  | gather holding ended => exact Or.inl (Host.listed_setSlot listed _ _)

theorem Reachable.listed_steps (reachable : crew.Reachable)
    (steps : Relation.ReflTransGen Step crew later) (listed : (crew.host.slot? thread).isSome) :
    later.Reachable ∧
      ((later.host.slot? thread).isSome ∨ ∃ outcomes, later.collecting = .done outcomes) := by
  induction steps with
  | refl => exact ⟨reachable, Or.inl listed⟩
  | tail steps step ih =>
      rcases ih with ⟨between, known⟩
      refine ⟨between.step step, ?_⟩
      rcases between.sound_or_settled with sound | ⟨outcomes, settled⟩
      · rcases known with present | ⟨outcomes, done⟩
        · exact sound.listed_step step present
        · exact absurd done (sound.unfinished outcomes)
      · exact absurd step settled.final

/-- Once a thread stands in the table, no wait for it is refused as unknown, in whatever
order the steps are taken from then on, until all threads have been collected. -/
theorem not_isUnknown_of_listed (reachable : crew.Reachable)
    (listed : (crew.host.slot? target).isSome) (steps : Relation.ReflTransGen Step crew later)
    (uncollected : ∀ outcomes, later.collecting ≠ .done outcomes) (differs : joiner ≠ target)
    (looks : later.Looks joiner target host step) : ¬ step.IsUnknown := by
  rw [looks.isUnknown_iff differs]
  intro missing
  rcases (reachable.listed_steps steps listed).2 with present | ⟨outcomes, done⟩
  · rw [missing] at present
    cases present
  · exact uncollected outcomes done

end Crew
end CommandMachine
