import CommandMachine.Proofs.Host.Joins
namespace CommandMachine

/-!
# Engines that wait for each other

A wait is refused as a circle if the chain of waits leads from the thread back to the one
who asks.  The waits of a chain may be out of date: a wait is in the graph until its engine
takes it back, which may be long after the thread has ended.  On a chain that leads to an
engine which has not ended, however, all waits are for engines that have not ended either.
So nobody is refused without need, and the refusals leave no way to get stuck.
-/

namespace Crew

/-- An engine that has been started and has not ended. -/
def Unfinished (crew : Crew) (engine : ThreadId) : Prop :=
  ∃ duty, crew.duties engine = some duty ∧ ∀ ending, duty ≠ .ended ending

/-- An engine that waits for a thread, with its handle or without it, while the thread has
not ended. -/
def Blocked (crew : Crew) (engine thread : ThreadId) : Prop :=
  (crew.duties engine = some (.parked thread) ∨ crew.duties engine = some (.holding thread)) ∧
    crew.Unfinished thread

/-- A look at the table on behalf of an engine, with the host it looks at and with what it
leads to. -/
inductive Looks (crew : Crew) (joiner target : ThreadId) : Host → JoinStep → Prop where
  | first (free : crew.duties joiner = some .free) :
      Looks crew joiner target crew.host (crew.host.beginJoin joiner target).2
  | again (parked : crew.duties joiner = some (.parked target)) :
      Looks crew joiner target (crew.host.leave joiner) (crew.host.wake joiner target).2

section Chains

variable {crew : Crew} {joiner target engine : ThreadId}

theorem Blocked.unfinished {thread : ThreadId} (blocked : crew.Blocked engine thread) :
    crew.Unfinished engine := by
  rcases blocked.1 with parked | holding
  · exact ⟨_, parked, by simp⟩
  · exact ⟨_, holding, by simp⟩

theorem Unfinished.not_ended (unfinished : crew.Unfinished engine) (ending : Ending) :
    crew.duties engine ≠ some (.ended ending) := by
  rcases unfinished with ⟨duty, found, active⟩
  intro ended
  exact active ending (Option.some.inj (found.symm.trans ended))

/-- Who waits has not ended. -/
theorem Links.unfinished (links : crew.Links) {next : ThreadId}
    (awaits : crew.host.awaits? engine = some next) : crew.Unfinished engine := by
  rw [links.edges] at awaits
  rcases Option.bind_eq_some_iff.mp awaits with ⟨duty, found, waits⟩
  refine ⟨duty, found, ?_⟩
  rintro ending rfl
  cases waits

/-- Everybody on a chain waits, except for its last engine. -/
theorem Links.unfinished_of_walk (links : crew.Links) {waits : Nat}
    (met : crew.host.walk waits engine = some joiner) (last : crew.Unfinished joiner) :
    crew.Unfinished engine := by
  cases waits with
  | zero =>
      rw [Option.some.inj met]
      exact last
  | succ waits =>
      rw [Host.walk] at met
      rcases Option.bind_eq_some_iff.mp met with ⟨next, awaits, -⟩
      exact links.unfinished awaits

/-- A wait for an engine that has not ended is not out of date. -/
theorem Sound.blocked (sound : crew.Sound) {next : ThreadId}
    (awaits : crew.host.awaits? engine = some next) (active : crew.Unfinished next) :
    crew.Blocked engine next := by
  rw [sound.links.edges] at awaits
  rcases Option.bind_eq_some_iff.mp awaits with ⟨duty, found, waits⟩
  refine ⟨?_, active⟩
  cases duty with
  | free => cases waits
  | starting child => cases waits
  | parked thread =>
      cases waits
      exact Or.inl found
  | holding thread =>
      cases waits
      exact Or.inr found
  | leaving thread outcome =>
      cases waits
      have recorded := sound.keeping.duties engine _ found
      rcases sound.keeping.finished next outcome recorded with ⟨ending, ended, -⟩
      exact absurd ended (active.not_ended ending)
  | ended ending => cases waits

theorem Looks.circle_iff {host : Host} {step : JoinStep}
    (looks : crew.Looks joiner target host step)
    (differs : joiner ≠ target) :
    step = .refused (.joinCycle target) ↔
      (∃ slot, host.slot? target = some slot ∧ slot.isFinished = false) ∧
        ∃ waits, host.walk waits target = some joiner := by
  cases looks with
  | first free =>
      rw [Host.beginJoin, if_neg differs]
      exact (crew.host.lookFor_looked joiner target).circle_iff
  | again parked => exact (crew.host.wake_looked joiner target).circle_iff

theorem Looks.unfinished {host : Host} {step : JoinStep}
    (looks : crew.Looks joiner target host step) : crew.Unfinished joiner := by
  cases looks with
  | first free => exact ⟨_, free, by simp⟩
  | again parked => exact ⟨_, parked, by simp⟩

/-- The waits that an engine sees are there. -/
theorem Looks.walk {host : Host} {step : JoinStep} (looks : crew.Looks joiner target host step)
    {waits : Nat} {goal : ThreadId} (met : host.walk waits engine = some goal) :
    crew.host.walk waits engine = some goal := by
  cases looks with
  | first free => exact met
  | again parked => exact Host.walk_of_leave met

/-- All engines on the chain that leads to the one who looks are blocked. -/
theorem Looks.blocked (sound : crew.Sound) {host : Host} {step : JoinStep}
    (looks : crew.Looks joiner target host step) {waits earlier : Nat}
    (met : host.walk waits target = some joiner) (before : earlier < waits) :
    ∃ engine next, host.walk earlier target = some engine ∧
      host.walk (earlier + 1) target = some next ∧ crew.Blocked engine next := by
  rcases Host.awaits?_of_walk met before with ⟨engine, next, here, awaits⟩
  have single : host.walk 1 engine = some next := by rw [Host.walk_one, awaits]
  have onward : host.walk (earlier + 1) target = some next := by
    rw [Host.walk_add, here]
    exact single
  obtain ⟨rest, rfl⟩ := Nat.exists_eq_add_of_le before
  rw [Host.walk_add, onward] at met
  -- The rest of the chain still leads to an engine that has not ended.
  have active : crew.Unfinished next :=
    sound.links.unfinished_of_walk (looks.walk met) looks.unfinished
  have present : crew.host.awaits? engine = some next := by
    rw [← Host.walk_one]
    exact looks.walk single
  exact ⟨engine, next, here, onward, sound.blocked present active⟩

end Chains

/-! ## No way to get stuck -/

/-- If everybody were blocked, the chain of waits would go on for ever. -/
theorem walk_of_all_blocked {crew : Crew} (links : crew.Links)
    (stuck : ∀ engine, crew.Unfinished engine → ∃ thread, crew.Blocked engine thread)
    (waits : Nat) {engine : ThreadId} (active : crew.Unfinished engine) :
    ∃ goal, crew.host.walk waits engine = some goal := by
  induction waits generalizing engine with
  | zero => exact ⟨engine, rfl⟩
  | succ waits ih =>
      rcases stuck engine active with ⟨thread, blocked, unfinished⟩
      rcases ih unfinished with ⟨goal, met⟩
      refine ⟨goal, ?_⟩
      have awaits : crew.host.awaits? engine = some thread := by
        rw [links.edges]
        rcases blocked with parked | holding
        · rw [parked]
          rfl
        · rw [holding]
          rfl
      rw [Host.walk, awaits]
      exact met

theorem Links.exists_unblocked {crew : Crew} (links : crew.Links) {engine : ThreadId}
    (active : crew.Unfinished engine) :
    ∃ other, crew.Unfinished other ∧ ∀ thread, ¬ crew.Blocked other thread := by
  by_contra none
  push Not at none
  -- A chain that is longer than the list of waits comes back to an engine it has met.
  rcases walk_of_all_blocked links none (crew.host.waiting.length + 1) active with ⟨goal, met⟩
  rcases Host.walk_bounded met with ⟨fewer, few, early⟩
  obtain ⟨rest, same⟩ := Nat.exists_eq_add_of_le few
  have circle : crew.host.walk (rest + 1) goal = some goal := by
    rw [same, Nat.add_assoc, Host.walk_add, early] at met
    exact met
  exact links.acyclic goal (rest + 1) (Nat.succ_pos rest) circle

/-- Waits never close a circle, only those are refused that would, and somebody can always
go on. -/
structure DeadlockFree (crew : Crew) : Prop where
  /-- Nobody waits for itself along the waits of others. -/
  acyclic : crew.host.Acyclic
  /-- A wait is refused as a circle exactly if the thread has no known outcome and its chain
  leads to the one who asks. -/
  refused : ∀ joiner target host step, joiner ≠ target → crew.Looks joiner target host step →
    (step = .refused (.joinCycle target) ↔
      (∃ slot, host.slot? target = some slot ∧ slot.isFinished = false) ∧
        ∃ waits, host.walk waits target = some joiner)
  /-- Then all engines on the chain before the one who asks really wait. -/
  chained : ∀ joiner target host step waits, crew.Looks joiner target host step →
    step = .refused (.joinCycle target) → host.walk waits target = some joiner →
    ∀ earlier < waits, ∃ engine next, host.walk earlier target = some engine ∧
      host.walk (earlier + 1) target = some next ∧ crew.Blocked engine next
  /-- As long as there is an engine that has not ended, one of them does not wait for
  another one. -/
  unblocked : ∀ engine, crew.Unfinished engine →
    ∃ other, crew.Unfinished other ∧ ∀ thread, ¬ crew.Blocked other thread

/-- In whatever order engines and the one who collects use the host, nobody gets stuck and
nobody is refused without need. -/
theorem deadlockFree_of_reachable {crew : Crew} (reachable : crew.Reachable) :
    crew.DeadlockFree := by
  rcases reachable.sound_or_settled with sound | ⟨outcomes, settled⟩
  · exact ⟨sound.links.acyclic, fun _ _ _ _ differs looks => looks.circle_iff differs,
      fun _ _ _ _ _ looks _ met _ before => looks.blocked sound met before,
      fun _ active => sound.links.exists_unblocked active⟩
  · have atEnd {engine : ThreadId} (active : crew.Unfinished engine) : False := by
      rcases active with ⟨duty, found, unfinished⟩
      rcases settled.ended engine duty found with ⟨ending, same⟩
      exact unfinished ending same
    refine ⟨fun engine waits positive circle => ?_, fun _ _ _ _ differs looks =>
      looks.circle_iff differs, fun _ _ _ _ _ looks => (atEnd looks.unfinished).elim,
      fun _ active => (atEnd active).elim⟩
    obtain ⟨rest, rfl⟩ := Nat.exists_eq_succ_of_ne_zero (Nat.ne_of_gt positive)
    rw [Host.walk, Host.awaits?_eq_none_of_nil settled.quiet] at circle
    cases circle

/-- The first thread waits for the second one, which is refused when it wants to wait for the
first one. -/
theorem mutual_deadlockFree :
    ∃ crew : Crew, crew.Reachable ∧ crew.Looks 2 1 crew.host (.refused (.joinCycle 1)) ∧
      crew.Blocked 1 2 ∧ crew.DeadlockFree := by
  have first := ((Reachable.start.step (@Step.takeId _ 0 rfl)).step
    (@Step.launch _ 0 1 rfl rfl)).step (@Step.enter _ 0 1 rfl rfl)
  have second := ((first.step (@Step.takeId _ 0 rfl)).step (@Step.launch _ 0 2 rfl rfl)).step
    (@Step.enter _ 0 2 rfl rfl)
  have waiting := second.step (@Step.join _ 1 2 rfl)
  exact ⟨_, waiting, .first rfl, ⟨Or.inr rfl, _, rfl, by simp⟩, deadlockFree_of_reachable waiting⟩

end Crew
end CommandMachine
