import CommandMachine.Host.Supervisor
import CommandMachine.Proofs.Host.Sections
namespace CommandMachine

/-!
# A host that only the main engine waits at

If no thread ever waits for another one, there is at most one wait at a time, and nobody but
the main engine has a handle.  Then a supervisor is described by how the engines have ended
so far and by the thread that the main engine waits for, if it does.  Each operation of the
supervisor is described by what it does to these two.
-/

namespace Supervisor

/-- The supervisor keeps the given endings, where position `i` is that of engine `i`, and the
main engine waits for the given thread. -/
structure Attends (supervisor : Supervisor) (endings : List (Option Ending))
    (awaited : Option ThreadId) : Prop where
  inhabited : 0 < endings.length
  nextId : supervisor.host.nextId = endings.length
  ascending : supervisor.host.Ascending
  ended : ∀ thread, supervisor.ending? thread = (endings[thread]?).join
  listed : ∀ thread, (supervisor.host.slot? thread).isSome ↔
    thread ≠ .initial ∧ thread < endings.length
  joining : ∀ thread, supervisor.host.slot? thread = some .joining ↔ awaited = some thread
  finished : ∀ thread outcome, supervisor.host.slot? thread = some (.finished outcome) →
    ∃ ending, endings[thread]? = some (some ending) ∧ ending.outcome = outcome
  pending : supervisor.pending = (awaited.map fun thread => ⟨.initial, thread, true⟩).toList
  waiting : supervisor.host.waiting = (awaited.map fun thread => (.initial, thread)).toList

namespace Attends

variable {supervisor : Supervisor} {endings : List (Option Ending)} {awaited : Option ThreadId}
  {thread target : ThreadId}

theorem empty : Supervisor.empty.Attends [none] none := by
  refine ⟨Nat.one_pos, rfl, List.Pairwise.nil, fun thread => ?_, fun thread => ?_,
    fun thread => ?_, fun thread outcome found => ?_, rfl, rfl⟩
  · cases thread <;> rfl
  · constructor
    · intro found
      cases found
    · intro inside
      exact absurd (Nat.lt_one_iff.mp inside.2) inside.1
  · constructor
    · intro found
      cases found
    · intro waits
      cases waits
  · cases found

theorem spawn (attends : supervisor.Attends endings none) :
    supervisor.spawn.Attends (endings ++ [none]) none := by
  have slots (thread : ThreadId) : supervisor.spawn.host.slot? thread =
      if thread = endings.length then some .running else supervisor.host.slot? thread := by
    rw [← attends.nextId]
    exact Host.slot?_setSlot _ _ _ _
  refine ⟨by simp, ?_, attends.ascending.setSlot _ _, fun thread => ?_, fun thread => ?_,
    fun thread => ?_, fun thread outcome found => ?_, attends.pending, attends.waiting⟩
  · rw [List.length_append, List.length_singleton, ← attends.nextId]
    rfl
  · change supervisor.ending? thread = _
    rw [attends.ended, List.getElem?_append]
    split
    · rfl
    · rename_i outside
      rw [List.getElem?_eq_none (Nat.le_of_not_lt outside)]
      cases thread - endings.length <;> rfl
  · rw [slots, List.length_append, List.length_singleton]
    split
    · rename_i own
      subst own
      simp [ThreadId.initial, Nat.ne_of_gt attends.inhabited]
    · rename_i differs
      rw [attends.listed]
      exact and_congr_right fun _ => ⟨Nat.lt_succ_of_lt,
        fun inside => Nat.lt_of_le_of_ne (Nat.le_of_lt_succ inside) differs⟩
  · rw [slots]
    split
    · simp
    · exact attends.joining thread
  · rw [slots] at found
    split at found
    · cases found
    · rcases attends.finished thread outcome found with ⟨ending, present, same⟩
      have inside := (List.getElem?_eq_some_iff.mp present).1
      exact ⟨ending, (List.getElem?_append_left inside).trans present, same⟩

/-- An engine comes to its end. -/
theorem note (attends : supervisor.Attends endings awaited) (ending : Ending)
    (running : endings[thread]? = some none) :
    Attends { supervisor with endings := (thread, ending) :: supervisor.endings }
      (endings.set thread (some ending)) awaited := by
  have inside := (List.getElem?_eq_some_iff.mp running).1
  have length : (endings.set thread (some ending)).length = endings.length := List.length_set
  refine ⟨length ▸ attends.inhabited, attends.nextId.trans length.symm, attends.ascending,
    fun other => ?_, fun other => ?_, attends.joining, fun other outcome found => ?_,
    attends.pending, attends.waiting⟩
  · refine (Host.lookup_entry thread other ending _).trans ?_
    split
    · rename_i own
      rw [own, List.getElem?_set_self inside]
      rfl
    · rename_i differs
      rw [List.getElem?_set_ne (Ne.symm differs)]
      exact attends.ended other
  · rw [length]
    exact attends.listed other
  · rcases attends.finished other outcome found with ⟨known, present, same⟩
    have differs : thread ≠ other := by
      rintro rfl
      simp [running] at present
    exact ⟨known, (List.getElem?_set_ne differs).trans present, same⟩

/-- The outcome of a thread is recorded, and nobody waits any more. -/
theorem settle (attends : supervisor.Attends endings awaited) {next : Supervisor} {ending : Ending}
    (alone : ∀ other, awaited = some other → other = thread)
    (listed : thread ≠ .initial) (ended : endings[thread]? = some (some ending))
    (endings_eq : next.endings = supervisor.endings)
    (nextId : next.host.nextId = supervisor.host.nextId) (ascending : next.host.Ascending)
    (slots : ∀ other, next.host.slot? other =
      if other = thread then some (.finished ending.outcome) else supervisor.host.slot? other)
    (pending : next.pending = []) (waiting : next.host.waiting = []) :
    next.Attends endings none := by
  have inside := (List.getElem?_eq_some_iff.mp ended).1
  refine ⟨attends.inhabited, nextId.trans attends.nextId, ascending, fun other => ?_,
    fun other => ?_, fun other => ?_, fun other outcome found => ?_, pending, waiting⟩
  · rw [ending?, endings_eq]
    exact attends.ended other
  · rw [slots]
    split
    · rename_i own
      simp [own, listed, inside]
    · exact attends.listed other
  · rw [slots]
    split
    · simp
    · rename_i differs
      rw [attends.joining]
      constructor
      · intro waits
        exact absurd (alone other waits) differs
      · intro waits
        cases waits
  · rw [slots] at found
    split at found
    · rename_i own
      cases found
      exact ⟨ending, own ▸ ended, rfl⟩
    · exact attends.finished other outcome found

end Attends

/-! ## Waiting -/

/-- The ways in which a wait of the main engine can begin. -/
inductive Joined (endings : List (Option Ending)) (target : ThreadId) :
    Supervisor × Option JoinReply → Prop where
  | itself {next : Supervisor} {notices : List Notice} (own : target = .initial)
      (attends : next.Attends endings none) :
      Joined endings target (next, some ⟨notices, .error (.selfJoin target)⟩)
  | unknown {next : Supervisor} {notices : List Notice} (foreign : target ≠ .initial)
      (missing : endings[target]? = none) (attends : next.Attends endings none) :
      Joined endings target (next, some ⟨notices, .error (.unknownThread (Int64.ofNat target))⟩)
  | ended {next : Supervisor} {notices : List Notice} {ending : Ending}
      (foreign : target ≠ .initial) (ended : endings[target]? = some (some ending))
      (attends : next.Attends endings none) :
      Joined endings target (next, some ⟨notices, .ok ending.outcome⟩)
  | waits {next : Supervisor} (foreign : target ≠ .initial)
      (running : endings[target]? = some none) (attends : next.Attends endings (some target)) :
      Joined endings target (next, none)

namespace Attends

variable {supervisor : Supervisor} {endings : List (Option Ending)} {awaited : Option ThreadId}
  {thread target : ThreadId}

theorem closesCycle_eq_false (attends : supervisor.Attends endings none)
    (foreign : target ≠ .initial) : supervisor.host.closesCycle .initial target = false := by
  rw [Bool.eq_false_iff]
  intro closes
  rcases (supervisor.host.closesCycle_iff_walk _ _).mp closes with ⟨waits, met⟩
  cases waits with
  | zero => exact foreign (Option.some.inj met)
  | succ waits =>
      rw [Host.walk, Host.awaits?_eq_none_of_nil attends.waiting] at met
      cases met

theorem missing (attends : supervisor.Attends endings awaited) (foreign : target ≠ .initial)
    (absent : supervisor.host.slot? target = none) : endings[target]? = none := by
  refine List.getElem?_eq_none (Nat.le_of_not_lt fun inside => ?_)
  have present := (attends.listed target).mpr ⟨foreign, inside⟩
  simp [absent] at present

/-- The main engine takes the handle of a thread that has ended, and gives it back at
once. -/
theorem settled (attends : supervisor.Attends endings none) {ending : Ending}
    (foreign : target ≠ .initial) (ended : endings[target]? = some (some ending)) :
    Attends { supervisor with
      host := (((supervisor.host.setSlot target .joining).await .initial target).record target
        ending.outcome).leave .initial } endings none := by
  have ascending := (attends.ascending.setSlot target .joining).setSlot target
    (.finished ending.outcome)
  refine attends.settle (fun _ => nofun) foreign ended rfl rfl ascending (fun other => ?_)
    attends.pending ?_
  · simp only [Host.slot?_leave, Host.record, Host.slot?_setSlot, Host.slot?_await]
    split
    · rfl
    · rfl
  · simp [Host.leave, Host.record, Host.await, Host.setSlot, attends.waiting]

/-- The main engine takes the handle of a thread that runs. -/
theorem parks (attends : supervisor.Attends endings none)
    (found : supervisor.host.slot? target = some .running) :
    Attends { supervisor with
      host := (supervisor.host.setSlot target .joining).await .initial target
      pending := ⟨.initial, target, true⟩ :: supervisor.pending } endings (some target) := by
  have listed (thread : ThreadId) :
      (((supervisor.host.setSlot target .joining).await .initial target).slot? thread).isSome =
        (supervisor.host.slot? thread).isSome :=
    Host.isSome_slot?_setSlot found thread
  refine ⟨attends.inhabited, attends.nextId, attends.ascending.setSlot target .joining,
    attends.ended, fun thread => ?_, fun thread => ?_, fun thread outcome recorded => ?_, ?_, ?_⟩
  · rw [listed]
    exact attends.listed thread
  · rw [Host.slot?_await, Host.slot?_setSlot]
    split
    · rename_i own
      simp [own]
    · rename_i differs
      rw [attends.joining]
      simp [Ne.symm differs]
  · rw [Host.slot?_await, Host.slot?_setSlot] at recorded
    split at recorded
    · cases recorded
    · exact attends.finished thread outcome recorded
  · rw [attends.pending]
    rfl
  · simp [Host.await, Host.leave, Host.setSlot, attends.waiting]

theorem join (attends : supervisor.Attends endings none) (target : ThreadId) :
    Joined endings target (supervisor.join .initial target) := by
  unfold Supervisor.join Host.beginJoin
  by_cases own : target = .initial
  · rw [if_pos own.symm]
    exact .itself own attends
  · rw [if_neg (Ne.symm own)]
    have looked := supervisor.host.lookFor_looked .initial target
    generalize supervisor.host.lookFor .initial target = result at looked ⊢
    cases looked with
    | unknown absent => exact .unknown own (attends.missing own absent) attends
    | known found =>
        rcases attends.finished target _ found with ⟨ending, ended, rfl⟩
        exact .ended own ended attends
    | circle found unfinished closes =>
        simp [attends.closesCycle_eq_false own] at closes
    | parked found clear =>
        cases (attends.joining target).mp found
    | taken found clear =>
        have inside := ((attends.listed target).mp (by rw [found]; rfl)).2
        have known := attends.ended target
        dsimp only
        rw [known]
        cases standing : endings[target]? with
        | none => exact absurd inside (Nat.not_lt.mpr (List.getElem?_eq_none_iff.mp standing))
        | some ending? =>
            cases ending? with
            | none => exact .waits own standing (attends.parks found)
            | some ending => exact .ended own standing (attends.settled own standing)

/-! ## Ends -/

/-- The end of an engine that nobody waits for. -/
theorem finish_alone (attends : supervisor.Attends endings awaited) (ending : Ending)
    (running : endings[thread]? = some none) (alone : awaited ≠ some thread) :
    ∃ next, supervisor.finish thread ending = (next, []) ∧
      next.Attends (endings.set thread (some ending)) awaited := by
  have nobody : supervisor.pending.find?
      (fun wait => wait.target = thread && wait.holdsHandle) = none := by
    rw [attends.pending, List.find?_eq_none]
    intro wait member
    rcases Option.map_eq_some_iff.mp (Option.mem_toList.mp member) with ⟨other, waits, rfl⟩
    have differs : other ≠ thread := by
      rintro rfl
      exact alone waits
    simp [differs]
  refine ⟨_, ?_, attends.note ending running⟩
  unfold Supervisor.finish
  dsimp only
  rw [nobody]

/-- The end of the thread that the main engine waits for. -/
theorem finish_awaited (attends : supervisor.Attends endings (some thread)) (ending : Ending)
    (running : endings[thread]? = some none) :
    ∃ next reply, supervisor.finish thread ending = (next, [(.initial, reply)]) ∧
      reply.result = .ok ending.outcome ∧
      next.Attends (endings.set thread (some ending)) none := by
  have inside := (List.getElem?_eq_some_iff.mp running).1
  have joining := (attends.joining thread).mpr rfl
  have foreign := ((attends.listed thread).mp (by rw [joining]; rfl)).1
  have noted := attends.note ending running
  have pending : supervisor.pending = [⟨.initial, thread, true⟩] := attends.pending
  refine ⟨⟨(supervisor.host.record thread ending.outcome).leave .initial,
    (thread, ending) :: supervisor.endings, []⟩,
    ⟨ending.notices thread ++ [.hostJoined .initial thread ending.outcome.status],
      .ok ending.outcome⟩, ?_, rfl, ?_⟩
  · simp [Supervisor.finish, pending, Supervisor.settle, wakeAll]
  · refine noted.settle (fun other same => (Option.some.inj same).symm) foreign
      (List.getElem?_set_self inside) rfl rfl (attends.ascending.setSlot thread _) (fun other => ?_)
      rfl ?_
    · rw [Host.slot?_leave]
      exact Host.slot?_setSlot _ _ _ _
    · simp [Host.leave, Host.record, Host.setSlot, attends.waiting]

/-! ## Collecting -/

theorem not_busy (attends : supervisor.Attends endings none) : supervisor.host.isBusy = false := by
  have waiting : supervisor.host.waiting = [] := attends.waiting
  rw [Host.isBusy, waiting, List.any_eq_false.mpr]
  · rfl
  · rintro ⟨thread, slot⟩ member
    have found := attends.ascending.slot?_eq_some.mpr member
    have idle : slot ≠ .joining := by
      rintro rfl
      cases (attends.joining thread).mp found
    simpa using idle

theorem mem_outcomes (attends : supervisor.Attends endings none)
    (finished : ∀ thread slot, supervisor.host.slot? thread = some slot →
      ∃ outcome, slot = .finished outcome) {outcome : Outcome} :
    (thread, outcome) ∈ supervisor.host.outcomes ↔ thread ≠ .initial ∧
      ∃ ending, endings[thread]? = some (some ending) ∧ ending.outcome = outcome := by
  rw [Host.mem_outcomes, ← attends.ascending.slot?_eq_some]
  constructor
  · intro found
    have listed := (attends.listed thread).mp (by rw [found]; rfl)
    exact ⟨listed.1, attends.finished thread outcome found⟩
  · rintro ⟨foreign, ending, ended, rfl⟩
    have inside := (List.getElem?_eq_some_iff.mp ended).1
    rcases Option.isSome_iff_exists.mp ((attends.listed thread).mpr ⟨foreign, inside⟩) with
      ⟨slot, found⟩
    rcases finished thread slot found with ⟨outcome, rfl⟩
    rcases attends.finished thread outcome found with ⟨known, present, rfl⟩
    cases ended.symm.trans present
    exact found

/-- When all threads have ended, their outcomes are collected in ascending order. -/
theorem collectFrom (attends : supervisor.Attends endings none)
    (complete : ∀ thread < endings.length, ∃ ending, endings[thread]? = some (some ending))
    {tries : Nat} (enough : supervisor.host.active < tries) :
    ((supervisor.collectFrom tries).2.2.Pairwise fun left right => left.1 < right.1) ∧
      ∀ thread outcome, (thread, outcome) ∈ (supervisor.collectFrom tries).2.2 ↔
        thread ≠ .initial ∧
          ∃ ending, endings[thread]? = some (some ending) ∧ ending.outcome = outcome := by
  induction tries generalizing supervisor with
  | zero => exact absurd enough (Nat.not_lt_zero _)
  | succ tries ih =>
      have collected := attends.ascending.collect_collected
      unfold Supervisor.collectFrom
      generalize supervisor.host.collect = result at collected ⊢
      cases collected with
      | parked busy => simp [attends.not_busy] at busy
      | complete finished nobody =>
          exact ⟨attends.ascending.outcomes, fun thread outcome => attends.mem_outcomes finished⟩
      | @taken thread found =>
          have listed := (attends.listed thread).mp (by rw [found]; rfl)
          rcases complete thread listed.2 with ⟨ending, ended⟩
          have known : supervisor.ending? thread = some ending := by
            rw [attends.ended, ended]
            rfl
          dsimp only
          rw [known]
          dsimp only
          have recorded : Attends { supervisor with
              host := (supervisor.host.setSlot thread .joining).record thread ending.outcome }
              endings none := by
            refine attends.settle (fun _ => nofun) listed.1 ended rfl rfl
              ((attends.ascending.setSlot thread .joining).setSlot thread _) (fun other => ?_)
              attends.pending attends.waiting
            simp only [Host.record, Host.slot?_setSlot]
            split
            · rfl
            · rfl
          have taken := attends.ascending.active_setSlot found .joining
          have settled := (attends.ascending.setSlot thread .joining).active_setSlot
            ((Host.slot?_setSlot ..).trans (if_pos rfl)) (.finished ending.outcome)
          have fewer : ((supervisor.host.setSlot thread .joining).record thread
              ending.outcome).active < tries := by
            simp only [ThreadSlot.isFinished, Bool.false_eq_true, if_false, if_true]
              at taken settled
            change ((supervisor.host.setSlot thread .joining).setSlot thread _).active < tries
            omega
          exact ih recorded fewer

theorem collect (attends : supervisor.Attends endings none)
    (complete : ∀ thread < endings.length, ∃ ending, endings[thread]? = some (some ending)) :
    (supervisor.collect.2.2.Pairwise fun left right => left.1 < right.1) ∧
      ∀ thread outcome, (thread, outcome) ∈ supervisor.collect.2.2 ↔ thread ≠ .initial ∧
        ∃ ending, endings[thread]? = some (some ending) ∧ ending.outcome = outcome :=
  attends.collectFrom complete (Nat.lt_succ_of_le List.countP_le_length)

end Attends

end Supervisor
end CommandMachine
