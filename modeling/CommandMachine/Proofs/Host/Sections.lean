import CommandMachine.Host.Table
import Mathlib.Data.List.Nodup
import Mathlib.Data.List.Perm.Subperm
import Mathlib.Data.Nat.Find
namespace CommandMachine

/-!
# What the sections of a host do

The table of a host is read through `slot?` and its waits through `awaits?`, and each
section is described by what it does to these two.  Following the waits from an engine
gives its chain.  The search for a circle goes along a chain for a bounded number of
waits; the bound is shown to be no restriction.
-/

namespace Host

/-! ## The table -/

theorem lookup_entry {α : Type} (key other : ThreadId) (present : α)
    (rest : List (ThreadId × α)) :
    ((key, present) :: rest).lookup other =
      if other = key then some present else rest.lookup other := by
  by_cases same : other = key
  · simp [same]
  · rw [List.lookup_cons, beq_false_of_ne same, if_neg same]

theorem lookup_insertSlot (thread other : ThreadId) (slot : ThreadSlot)
    (slots : List (ThreadId × ThreadSlot)) :
    (insertSlot thread slot slots).lookup other =
      if other = thread then some slot else slots.lookup other := by
  induction slots with
  | nil => exact lookup_entry thread other slot []
  | cons entry rest ih =>
      rcases entry with ⟨key, present⟩
      simp only [insertSlot]
      split
      · exact lookup_entry thread other slot _
      · split
        · rename_i equal
          subst equal
          rw [lookup_entry, lookup_entry]
          by_cases same : other = thread
          · rw [if_pos same, if_pos same]
          · rw [if_neg same, if_neg same, if_neg same]
        · rename_i differs
          rw [lookup_entry, lookup_entry, ih]
          by_cases same : other = thread
          · subst same
            rw [if_neg differs, if_pos rfl, if_pos rfl]
          · rw [if_neg same, if_neg same]

section Reading

variable (host : Host) (thread other joiner target : ThreadId) (slot : ThreadSlot)

@[simp] theorem slot?_setSlot :
    (host.setSlot thread slot).slot? other =
      if other = thread then some slot else host.slot? other :=
  lookup_insertSlot thread other slot host.slots

@[simp] theorem slot?_leave : (host.leave joiner).slot? other = host.slot? other := rfl

@[simp] theorem slot?_await : (host.await joiner target).slot? other = host.slot? other := rfl

@[simp] theorem awaits?_setSlot :
    (host.setSlot thread slot).awaits? other = host.awaits? other := rfl

@[simp] theorem awaits?_leave :
    (host.leave joiner).awaits? other = if other = joiner then none else host.awaits? other := by
  unfold awaits? leave
  dsimp only
  induction host.waiting with
  | nil => simp
  | cons entry rest ih =>
      rcases entry with ⟨key, goal⟩
      by_cases own : key = joiner
      · subst own
        rw [List.filter_cons_of_neg (by simp), ih, lookup_entry]
        by_cases same : other = key
        · rw [if_pos same, if_pos same]
        · rw [if_neg same, if_neg same, if_neg same]
      · rw [List.filter_cons_of_pos (by simpa using own), lookup_entry, lookup_entry, ih]
        by_cases same : other = key
        · subst same
          rw [if_pos rfl, if_neg own, if_pos rfl]
        · rw [if_neg same, if_neg same]

@[simp] theorem awaits?_await :
    (host.await joiner target).awaits? other =
      if other = joiner then some target else host.awaits? other := by
  have kept := host.awaits?_leave other joiner
  refine (lookup_entry joiner other target _).trans ?_
  by_cases same : other = joiner
  · rw [if_pos same, if_pos same]
  · rw [if_neg same] at kept ⊢
    rw [if_neg same]
    exact kept

end Reading

/-- Whoever stands in the table stays there when a slot of it changes. -/
theorem isSome_slot?_setSlot {host : Host} {thread : ThreadId} {before after : ThreadSlot}
    (found : host.slot? thread = some before) (other : ThreadId) :
    ((host.setSlot thread after).slot? other).isSome = (host.slot? other).isSome := by
  rw [slot?_setSlot]
  split
  · rename_i own
    rw [own, found]
    rfl
  · rfl

theorem awaits?_eq_none_of_nil {host : Host} (nobody : host.waiting = []) (engine : ThreadId) :
    host.awaits? engine = none := by
  rw [awaits?, nobody]
  rfl

/-- The table is in ascending order of the threads. -/
def Ascending (host : Host) : Prop :=
  host.slots.Pairwise fun left right => left.1 < right.1

theorem mem_insertSlot {thread : ThreadId} {slot : ThreadSlot}
    {slots : List (ThreadId × ThreadSlot)} {entry : ThreadId × ThreadSlot}
    (member : entry ∈ insertSlot thread slot slots) : entry = (thread, slot) ∨ entry ∈ slots := by
  induction slots with
  | nil => exact Or.inl (List.mem_singleton.mp member)
  | cons first rest ih =>
      simp only [insertSlot] at member
      split at member
      · exact List.mem_cons.mp member
      · split at member
        · rcases List.mem_cons.mp member with new | old
          · exact Or.inl new
          · exact Or.inr (List.mem_cons_of_mem _ old)
        · rcases List.mem_cons.mp member with new | old
          · exact Or.inr (new ▸ List.mem_cons_self)
          · exact (ih old).imp id (List.mem_cons_of_mem _)

theorem pairwise_insertSlot (thread : ThreadId) (slot : ThreadSlot)
    {slots : List (ThreadId × ThreadSlot)}
    (ascending : slots.Pairwise fun left right => left.1 < right.1) :
    (insertSlot thread slot slots).Pairwise fun left right => left.1 < right.1 := by
  induction slots with
  | nil => exact List.pairwise_singleton _ _
  | cons first rest ih =>
      have later := List.pairwise_cons.mp ascending
      simp only [insertSlot]
      split
      · rename_i before
        refine List.pairwise_cons.mpr ⟨fun entry member => ?_, ascending⟩
        rcases List.mem_cons.mp member with rfl | old
        · exact before
        · exact Nat.lt_trans before (later.1 entry old)
      · split
        · rename_i equal
          exact List.pairwise_cons.mpr ⟨fun entry old => equal ▸ later.1 entry old, later.2⟩
        · rename_i outside differs
          refine List.pairwise_cons.mpr ⟨fun entry member => ?_, ih later.2⟩
          rcases mem_insertSlot member with rfl | old
          · exact Nat.lt_of_le_of_ne (Nat.le_of_not_lt outside) (Ne.symm differs)
          · exact later.1 entry old

theorem Ascending.setSlot {host : Host} (ascending : host.Ascending) (thread : ThreadId)
    (slot : ThreadSlot) : (host.setSlot thread slot).Ascending :=
  pairwise_insertSlot thread slot ascending

theorem lookup_eq_some_of_pairwise {slots : List (ThreadId × ThreadSlot)}
    (ascending : slots.Pairwise fun left right => left.1 < right.1) {thread : ThreadId}
    {slot : ThreadSlot} : slots.lookup thread = some slot ↔ (thread, slot) ∈ slots := by
  induction slots with
  | nil => simp
  | cons entry rest ih =>
      rcases entry with ⟨key, present⟩
      have later := List.pairwise_cons.mp ascending
      rw [lookup_entry, List.mem_cons]
      by_cases same : thread = key
      · subst same
        have alone : (thread, slot) ∉ rest :=
          fun member => Nat.lt_irrefl thread (later.1 (thread, slot) member)
        simp [alone, eq_comm]
      · simp [same, ih later.2]

theorem Ascending.slot?_eq_some {host : Host} (ascending : host.Ascending) {thread : ThreadId}
    {slot : ThreadSlot} : host.slot? thread = some slot ↔ (thread, slot) ∈ host.slots :=
  lookup_eq_some_of_pairwise ascending

theorem insertSlot_of_split {thread : ThreadId} {before after : ThreadSlot}
    {earlier later : List (ThreadId × ThreadSlot)}
    (ascending : (earlier ++ (thread, before) :: later).Pairwise
      fun left right => left.1 < right.1) :
    insertSlot thread after (earlier ++ (thread, before) :: later) =
      earlier ++ (thread, after) :: later := by
  induction earlier with
  | nil =>
      change (if thread < thread then _ else if thread = thread then _ else _) = _
      rw [if_neg (Nat.lt_irrefl thread), if_pos rfl]
      rfl
  | cons entry rest ih =>
      have order := List.pairwise_cons.mp ascending
      have below : entry.1 < thread := order.1 (thread, before) (by simp)
      change (if thread < entry.1 then _ else if thread = entry.1 then _ else _) = _
      rw [if_neg (Nat.lt_asymm below), if_neg (Nat.ne_of_gt below)]
      exact congrArg (entry :: ·) (ih order.2)

/-- How the number of threads without a known outcome changes with a slot. -/
theorem Ascending.active_setSlot {host : Host} (ascending : host.Ascending) {thread : ThreadId}
    {before : ThreadSlot} (found : host.slot? thread = some before) (after : ThreadSlot) :
    (host.setSlot thread after).active + (if before.isFinished then 0 else 1) =
      host.active + (if after.isFinished then 0 else 1) := by
  rcases List.append_of_mem (ascending.slot?_eq_some.mp found) with ⟨earlier, later, split⟩
  have ordered : (earlier ++ (thread, before) :: later).Pairwise
      fun left right => left.1 < right.1 := split ▸ ascending
  have changed : (host.setSlot thread after).slots = earlier ++ (thread, after) :: later := by
    rw [← insertSlot_of_split ordered, ← split]
    rfl
  rw [active, active, changed, split, List.countP_append, List.countP_append, List.countP_cons,
    List.countP_cons]
  cases before.isFinished <;> cases after.isFinished <;> simp [Nat.add_assoc]

/-! ## Chains of waits -/

/-- The engine that is met after a number of waits. -/
def walk (host : Host) : (waits : Nat) → (engine : ThreadId) → Option ThreadId
  | 0, engine => some engine
  | waits + 1, engine => (host.awaits? engine).bind (host.walk waits)

theorem walk_one (host : Host) (engine : ThreadId) :
    host.walk 1 engine = host.awaits? engine := by
  rw [walk]
  cases host.awaits? engine <;> rfl

theorem walk_add (host : Host) (first second : Nat) (engine : ThreadId) :
    host.walk (first + second) engine = (host.walk first engine).bind (host.walk second) := by
  induction first generalizing engine with
  | zero => simp [walk]
  | succ first ih =>
      rw [Nat.add_right_comm, walk, walk]
      cases host.awaits? engine with
      | none => rfl
      | some next => exact ih next

theorem walk_congr {host other : Host}
    (waits : ∀ engine, other.awaits? engine = host.awaits? engine) (count : Nat)
    (engine : ThreadId) : other.walk count engine = host.walk count engine := by
  induction count generalizing engine with
  | zero => rfl
  | succ count ih =>
      rw [walk, walk, waits]
      cases host.awaits? engine with
      | none => rfl
      | some next => exact ih next

/-- An engine on a chain that is not its last one waits. -/
theorem awaits?_of_walk {host : Host} {waits earlier : Nat} {engine goal : ThreadId}
    (met : host.walk waits engine = some goal) (before : earlier < waits) :
    ∃ current next, host.walk earlier engine = some current ∧
      host.awaits? current = some next := by
  obtain ⟨rest, rfl⟩ := Nat.exists_eq_add_of_lt before
  rw [Nat.add_assoc, walk_add] at met
  rcases Option.bind_eq_some_iff.mp met with ⟨current, reached, onward⟩
  rw [walk] at onward
  rcases Option.bind_eq_some_iff.mp onward with ⟨next, waits, -⟩
  exact ⟨current, next, reached, waits⟩

theorem meets_iff (host : Host) (goal : ThreadId) (steps : Nat) (current : ThreadId) :
    host.meets goal steps current = true ↔
      ∃ waits < steps, host.walk waits current = some goal := by
  induction steps generalizing current with
  | zero => simp [meets]
  | succ steps ih =>
      rw [meets]
      by_cases here : current = goal
      · simp only [here, if_true, true_iff]
        exact ⟨0, Nat.succ_pos _, rfl⟩
      · rw [if_neg here]
        constructor
        · intro met
          cases waits : host.awaits? current with
          | none => simp [waits] at met
          | some next =>
              rw [waits] at met
              rcases (ih next).mp met with ⟨count, few, reached⟩
              refine ⟨count + 1, Nat.succ_lt_succ few, ?_⟩
              rw [walk, waits]
              exact reached
        · rintro ⟨count, few, reached⟩
          cases count with
          | zero => exact absurd (Option.some.inj reached) here
          | succ count =>
              rw [walk] at reached
              rcases Option.bind_eq_some_iff.mp reached with ⟨next, waits, onward⟩
              rw [waits]
              exact (ih next).mpr ⟨count, Nat.lt_of_succ_lt_succ few, onward⟩

/-- The shortest way along a chain meets nobody twice. -/
theorem walk_injective_of_minimal {host : Host} {waits : Nat} {engine goal : ThreadId}
    (met : host.walk waits engine = some goal)
    (minimal : ∀ fewer < waits, host.walk fewer engine ≠ some goal) {left right : Nat}
    (order : left < right) (inside : right < waits) :
    host.walk left engine ≠ host.walk right engine := by
  intro same
  -- What follows `right` follows `left` too, and is reached sooner from there.
  obtain ⟨rest, rfl⟩ := Nat.exists_eq_add_of_lt inside
  rw [Nat.add_assoc, walk_add, ← same, ← walk_add] at met
  exact minimal _ (Nat.add_lt_add_right order _) met

theorem walk_bounded {host : Host} {waits : Nat} {engine goal : ThreadId}
    (met : host.walk waits engine = some goal) :
    ∃ fewer ≤ host.waiting.length, host.walk fewer engine = some goal := by
  classical
  have reachable : ∃ waits, host.walk waits engine = some goal := ⟨waits, met⟩
  let shortest := Nat.find reachable
  have reached : host.walk shortest engine = some goal := Nat.find_spec reachable
  have minimal : ∀ fewer < shortest, host.walk fewer engine ≠ some goal :=
    fun _ fewer => Nat.find_min reachable fewer
  refine ⟨shortest, ?_, reached⟩
  -- All engines of the shortest way but the last one wait, each in an entry of its own.
  let met? := fun earlier => host.walk earlier engine
  have distinct : ((List.range shortest).map met?).Nodup := by
    refine List.Nodup.map_on (fun left inLeft right inRight same => ?_) List.nodup_range
    rcases Nat.lt_trichotomy left right with order | equal | order
    · exact absurd same
        (walk_injective_of_minimal reached minimal order (List.mem_range.mp inRight))
    · exact equal
    · exact absurd same.symm
        (walk_injective_of_minimal reached minimal order (List.mem_range.mp inLeft))
  have listed : (List.range shortest).map met? ⊆ host.waiting.map fun wait => some wait.1 := by
    intro found member
    rcases List.mem_map.mp member with ⟨earlier, inside, rfl⟩
    rcases awaits?_of_walk reached (List.mem_range.mp inside) with ⟨current, next, here, awaits⟩
    rcases List.lookup_eq_some_iff.mp awaits with ⟨before, after, entries, -⟩
    refine List.mem_map.mpr ⟨(current, next), ?_, here.symm⟩
    rw [entries]
    simp
  have few := (distinct.subperm listed).length_le
  simpa using few

/-- More looks than there are waits find whatever stands on the chain. -/
theorem meets_iff_walk {host : Host} {steps : Nat} (enough : host.waiting.length < steps)
    (goal current : ThreadId) :
    host.meets goal steps current = true ↔ ∃ waits, host.walk waits current = some goal := by
  rw [meets_iff]
  constructor
  · rintro ⟨waits, -, met⟩
    exact ⟨waits, met⟩
  · rintro ⟨waits, met⟩
    rcases walk_bounded met with ⟨fewer, few, reached⟩
    exact ⟨fewer, Nat.lt_of_le_of_lt few enough, reached⟩

/-- The search for a circle finds out whether the joiner is on the chain of the target. -/
theorem closesCycle_iff_walk (host : Host) (joiner target : ThreadId) :
    host.closesCycle joiner target = true ↔ ∃ waits, host.walk waits target = some joiner :=
  meets_iff_walk (Nat.lt_succ_self _) joiner target

theorem closesCycle_setSlot (host : Host) (thread joiner target : ThreadId) (slot : ThreadSlot) :
    (host.setSlot thread slot).closesCycle joiner target = host.closesCycle joiner target := by
  rw [Bool.eq_iff_iff, closesCycle_iff_walk, closesCycle_iff_walk]
  simp only [walk_congr fun engine => host.awaits?_setSlot thread engine slot]

/-! ## Circles of waits -/

/-- Nobody is met again on the own chain. -/
def Acyclic (host : Host) : Prop :=
  ∀ engine waits, 0 < waits → host.walk waits engine ≠ some engine

section Circles

variable {host : Host} {joiner target : ThreadId}

theorem walk_of_leave {waits : Nat} {engine goal : ThreadId}
    (met : (host.leave joiner).walk waits engine = some goal) :
    host.walk waits engine = some goal := by
  induction waits generalizing engine with
  | zero => exact met
  | succ waits ih =>
      rw [walk] at met ⊢
      rcases Option.bind_eq_some_iff.mp met with ⟨next, awaits, onward⟩
      rw [awaits?_leave] at awaits
      split at awaits
      · cases awaits
      · rw [awaits]
        exact ih onward

theorem Acyclic.leave (acyclic : host.Acyclic) (joiner : ThreadId) :
    (host.leave joiner).Acyclic :=
  fun engine waits positive met => acyclic engine waits positive (walk_of_leave met)

theorem Acyclic.of_same {other : Host} (acyclic : host.Acyclic)
    (waits : ∀ engine, other.awaits? engine = host.awaits? engine) : other.Acyclic := by
  intro engine count positive
  rw [walk_congr waits]
  exact acyclic engine count positive

/-- A way that a new wait is no part of was there before. -/
theorem walk_of_await {waits : Nat} {engine : ThreadId}
    (around : ∀ fewer < waits, (host.await joiner target).walk fewer engine ≠ some joiner) :
    (host.await joiner target).walk waits engine = host.walk waits engine := by
  induction waits generalizing engine with
  | zero => rfl
  | succ waits ih =>
      have differs : engine ≠ joiner := fun same => around 0 (Nat.succ_pos _) (congrArg some same)
      rw [walk, walk, awaits?_await, if_neg differs]
      cases awaits : host.awaits? engine with
      | none => rfl
      | some next =>
          refine ih fun fewer few met => around (fewer + 1) (Nat.succ_lt_succ few) ?_
          rw [walk, awaits?_await, if_neg differs, awaits]
          exact met

/-- The search for a circle is what keeps the waits free of them. -/
theorem Acyclic.await (acyclic : host.Acyclic)
    (clear : host.closesCycle joiner target = false) : (host.await joiner target).Acyclic := by
  classical
  -- A way back from the target to the joiner would have been found by the search.
  have apart (waits : Nat) : (host.await joiner target).walk waits target ≠ some joiner := by
    intro met
    have back : ∃ waits, (host.await joiner target).walk waits target = some joiner :=
      ⟨waits, met⟩
    have old := walk_of_await fun fewer few => Nat.find_min back few
    rw [Nat.find_spec back] at old
    have found := (host.closesCycle_iff_walk joiner target).mpr ⟨Nat.find back, old.symm⟩
    simp [clear] at found
  intro engine waits positive circle
  by_cases around : ∀ fewer < waits, (host.await joiner target).walk fewer engine ≠ some joiner
  · rw [walk_of_await around] at circle
    exact acyclic engine waits positive circle
  · -- The circle can as well be begun at the joiner, whose next engine is the target.
    push Not at around
    rcases around with ⟨first, -, here⟩
    have again : (host.await joiner target).walk waits joiner = some joiner := by
      have twice : (host.await joiner target).walk (first + waits) engine = some joiner := by
        rw [Nat.add_comm, walk_add, circle]
        exact here
      rw [walk_add, here] at twice
      exact twice
    obtain ⟨rest, rfl⟩ := Nat.exists_eq_succ_of_ne_zero (Nat.ne_of_gt positive)
    rw [walk, awaits?_await, if_pos rfl] at again
    exact apart rest again

end Circles

/-! ## A look at the table -/

/-- The ways in which a look at the table on behalf of an engine can end. -/
inductive Looked (host : Host) (joiner target : ThreadId) : Host × JoinStep → Prop where
  | unknown (missing : host.slot? target = none) :
      Looked host joiner target (host, .refused (.unknownThread (Int64.ofNat target)))
  | known {outcome : Outcome} (found : host.slot? target = some (.finished outcome)) :
      Looked host joiner target (host, .known outcome)
  | circle {slot : ThreadSlot} (found : host.slot? target = some slot)
      (unfinished : slot.isFinished = false) (closes : host.closesCycle joiner target = true) :
      Looked host joiner target (host, .refused (.joinCycle target))
  | parked (found : host.slot? target = some .joining)
      (clear : host.closesCycle joiner target = false) :
      Looked host joiner target (host.await joiner target, .parked)
  | taken (found : host.slot? target = some .running)
      (clear : host.closesCycle joiner target = false) :
      Looked host joiner target ((host.setSlot target .joining).await joiner target, .taken)

theorem lookFor_looked (host : Host) (joiner target : ThreadId) :
    Looked host joiner target (host.lookFor joiner target) := by
  unfold lookFor
  cases found : host.slot? target with
  | none => exact .unknown found
  | some slot =>
      cases closes : host.closesCycle joiner target with
      | true =>
          cases slot with
          | running => exact .circle found rfl closes
          | joining => exact .circle found rfl closes
          | finished outcome => exact .known found
      | false =>
          cases slot with
          | running => exact .taken found closes
          | joining => exact .parked found closes
          | finished outcome => exact .known found

theorem wake_looked (host : Host) (joiner target : ThreadId) :
    Looked (host.leave joiner) joiner target (host.wake joiner target) :=
  (host.leave joiner).lookFor_looked joiner target

/-- A look is refused as a circle by the search for one, and in no other way. -/
theorem Looked.circle_iff {host : Host} {joiner target : ThreadId} {result : Host × JoinStep}
    (looked : Looked host joiner target result) :
    result.2 = .refused (.joinCycle target) ↔
      (∃ slot, host.slot? target = some slot ∧ slot.isFinished = false) ∧
        ∃ waits, host.walk waits target = some joiner := by
  rw [← closesCycle_iff_walk]
  cases looked with
  | unknown missing => simp [missing]
  | known found => simp [found, ThreadSlot.isFinished]
  | circle found unfinished closes => simp [found, unfinished, closes]
  | parked found clear => simp [clear]
  | taken found clear => simp [clear]

/-- The ways in which a look at the table on behalf of the one who collects can end. -/
inductive Collected (host : Host) : Host × CollectStep → Prop where
  | taken {thread : ThreadId} (found : host.slot? thread = some .running) :
      Collected host (host.setSlot thread .joining, .taken thread)
  | parked (busy : host.isBusy = true) : Collected host (host, .parked)
  | complete (finished : ∀ thread slot, host.slot? thread = some slot →
        ∃ outcome, slot = .finished outcome) (nobody : host.waiting = []) :
      Collected host ({ host with slots := [] }, .complete host.outcomes)

theorem Ascending.collect_collected {host : Host} (ascending : host.Ascending) :
    Collected host host.collect := by
  unfold collect
  cases first : host.firstRunning? with
  | some thread =>
      rcases Option.map_eq_some_iff.mp first with ⟨⟨key, slot⟩, found, rfl⟩
      have running : slot = .running := by simpa using List.find?_some found
      refine .taken (ascending.slot?_eq_some.mpr ?_)
      exact running ▸ List.mem_of_find?_eq_some found
  | none =>
      cases busy : host.isBusy with
      | true => exact .parked busy
      | false =>
          rw [isBusy, Bool.or_eq_false_iff] at busy
          refine .complete (fun thread slot found => ?_) (by simpa using busy.2)
          have member := ascending.slot?_eq_some.mp found
          have noneRunning := List.find?_eq_none.mp (Option.map_eq_none_iff.mp first) _ member
          have noneJoining := List.any_eq_false.mp busy.1 _ member
          cases slot with
          | running => simp at noneRunning
          | joining => simp at noneJoining
          | finished outcome => exact ⟨outcome, rfl⟩

theorem mem_outcomes {host : Host} {thread : ThreadId} {outcome : Outcome} :
    (thread, outcome) ∈ host.outcomes ↔ (thread, .finished outcome) ∈ host.slots := by
  rw [outcomes, List.mem_filterMap]
  constructor
  · rintro ⟨⟨key, slot⟩, member, same⟩
    cases slot with
    | running => cases same
    | joining => cases same
    | finished recorded =>
        cases same
        exact member
  · intro member
    exact ⟨_, member, rfl⟩

theorem Ascending.outcomes {host : Host} (ascending : host.Ascending) :
    host.outcomes.Pairwise fun left right => left.1 < right.1 := by
  refine List.Pairwise.filterMap _ (fun left right order first same second again => ?_) ascending
  rcases left with ⟨_, slot⟩
  rcases right with ⟨_, other⟩
  cases slot <;> cases same
  cases other <;> cases again
  exact order

end Host
end CommandMachine
