import CommandMachine.Proofs.Host.Sections
import Mathlib.Logic.Relation
namespace CommandMachine
namespace Host

/-!
# The search for a circle

A wait is refused if the chain of waits leads from the thread back to the one who asks.  The
search goes from engine to engine and gives up after a number of looks that depends only on
how many waits there are.  Nothing is assumed about the waits here: there may be circles among
them, and a chain that runs into one never ends.

The search says yes if and only if the chain leads to the one who asks.  A chain that meets
nobody twice has at most one engine more than there are waits, so further looks find nobody
new; and with one look fewer the last engine of a long chain would be missed.
-/

/-- An engine waits for another one. -/
def Awaits (host : Host) (engine next : ThreadId) : Prop :=
  host.awaits? engine = some next

/-- A chain leads from one engine to another if and only if a number of waits does. -/
theorem reflTransGen_awaits_iff (host : Host) (engine goal : ThreadId) :
    Relation.ReflTransGen host.Awaits engine goal ↔
      ∃ waits, host.walk waits engine = some goal := by
  constructor
  · intro leads
    induction leads with
    | refl => exact ⟨0, rfl⟩
    | @tail current next _ awaits ih =>
        rcases ih with ⟨waits, met⟩
        refine ⟨waits + 1, ?_⟩
        rw [walk_add, met]
        exact (host.walk_one current).trans awaits
  · rintro ⟨waits, met⟩
    induction waits generalizing engine with
    | zero =>
        cases met
        exact .refl
    | succ waits ih =>
        rw [walk] at met
        rcases Option.bind_eq_some_iff.mp met with ⟨next, awaits, onward⟩
        exact .head awaits (ih next onward)

/-- **The search for a circle is exact.**  Whatever waits there are, a wait is found to close a
circle if and only if zero or more waits lead from its target to the joiner.  The search is
never cut short: with any number of further looks the answer is the same. -/
theorem closesCycle_exact (host : Host) (joiner target : ThreadId) :
    (host.closesCycle joiner target = true ↔
        Relation.ReflTransGen host.Awaits target joiner) ∧
      ∀ further, host.meets joiner (host.waiting.length + 1 + further) target =
        host.closesCycle joiner target := by
  constructor
  · rw [closesCycle_iff_walk, reflTransGen_awaits_iff]
  · intro further
    have enough : host.waiting.length < host.waiting.length + 1 + further :=
      Nat.lt_of_lt_of_le (Nat.lt_succ_self _) (Nat.le_add_right _ _)
    rw [Bool.eq_iff_iff, meets_iff_walk enough, closesCycle_iff_walk]

/-! ## One look fewer -/

/-- The waits of a queue, in which every engine but the last one waits for the next. -/
def queueWaits : (waits : Nat) → List (ThreadId × ThreadId)
  | 0 => []
  | waits + 1 => (waits, waits + 1) :: queueWaits waits

def queue (waits : Nat) : Host :=
  { empty with waiting := queueWaits waits }

theorem length_queueWaits (waits : Nat) : (queueWaits waits).length = waits := by
  induction waits with
  | zero => rfl
  | succ waits ih => rw [queueWaits, List.length_cons, ih]

theorem awaits?_queue (waits : Nat) (engine : ThreadId) :
    (queue waits).awaits? engine = if engine < waits then some (engine + 1) else none := by
  change (queueWaits waits).lookup engine = _
  induction waits with
  | zero => rfl
  | succ waits ih =>
      rw [queueWaits, lookup_entry, ih]
      by_cases last : engine = waits
      · rw [if_pos last, last, if_pos (Nat.lt_succ_self waits)]
      · have same : engine < waits + 1 ↔ engine < waits :=
          ⟨fun below => Nat.lt_of_le_of_ne (Nat.le_of_lt_succ below) last, Nat.lt_succ_of_lt⟩
        rw [if_neg last]
        simp only [same]

theorem walk_queue {waits count : Nat} (within : count ≤ waits) :
    (queue waits).walk count ThreadId.initial = some count := by
  induction count with
  | zero => rfl
  | succ count ih =>
      rw [walk_add, ih (Nat.le_of_succ_le within), Option.bind_some, walk_one, awaits?_queue,
        if_pos (Nat.lt_of_succ_le within)]

/-- For every number of waits there is a chain whose last engine is met only with the very last
look of the search. -/
theorem queue_needs_all_looks (waits : Nat) :
    (queue waits).waiting.length = waits ∧
      (queue waits).closesCycle waits ThreadId.initial = true ∧
      (queue waits).meets waits waits ThreadId.initial = false := by
  refine ⟨length_queueWaits waits, ?_, ?_⟩
  · exact (closesCycle_iff_walk _ _ _).mpr ⟨waits, walk_queue (Nat.le_refl waits)⟩
  · apply Bool.eq_false_iff.mpr
    intro found
    rcases (meets_iff _ _ _ _).mp found with ⟨count, below, met⟩
    rw [walk_queue (Nat.le_of_lt below)] at met
    exact Nat.ne_of_lt below (Option.some.inj met)

end Host
end CommandMachine
