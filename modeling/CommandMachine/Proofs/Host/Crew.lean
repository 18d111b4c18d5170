import CommandMachine.Host.Supervisor
import CommandMachine.Proofs.Host.Sections
namespace CommandMachine

/-!
# Engines that use a host

A crew is a host together with all engines that use it and with the one who collects
the threads in the end.  Each step of a crew is one undivided section of the host, or
something that an engine does between two of them.  Between its sections an engine can
be overtaken by any other one: a thread runs, and may even end, before it stands in the
table; an engine that was parked may wake up at any time; and a wait is still in the
graph when its outcome has been recorded already.

The steps are taken in any order.  What is known of a crew at any time falls into three
parts: who has been started by whom, whose handle is where, and who waits for whom.
-/

/-- What an engine is doing, as far as the host is concerned. -/
inductive Duty where
  /-- Executing its own instructions. -/
  | free
  /-- Starting a thread, which has a number, may run already, but does not stand in the
  table. -/
  | starting (child : ThreadId)
  /-- Waiting for a thread whose handle somebody else has taken. -/
  | parked (target : ThreadId)
  /-- Waiting for a thread with its handle. -/
  | holding (target : ThreadId)
  /-- About to end its wait, having recorded the outcome. -/
  | leaving (target : ThreadId) (outcome : Outcome)
  /-- At its end. -/
  | ended (ending : Ending)
deriving DecidableEq

namespace Duty

/-- The thread that an engine is starting. -/
def child? : Duty → Option ThreadId
  | .starting child => some child
  | _ => none

/-- The thread that an engine waits for. -/
def target? : Duty → Option ThreadId
  | .parked target => some target
  | .holding target => some target
  | .leaving target _ => some target
  | _ => none

/-- What the table says of the thread that an engine waits for. -/
def Fits (host : Host) : Duty → Prop
  | .parked target => (host.slot? target).isSome
  | .holding target => host.slot? target = some .joining
  | .leaving target outcome => host.slot? target = some (.finished outcome)
  | _ => True

end Duty

/-- Whether the handle of a thread has been taken. -/
def ThreadSlot.isTaken : ThreadSlot → Bool
  | .running => false
  | _ => true

/-- What the one who collects all threads is doing. -/
inductive Collecting where
  /-- Nothing yet. -/
  | absent
  /-- About to look at the table, or asleep until something changes. -/
  | looking
  /-- Waiting for a thread with its handle. -/
  | holding (thread : ThreadId)
  /-- Done, with all outcomes. -/
  | done (outcomes : List (ThreadId × Outcome))
deriving DecidableEq

/-- What an engine was answered that wanted to wait for a thread. -/
structure Answer where
  joiner : ThreadId
  target : ThreadId
  result : Except Cause Outcome

structure Crew where
  host : Host
  /-- What each engine is doing that has been started. -/
  duties : ThreadId → Option Duty
  collecting : Collecting
  /-- The threads whose handles have been taken, each as often as it was. -/
  taken : List ThreadId
  /-- All answers so far. -/
  answers : List Answer

namespace Crew

/-- The main engine alone. -/
def start : Crew where
  host := .empty
  duties := fun engine => if engine = .initial then some .free else none
  collecting := .absent
  taken := []
  answers := []

def assign (crew : Crew) (engine : ThreadId) (duty : Duty) : Crew :=
  { crew with duties := fun other => if other = engine then some duty else crew.duties other }

/-- Gives an engine the answer to its wait. -/
def answer (crew : Crew) (joiner target : ThreadId) (result : Except Cause Outcome) : Crew :=
  { crew.assign joiner .free with answers := ⟨joiner, target, result⟩ :: crew.answers }

/-- Goes on after a look at the table on behalf of an engine. -/
def afterLook (crew : Crew) (joiner target : ThreadId) : Host × JoinStep → Crew
  | (host, .refused cause) => { crew with host }.answer joiner target (.error cause)
  | (host, .known outcome) => { crew with host }.answer joiner target (.ok outcome)
  | (host, .parked) => { crew with host }.assign joiner (.parked target)
  | (host, .taken) =>
    { crew with host, taken := target :: crew.taken }.assign joiner (.holding target)

/-- Goes on after a look at the table on behalf of the one who collects. -/
def afterCollect (crew : Crew) : Host × CollectStep → Crew
  | (host, .taken thread) =>
    { crew with host, collecting := .holding thread, taken := thread :: crew.taken }
  | (host, .parked) => { crew with host }
  | (host, .complete outcomes) => { crew with host, collecting := .done outcomes }

/-- One step of a crew. -/
inductive Step (crew : Crew) : Crew → Prop where
  /-- An engine that starts a thread takes a number for it. -/
  | takeId {parent : ThreadId} (free : crew.duties parent = some .free) :
      Step crew ({ crew with host := crew.host.takeId.2 }.assign parent
        (.starting crew.host.takeId.1))
  /-- The new thread begins to run. -/
  | launch {parent child : ThreadId} (starting : crew.duties parent = some (.starting child))
      (unborn : crew.duties child = none) : Step crew (crew.assign child .free)
  /-- The system refuses the new thread. -/
  | refuse {parent child : ThreadId} (starting : crew.duties parent = some (.starting child))
      (unborn : crew.duties child = none) : Step crew (crew.assign parent .free)
  /-- The new thread is entered into the table. -/
  | enter {parent child : ThreadId} (starting : crew.duties parent = some (.starting child))
      (born : (crew.duties child).isSome) :
      Step crew ({ crew with host := crew.host.enter child }.assign parent .free)
  /-- An engine begins to wait for a thread. -/
  | join {joiner : ThreadId} (target : ThreadId) (free : crew.duties joiner = some .free) :
      Step crew (crew.afterLook joiner target (crew.host.beginJoin joiner target))
  /-- An engine that was parked looks again. -/
  | wake {joiner target : ThreadId} (parked : crew.duties joiner = some (.parked target)) :
      Step crew (crew.afterLook joiner target (crew.host.wake joiner target))
  /-- The thread has ended whose handle an engine has, and the engine records it. -/
  | record {joiner target : ThreadId} {ending : Ending}
      (holding : crew.duties joiner = some (.holding target))
      (ended : crew.duties target = some (.ended ending)) :
      Step crew ({ crew with host := crew.host.record target ending.outcome }.assign joiner
        (.leaving target ending.outcome))
  /-- An engine ends its wait. -/
  | leave {joiner target : ThreadId} {outcome : Outcome}
      (leaving : crew.duties joiner = some (.leaving target outcome)) :
      Step crew ({ crew with host := crew.host.leave joiner }.answer joiner target (.ok outcome))
  /-- An engine comes to its end, with a report or without one. -/
  | finish {engine : ThreadId} (ending : Ending) (free : crew.duties engine = some .free) :
      Step crew (crew.assign engine (.ended ending))
  /-- When the main engine has ended, its caller begins to collect all threads. -/
  | convene {ending : Ending} (absent : crew.collecting = .absent)
      (atEnd : crew.duties .initial = some (.ended ending)) :
      Step crew { crew with collecting := .looking }
  /-- The one who collects looks at the table. -/
  | collect (looking : crew.collecting = .looking) :
      Step crew (crew.afterCollect crew.host.collect)
  /-- The thread has ended whose handle the one who collects has. -/
  | gather {thread : ThreadId} {ending : Ending} (holding : crew.collecting = .holding thread)
      (ended : crew.duties thread = some (.ended ending)) :
      Step crew { crew with
        host := crew.host.record thread ending.outcome, collecting := .looking }

/-- The crews that steps in any order lead to. -/
inductive Reachable : Crew → Prop where
  | start : Reachable start
  | step {crew next : Crew} (earlier : Reachable crew) (step : Step crew next) : Reachable next

/-! ## Duties -/

section Assign

variable (crew : Crew) (engine other : ThreadId) (duty : Duty)

@[simp] theorem duties_assign : (crew.assign engine duty).duties other =
    if other = engine then some duty else crew.duties other := rfl

@[simp] theorem host_assign : (crew.assign engine duty).host = crew.host := rfl

@[simp] theorem collecting_assign : (crew.assign engine duty).collecting = crew.collecting := rfl

@[simp] theorem taken_assign : (crew.assign engine duty).taken = crew.taken := rfl

@[simp] theorem answers_assign : (crew.assign engine duty).answers = crew.answers := rfl

theorem isSome_assign : ((crew.assign engine duty).duties other).isSome ↔
    other = engine ∨ (crew.duties other).isSome := by
  rw [duties_assign]
  split
  · rename_i own
    simp [own]
  · rename_i differs
    simp [differs]

variable {crew engine other duty}

/-- An engine has the duty it was assigned, and the others have what they had. -/
theorem assigned {present : Duty} (found : (crew.assign engine duty).duties other = some present) :
    other = engine ∧ present = duty ∨ other ≠ engine ∧ crew.duties other = some present := by
  rw [duties_assign] at found
  split at found
  · rename_i own
    exact Or.inl ⟨own, (Option.some.inj found).symm⟩
  · rename_i differs
    exact Or.inr ⟨differs, found⟩

/-- A duty other than the one assigned was there before. -/
theorem of_assign {present : Duty} (found : (crew.assign engine duty).duties other = some present)
    (differs : present ≠ duty) : crew.duties other = some present := by
  rcases assigned found with ⟨-, same⟩ | ⟨-, old⟩
  · exact absurd same differs
  · exact old

theorem isSome_of_assign {before : Duty} (replaced : crew.duties engine = some before)
    (found : ((crew.assign engine duty).duties other).isSome) : (crew.duties other).isSome := by
  rcases (isSome_assign _ _ _ _).mp found with rfl | old
  · rw [replaced]
    rfl
  · exact old

theorem assign_of_ne (differs : other ≠ engine) :
    (crew.assign engine duty).duties other = crew.duties other :=
  if_neg differs

/-- An engine keeps a duty that was not the one replaced. -/
theorem assign_of_duty {before present : Duty} (replaced : crew.duties engine = some before)
    (found : crew.duties other = some present) (differs : present ≠ before) :
    (crew.assign engine duty).duties other = some present := by
  refine (assign_of_ne fun own => differs ?_).trans found
  rw [own, replaced] at found
  exact (Option.some.inj found).symm

/-- Whoever has ended stays so. -/
theorem ended_assign {ending : Ending} (found : crew.duties other = some (.ended ending))
    (active : ∀ ending, crew.duties engine ≠ some (.ended ending)) :
    (crew.assign engine duty).duties other = some (.ended ending) := by
  refine (assign_of_ne ?_).trans found
  rintro rfl
  exact active ending found

theorem assign_assign (crew : Crew) (engine : ThreadId) (before after : Duty) :
    (crew.assign engine before).assign engine after = crew.assign engine after := by
  have same : ((crew.assign engine before).assign engine after).duties =
      (crew.assign engine after).duties := by
    funext other
    rw [duties_assign, duties_assign, duties_assign]
    split <;> rfl
  exact congrArg (fun duties => { crew with duties }) same

/-- What an engine that keeps what matters of its duty has, all have as before. -/
theorem map_duties_assign {α : Type} (view : Duty → α) {before : Duty}
    (replaced : crew.duties engine = some before) (same : view duty = view before)
    (other : ThreadId) :
    ((crew.assign engine duty).duties other).map view = (crew.duties other).map view := by
  rw [duties_assign]
  split
  · rename_i own
    rw [own, replaced, Option.map_some, Option.map_some, same]
  · rfl

/-- A look overwrites whatever the engine was doing. -/
theorem afterLook_assign (crew : Crew) (host : Host) (joiner target : ThreadId) (duty : Duty)
    (looked : Host × JoinStep) :
    ({ crew with host }.assign joiner duty).afterLook joiner target looked =
      crew.afterLook joiner target looked := by
  rcases looked with ⟨after, step⟩
  have answered (result : Except Cause Outcome) :
      ({ crew with host := after }.assign joiner duty).answer joiner target result =
        { crew with host := after }.answer joiner target result := by
    rw [answer, answer, assign_assign]
    rfl
  cases step with
  | refused cause => exact answered (.error cause)
  | known outcome => exact answered (.ok outcome)
  | parked => exact assign_assign { crew with host := after } joiner duty _
  | taken =>
      exact assign_assign { crew with host := after, taken := target :: crew.taken } joiner duty _

end Assign

/-! ## The numbers of the engines -/

/-- Every engine but the first one stands in the table or is just being started by an
engine with a smaller number, and no two engines start the same one. -/
structure Registry (crew : Crew) : Prop where
  below : ∀ engine, (crew.duties engine).isSome → engine < crew.host.nextId
  starting : ∀ parent child, crew.duties parent = some (.starting child) →
    parent < child ∧ child < crew.host.nextId ∧ crew.host.slot? child = none
  single : ∀ parent other child, crew.duties parent = some (.starting child) →
    crew.duties other = some (.starting child) → parent = other
  listed : ∀ thread, (crew.host.slot? thread).isSome →
    thread ≠ .initial ∧ (crew.duties thread).isSome
  entered : ∀ thread, (crew.duties thread).isSome → thread ≠ .initial →
    (crew.host.slot? thread).isSome ∨ ∃ parent, crew.duties parent = some (.starting thread)

namespace Registry

variable {crew : Crew} {parent child : ThreadId}

theorem takeId (registry : crew.Registry) (free : crew.duties parent = some .free) :
    ({ crew with host := crew.host.takeId.2 }.assign parent
        (.starting crew.host.takeId.1)).Registry := by
  have older : parent < crew.host.nextId := registry.below parent (by rw [free]; rfl)
  have unlisted : crew.host.slot? crew.host.nextId = none := by
    cases found : crew.host.slot? crew.host.nextId with
    | none => rfl
    | some slot =>
        have known := (registry.listed crew.host.nextId (by rw [found]; rfl)).2
        exact absurd (registry.below _ known) (Nat.lt_irrefl _)
  have foreign {other : ThreadId} (same : crew.duties other = some (.starting crew.host.nextId)) :
      False :=
    Nat.lt_irrefl _ (registry.starting other _ same).2.1
  refine ⟨fun engine known => ?_, fun engine other starts => ?_,
    fun engine other new left right => ?_, fun thread found => ?_, fun thread known later => ?_⟩
  · rcases (isSome_assign _ _ _ _).mp known with rfl | old
    · exact Nat.lt_succ_of_lt older
    · exact Nat.lt_succ_of_lt (registry.below engine old)
  · rcases assigned starts with ⟨rfl, same⟩ | ⟨-, old⟩
    · cases same
      exact ⟨older, Nat.lt_succ_self _, unlisted⟩
    · rcases registry.starting engine other old with ⟨order, below, missing⟩
      exact ⟨order, Nat.lt_succ_of_lt below, missing⟩
  · rcases assigned left with ⟨rfl, same⟩ | ⟨-, old⟩
    · cases same
      rcases assigned right with ⟨rfl, -⟩ | ⟨-, another⟩
      · rfl
      · exact (foreign another).elim
    · rcases assigned right with ⟨rfl, same⟩ | ⟨-, another⟩
      · cases same
        exact (foreign old).elim
      · exact registry.single engine other new old another
  · rcases registry.listed thread found with ⟨later, known⟩
    exact ⟨later, (isSome_assign _ _ _ _).mpr (Or.inr known)⟩
  · have old : (crew.duties thread).isSome := by
      rcases (isSome_assign _ _ _ _).mp known with rfl | old
      · exact free ▸ rfl
      · exact old
    rcases registry.entered thread old later with found | ⟨other, starts⟩
    · exact Or.inl found
    · exact Or.inr ⟨other, assign_of_duty free starts (by simp)⟩

theorem launch (registry : crew.Registry) (starting : crew.duties parent = some (.starting child))
    (unborn : crew.duties child = none) : (crew.assign child .free).Registry := by
  have kept {engine : ThreadId} {duty : Duty} (found : crew.duties engine = some duty) :
      (crew.assign child .free).duties engine = some duty := by
    refine (assign_of_ne ?_).trans found
    rintro rfl
    simp [unborn] at found
  refine ⟨fun engine known => ?_, fun engine other starts => ?_,
    fun engine other new left right => ?_, fun thread found => ?_, fun thread known later => ?_⟩
  · rcases (isSome_assign _ _ _ _).mp known with rfl | old
    · exact (registry.starting parent _ starting).2.1
    · exact registry.below engine old
  · exact registry.starting engine other (of_assign starts (by simp))
  · exact registry.single engine other new (of_assign left (by simp)) (of_assign right (by simp))
  · rcases registry.listed thread found with ⟨later, known⟩
    exact ⟨later, (isSome_assign _ _ _ _).mpr (Or.inr known)⟩
  · rcases (isSome_assign _ _ _ _).mp known with rfl | old
    · exact Or.inr ⟨parent, kept starting⟩
    · rcases registry.entered thread old later with found | ⟨other, starts⟩
      · exact Or.inl found
      · exact Or.inr ⟨other, kept starts⟩

theorem refuse (registry : crew.Registry) (starting : crew.duties parent = some (.starting child))
    (unborn : crew.duties child = none) : (crew.assign parent .free).Registry := by
  refine ⟨fun engine known => ?_, fun engine other starts => ?_,
    fun engine other new left right => ?_, fun thread found => ?_, fun thread known later => ?_⟩
  · exact registry.below engine (isSome_of_assign starting known)
  · exact registry.starting engine other (of_assign starts (by simp))
  · exact registry.single engine other new (of_assign left (by simp)) (of_assign right (by simp))
  · rcases registry.listed thread found with ⟨later, known⟩
    exact ⟨later, (isSome_assign _ _ _ _).mpr (Or.inr known)⟩
  · have old := isSome_of_assign starting known
    rcases registry.entered thread old later with found | ⟨other, starts⟩
    · exact Or.inl found
    · refine Or.inr ⟨other, assign_of_duty starting starts fun same => ?_⟩
      cases same
      simp [unborn] at old

theorem enter (registry : crew.Registry) (starting : crew.duties parent = some (.starting child))
    (born : (crew.duties child).isSome) :
    ({ crew with host := crew.host.enter child }.assign parent .free).Registry := by
  have order := (registry.starting parent child starting).1
  refine ⟨fun engine known => ?_, fun engine other starts => ?_,
    fun engine other new left right => ?_, fun thread found => ?_, fun thread known later => ?_⟩
  · exact registry.below engine (isSome_of_assign starting known)
  · rcases assigned starts with ⟨-, same⟩ | ⟨differs, old⟩
    · cases same
    · rcases registry.starting engine other old with ⟨order, below, missing⟩
      refine ⟨order, below, ?_⟩
      have another : other ≠ child := by
        rintro rfl
        exact differs (registry.single engine parent other old starting)
      rw [host_assign, Host.enter, Host.slot?_setSlot, if_neg another]
      exact missing
  · exact registry.single engine other new (of_assign left (by simp)) (of_assign right (by simp))
  · rw [host_assign, Host.enter, Host.slot?_setSlot] at found
    split at found
    · rename_i own
      refine ⟨?_, (isSome_assign _ _ _ _).mpr (Or.inr (own ▸ born))⟩
      rintro rfl
      exact Nat.not_lt_zero _ (own ▸ order)
    · rcases registry.listed thread found with ⟨later, known⟩
      exact ⟨later, (isSome_assign _ _ _ _).mpr (Or.inr known)⟩
  · rw [host_assign, Host.enter, Host.slot?_setSlot]
    split
    · exact Or.inl rfl
    · rename_i differs
      rcases registry.entered thread (isSome_of_assign starting known) later with
        found | ⟨other, starts⟩
      · exact Or.inl found
      · refine Or.inr ⟨other, assign_of_duty starting starts fun same => differs ?_⟩
        cases same
        rfl

/-- The numbers do not depend on anything but on who starts whom and on who is listed. -/
theorem of_same {next : Crew} (registry : crew.Registry)
    (duties : ∀ engine, (next.duties engine).map Duty.child? =
      (crew.duties engine).map Duty.child?)
    (slots : ∀ thread, (next.host.slot? thread).isSome = (crew.host.slot? thread).isSome)
    (nextId : next.host.nextId = crew.host.nextId) : next.Registry := by
  have known (engine : ThreadId) : (next.duties engine).isSome = (crew.duties engine).isSome := by
    rw [← Option.isSome_map, duties, Option.isSome_map]
  have starts (parent child : ThreadId) : next.duties parent = some (.starting child) ↔
      crew.duties parent = some (.starting child) := by
    have view (duty : Option Duty) :
        duty = some (.starting child) ↔ duty.map Duty.child? = some (some child) := by
      rcases duty with _ | duty
      · simp
      · cases duty <;> simp [Duty.child?]
    rw [view, view, duties]
  refine ⟨fun engine present => ?_, fun parent child starting => ?_,
    fun parent other child left right => ?_, fun thread found => ?_, fun thread present later => ?_⟩
  · rw [nextId]
    exact registry.below engine (known engine ▸ present)
  · rcases registry.starting parent child ((starts parent child).mp starting) with
      ⟨order, below, missing⟩
    refine ⟨order, nextId ▸ below, ?_⟩
    have same := slots child
    rw [missing] at same
    exact Option.isNone_iff_eq_none.mp (by simpa using same)
  · exact registry.single parent other child ((starts parent child).mp left)
      ((starts other child).mp right)
  · rw [known]
    exact registry.listed thread (slots thread ▸ found)
  · rw [slots]
    rw [known] at present
    exact (registry.entered thread present later).imp id
      fun ⟨parent, starting⟩ => ⟨parent, (starts parent thread).mpr starting⟩

end Registry

/-! ## Handles and outcomes -/

/-- The handle of a thread is taken at most once, by an engine or by the one who collects,
and what is recorded and answered is how the thread has ended. -/
structure Keeping (crew : Crew) : Prop where
  finished : ∀ thread outcome, crew.host.slot? thread = some (.finished outcome) →
    ∃ ending, crew.duties thread = some (.ended ending) ∧ ending.outcome = outcome
  duties : ∀ engine duty, crew.duties engine = some duty → duty.Fits crew.host
  gathering : ∀ thread, crew.collecting = .holding thread →
    crew.host.slot? thread = some .joining
  alone : ∀ engine other thread, crew.duties engine = some (.holding thread) →
    crew.duties other = some (.holding thread) → engine = other
  rival : ∀ engine thread, crew.duties engine = some (.holding thread) →
    crew.collecting ≠ .holding thread
  handles : ∀ thread, crew.taken.count thread =
    if (crew.host.slot? thread).any ThreadSlot.isTaken then 1 else 0
  answered : ∀ answer ∈ crew.answers, ∀ outcome, answer.result = .ok outcome →
    ∃ ending, crew.duties answer.target = some (.ended ending) ∧ ending.outcome = outcome

/-- Nobody has the handle of a thread. -/
def Unheld (crew : Crew) (thread : ThreadId) : Prop :=
  (∀ engine, crew.duties engine ≠ some (.holding thread)) ∧ crew.collecting ≠ .holding thread

namespace Keeping

variable {crew : Crew} {engine thread : ThreadId}

theorem unheld (keeping : crew.Keeping) {slot : ThreadSlot}
    (found : crew.host.slot? thread = some slot) (differs : slot ≠ .joining) :
    crew.Unheld thread := by
  refine ⟨fun engine holds => differs ?_, fun holds => differs ?_⟩
  · have joining : crew.host.slot? thread = some .joining := keeping.duties engine _ holds
    exact Option.some.inj (found.symm.trans joining)
  · exact Option.some.inj (found.symm.trans (keeping.gathering thread holds))

/-- Handles and outcomes depend on nothing but the table. -/
theorem withHost (keeping : crew.Keeping) {host : Host} (slots : host.slots = crew.host.slots) :
    Keeping { crew with host } := by
  have same (thread : ThreadId) : host.slot? thread = crew.host.slot? thread := by
    rw [Host.slot?, slots]
    rfl
  refine ⟨fun thread outcome found => ?_, fun engine duty present => ?_, fun thread holds => ?_,
    keeping.alone, keeping.rival, fun thread => ?_, keeping.answered⟩
  · exact keeping.finished thread outcome ((same thread).symm.trans found)
  · have fits := keeping.duties engine duty present
    cases duty with
    | parked target => exact (congrArg Option.isSome (same target)).trans fits
    | holding target => exact (same target).trans fits
    | leaving target outcome => exact (same target).trans fits
    | free => trivial
    | starting child => trivial
    | ended ending => trivial
  · exact (same thread).trans (keeping.gathering thread holds)
  · rw [same]
    exact keeping.handles thread

/-- An engine that has not ended may get another duty if the table allows for it. -/
theorem assign (keeping : crew.Keeping) {duty : Duty}
    (active : ∀ ending, crew.duties engine ≠ some (.ended ending)) (fits : duty.Fits crew.host)
    (free : ∀ thread, duty = .holding thread → crew.Unheld thread) :
    (crew.assign engine duty).Keeping := by
  have ended {thread : ThreadId} {outcome : Outcome}
      (known : ∃ ending, crew.duties thread = some (.ended ending) ∧ ending.outcome = outcome) :
      ∃ ending, (crew.assign engine duty).duties thread = some (.ended ending) ∧
        ending.outcome = outcome := by
    rcases known with ⟨ending, found, same⟩
    exact ⟨ending, ended_assign found active, same⟩
  refine ⟨fun thread outcome found => ended (keeping.finished thread outcome found),
    fun other present found => ?_, keeping.gathering, fun first second thread left right => ?_,
    fun other thread holds => ?_, keeping.handles,
    fun answer given outcome good => ended (keeping.answered answer given outcome good)⟩
  · rcases assigned found with ⟨-, rfl⟩ | ⟨-, old⟩
    · exact fits
    · exact keeping.duties other present old
  · rcases assigned left with ⟨rfl, same⟩ | ⟨-, old⟩
    · rcases assigned right with ⟨rfl, -⟩ | ⟨-, another⟩
      · rfl
      · exact absurd another ((free thread same.symm).1 second)
    · rcases assigned right with ⟨rfl, same⟩ | ⟨-, another⟩
      · exact absurd old ((free thread same.symm).1 first)
      · exact keeping.alone first second thread old another
  · rcases assigned holds with ⟨-, same⟩ | ⟨-, old⟩
    · exact (free thread same.symm).2
    · exact keeping.rival other thread old

/-- A slot may change if nobody has the handle of its thread and no outcome is recorded. -/
theorem setSlot (keeping : crew.Keeping) {slot : ThreadSlot} (unheld : crew.Unheld thread)
    (unrecorded : ∀ outcome, crew.host.slot? thread ≠ some (.finished outcome))
    (ended : ∀ outcome, slot = .finished outcome →
      ∃ ending, crew.duties thread = some (.ended ending) ∧ ending.outcome = outcome)
    {taken : List ThreadId}
    (others : ∀ other, other ≠ thread → taken.count other = crew.taken.count other)
    (counted : taken.count thread = if slot.isTaken then 1 else 0) :
    Keeping { crew with host := crew.host.setSlot thread slot, taken } := by
  have kept {other : ThreadId} {present : ThreadSlot} (differs : other ≠ thread)
      (found : crew.host.slot? other = some present) :
      (crew.host.setSlot thread slot).slot? other = some present := by
    rw [Host.slot?_setSlot, if_neg differs]
    exact found
  refine ⟨fun other outcome found => ?_, fun engine duty present => ?_, fun other holds => ?_,
    keeping.alone, keeping.rival, fun other => ?_, keeping.answered⟩
  · rw [Host.slot?_setSlot] at found
    split at found
    · rename_i own
      rw [own]
      exact ended outcome (Option.some.inj found)
    · exact keeping.finished other outcome found
  · have fits := keeping.duties engine duty present
    cases duty with
    | parked target =>
        change ((crew.host.setSlot thread slot).slot? target).isSome
        rw [Host.slot?_setSlot]
        split
        · rfl
        · exact fits
    | holding target =>
        exact kept (fun own => unheld.1 engine (own ▸ present)) fits
    | leaving target outcome =>
        exact kept (fun own => unrecorded outcome (own ▸ fits)) fits
    | free => trivial
    | starting child => trivial
    | ended ending => trivial
  · exact kept (fun own => unheld.2 (own ▸ holds)) (keeping.gathering other holds)
  · change taken.count other = _
    rw [Host.slot?_setSlot]
    split
    · rename_i own
      rw [own]
      exact counted
    · rename_i differs
      rw [others other differs]
      exact keeping.handles other

theorem enter (keeping : crew.Keeping) (missing : crew.host.slot? thread = none) :
    Keeping { crew with host := crew.host.enter thread } := by
  have unheld : crew.Unheld thread := by
    refine ⟨fun engine holds => ?_, fun holds => ?_⟩
    · have joining : crew.host.slot? thread = some .joining := keeping.duties engine _ holds
      simp [missing] at joining
    · have joining := keeping.gathering thread holds
      simp [missing] at joining
  refine keeping.setSlot unheld (by simp [missing]) (fun _ same => by cases same)
    (fun _ _ => rfl) ?_
  rw [keeping.handles, missing]
  rfl

/-- The handle of a thread that runs is taken. -/
theorem take (keeping : crew.Keeping) (running : crew.host.slot? thread = some .running) :
    Keeping { crew with
      host := crew.host.setSlot thread .joining, taken := thread :: crew.taken } := by
  refine keeping.setSlot (keeping.unheld running nofun) (by simp [running])
    (fun _ same => by cases same)
    (fun other differs => List.count_cons_of_ne (Ne.symm differs)) ?_
  rw [List.count_cons_self, keeping.handles, running]
  rfl

/-- The outcome of a thread is recorded whose handle has been taken and put away. -/
theorem settle (keeping : crew.Keeping) (joining : crew.host.slot? thread = some .joining)
    (unheld : crew.Unheld thread) {ending : Ending}
    (ended : crew.duties thread = some (.ended ending)) :
    Keeping { crew with host := crew.host.record thread ending.outcome } := by
  refine keeping.setSlot unheld (by simp [joining]) (fun outcome same => ?_) (fun _ _ => rfl) ?_
  · cases same
    exact ⟨ending, ended, rfl⟩
  · rw [keeping.handles, joining]
    rfl

theorem convene (keeping : crew.Keeping) : Keeping { crew with collecting := .looking } :=
  ⟨keeping.finished, keeping.duties, fun _ => nofun, keeping.alone, fun _ _ _ => nofun,
    keeping.handles, keeping.answered⟩

theorem gather (keeping : crew.Keeping) (joining : crew.host.slot? thread = some .joining)
    (unheld : crew.Unheld thread) : Keeping { crew with collecting := .holding thread } := by
  refine ⟨keeping.finished, keeping.duties, fun other holds => ?_, keeping.alone,
    fun engine other holds same => ?_, keeping.handles, keeping.answered⟩
  · cases holds
    exact joining
  · cases same
    exact unheld.1 engine holds

theorem answer (keeping : crew.Keeping) {joiner target : ThreadId}
    {result : Except Cause Outcome}
    (active : ∀ ending, crew.duties joiner ≠ some (.ended ending))
    (ended : ∀ outcome, result = .ok outcome → ∃ ending,
      crew.duties target = some (.ended ending) ∧ ending.outcome = outcome) :
    (crew.answer joiner target result).Keeping := by
  have told : Keeping { crew with answers := ⟨joiner, target, result⟩ :: crew.answers } := by
    refine ⟨keeping.finished, keeping.duties, keeping.gathering, keeping.alone, keeping.rival,
      keeping.handles, fun answer given outcome good => ?_⟩
    rcases List.mem_cons.mp given with rfl | old
    · exact ended outcome good
    · exact keeping.answered answer old outcome good
  exact told.assign active trivial fun _ => nofun

end Keeping

/-! ## Waits -/

/-- The graph of waits says who waits for whom, and there are no circles in it. -/
structure Links (crew : Crew) : Prop where
  edges : ∀ engine, crew.host.awaits? engine = (crew.duties engine).bind Duty.target?
  acyclic : crew.host.Acyclic

namespace Links

variable {crew : Crew} {joiner target : ThreadId}

theorem of_same {next : Crew} (links : crew.Links)
    (waits : ∀ engine, next.host.awaits? engine = crew.host.awaits? engine)
    (duties : ∀ engine, (next.duties engine).bind Duty.target? =
      (crew.duties engine).bind Duty.target?) : next.Links :=
  ⟨fun engine => by rw [waits, links.edges, duties], links.acyclic.of_same waits⟩

theorem assign (links : crew.Links) {engine : ThreadId} {duty : Duty}
    (same : (crew.duties engine).bind Duty.target? = duty.target?) :
    (crew.assign engine duty).Links := by
  refine links.of_same (fun _ => rfl) fun other => ?_
  rw [duties_assign]
  split
  · rename_i own
    rw [own, same]
    rfl
  · rfl

theorem await (links : crew.Links) {duty : Duty}
    (clear : crew.host.closesCycle joiner target = false) (waits : duty.target? = some target) :
    ({ crew with host := crew.host.await joiner target }.assign joiner duty).Links := by
  refine ⟨fun engine => ?_, links.acyclic.await clear⟩
  rw [host_assign, duties_assign, Host.awaits?_await]
  split
  · exact waits.symm
  · exact links.edges engine

theorem leave (links : crew.Links) {duty : Duty} (atEnd : duty.target? = none) :
    ({ crew with host := crew.host.leave joiner }.assign joiner duty).Links := by
  refine ⟨fun engine => ?_, links.acyclic.leave joiner⟩
  rw [host_assign, duties_assign, Host.awaits?_leave]
  split
  · exact atEnd.symm
  · exact links.edges engine

end Links

end Crew
end CommandMachine
