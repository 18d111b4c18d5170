import CommandMachine.Proofs.Isolation
import CommandMachine.Proofs.Turns
import CommandMachine.Proofs.Written
namespace CommandMachine

/-!
# What was never written stays in registers

A register holds `unset` when it has just been created, when the program writes this value
as a literal, and when the backend answers with it.  Reading is the only way from registers
to the stack, and it turns `unset` into zero.  Hence, in whatever order the engines of a run
take their turns, none of them ever has `unset` on its stack or in a slot that is in use,
prints it, or ends in a fault that names its kind.

The registers of the main engine may be changed from outside in any way.  Its memory may
be changed as well, but whoever puts `unset` into a slot could let a program load it.
-/

/-! ## What a turn shows -/

namespace Run

section Shown

variable {run before : Run} {id other : ThreadId} {engine : Engine} {surroundings : Surroundings}
  {event : Event}

theorem eventsOf_applyPlan (run : Run) (other : ThreadId) :
    run.applyPlan.eventsOf other = run.eventsOf other := by
  unfold applyPlan
  repeat' split
  all_goals rfl

theorem eventsOf_commit (run : Run) (id : ThreadId) (engine : Engine)
    (surroundings : Surroundings) (other : ThreadId) :
    (run.commit id engine surroundings).eventsOf other =
      (run.report id (engine.step run.context surroundings).2).eventsOf other := by
  unfold commit
  dsimp only
  split
  · refine (eventsOf_report_of_quiet (events_farewell _ id _)).trans ?_
    rw [eventsOf_applyPlan]
    rfl
  · rw [eventsOf_applyPlan]
    rfl

/-- The event is shown by a step of the engine whose turn it is. -/
def Shows (run : Run) (id : ThreadId) (event : Event) : Prop :=
  ∃ engine surroundings, run.engineAt? id = some engine ∧ surroundings.Honest ∧
    event ∈ Report.events (engine.step run.context surroundings).2

theorem shown_commit (shown : event ∈ (before.commit id engine surroundings).eventsOf other)
    (context : before.context = run.context)
    (events : before.eventsOf other = run.eventsOf other)
    (present : run.engineAt? id = some engine) (honest : surroundings.Honest) :
    event ∈ run.eventsOf other ∨ run.Shows id event := by
  rw [eventsOf_commit, eventsOf_report, events, context] at shown
  rcases List.mem_append.mp shown with earlier | now
  · exact Or.inl earlier
  · split at now
    · exact Or.inr ⟨engine, surroundings, present, honest, now⟩
    · cases now

theorem shown_crash {thread : Thread} {reports : List Report}
    (shown : event ∈ (run.crash id thread reports).eventsOf other)
    (told : ∀ event ∈ Report.events reports, run.Shows id event) :
    event ∈ run.eventsOf other ∨ run.Shows id event := by
  change event ∈ (run.report id reports).applyPlan.eventsOf other at shown
  rw [eventsOf_applyPlan, eventsOf_report] at shown
  rcases List.mem_append.mp shown with earlier | now
  · exact Or.inl earlier
  · split at now
    · exact Or.inr (told event now)
    · cases now

theorem shown_turnReady {thread : Thread} (present : run.threads[id]? = some thread)
    (shown : event ∈ (run.turnReady id thread).eventsOf other) :
    event ∈ run.eventsOf other ∨ run.Shows id event := by
  have seen := engineAt?_of_getElem? present
  unfold turnReady at shown
  dsimp only at shown
  split at shown
  · exact shown_commit shown rfl rfl seen run.surroundings_honest
  · split at shown
    · refine shown_crash shown fun event now => ?_
      rw [Engine.events_announcement] at now
      cases now
    · exact shown_commit shown rfl rfl seen run.surroundings_honest
  · exact shown_commit shown (context_startChild run _ _) (eventsOf_startChild run _ _ other) seen
      run.surroundings_honest
  · split at shown
    · rename_i supervisor reply joined
      exact shown_commit shown rfl rfl seen fun _ => Supervisor.join_honest joined
    · exact Or.inl shown

/-- Whatever a turn adds to the events of a run is shown by the step it lets an engine
take. -/
theorem shown_turn {context : Context} (sound : run.Sound context)
    (shown : event ∈ (run.turn id).eventsOf other) :
    event ∈ run.eventsOf other ∨ run.Shows id event := by
  unfold turn at shown
  cases present : run.threads[id]? with
  | none =>
      rw [present] at shown
      exact Or.inl shown
  | some thread =>
      have fits := sound.threads thread (List.mem_of_getElem? present)
      rw [present] at shown
      dsimp only at shown
      split at shown
      · exact Or.inl shown
      · exact Or.inl shown
      · exact Or.inl shown
      · rename_i reply answered
        exact shown_commit shown rfl rfl (engineAt?_of_getElem? present)
          fun _ => fits.reply reply answered
      · split at shown
        · exact Or.inl shown
        · split at shown
          · rename_i reports broken
            exact shown_crash shown fun event now => ⟨_, run.surroundings,
              engineAt?_of_getElem? present, run.surroundings_honest,
              Engine.events_of_breakdown? broken now⟩
          · exact shown_turnReady present shown

end Shown

/-! ## Runs -/

/-- No engine of the run has `unset` on its stack or in its memory, or has shown it. -/
structure Written (run : Run) : Prop where
  engines : ∀ id engine, run.engineAt? id = some engine → engine.Written
  events : ∀ id, ∀ event ∈ run.eventsOf id, event.Written

section Written

variable {run : Run} {context : Context}

theorem IsNew.written {parent child : Engine} (new : IsNew parent child)
    (memory : parent.stores.memory.Written) : child.Written where
  stack value member := by
    rw [new.2.1] at member
    cases member
  memory := by
    rw [new.1]
    exact memory
  status fault faulted := by
    rw [new.2.2] at faulted
    cases faulted

theorem Written.engines_turn (written : run.Written) (sound : run.Sound context) (id : ThreadId) :
    ∀ other engine, (run.turn id).engineAt? other = some engine → engine.Written := by
  intro other found present
  cases turn_turned sound id with
  | still same silent =>
      rw [engineAt?_of_scene same] at present
      exact written.engines other found present
  | @moved engine surroundings children moves =>
      have mover := written.engines id engine moves.present
      have moved := mover.step run.context moves.honest
      by_cases own : other = id
      · rw [own, moves.engineAt?_self] at present
        cases present
        exact moved
      · cases mode : run.context.settings.isolation with
        | shared =>
            -- The neighbours see the memory that the step has left, not the one they had.
            rcases moves.neighbour_shared mode own present with
              ⟨stores, ⟨empty, idle⟩ | ⟨before, earlier, stack, status⟩⟩
            · exact IsNew.written ⟨stores, empty, idle⟩ moved.memory
            · have kept := written.engines other before earlier
              exact ⟨stack ▸ kept.stack, stores ▸ moved.memory, status ▸ kept.status⟩
        | isolated =>
            rcases moves.neighbour_isolated mode own present with earlier | ⟨-, new⟩
            · exact written.engines other found earlier
            · exact new.written mover.memory

theorem Written.turn (written : run.Written) (sound : run.Sound context) (id : ThreadId) :
    (run.turn id).Written := by
  refine ⟨written.engines_turn sound id, fun other event shown => ?_⟩
  rcases shown_turn sound shown with earlier | ⟨engine, surroundings, present, honest, now⟩
  · exact written.events other event earlier
  · exact (written.engines id engine present).shown run.context honest now

theorem written_first (settings : Settings) (faults : FaultSource) :
    (Engine.first settings faults).Written :=
  ⟨fun _ member => absurd member List.not_mem_nil, fun _ member => absurd member List.not_mem_nil,
    fun _ => Status.noConfusion⟩

theorem written_create (context : Context) (backend : Inference) (plan : StopPlan)
    (manual : Bool) (faults : FaultSource) :
    (create context backend plan manual faults).Written := by
  have first := written_first context.settings faults
  constructor
  · intro id engine present
    rcases Option.map_eq_some_iff.mp present with ⟨thread, listed, rfl⟩
    rw [List.mem_singleton.mp (List.mem_of_getElem? listed)]
    unfold view
    split
    · exact ⟨first.stack, first.memory, first.status⟩
    · exact first
  · intro id event shown
    have silent : (create context backend plan manual faults).eventsOf id = [] := by
      cases manual <;> simp [create, eventsOf, reports, Report.event?]
    rw [silent] at shown
    cases shown

/-- A change from outside is seen in the stores of engines only. -/
theorem engineAt?_changeStores {stores : Stores} {id : ThreadId} {engine : Engine}
    (present : (run.changeStores stores).engineAt? id = some engine) :
    ∃ before, run.engineAt? id = some before ∧
      (engine = before ∨ engine = { before with stores }) := by
  rcases Option.map_eq_some_iff.mp present with ⟨thread, listed, rfl⟩
  simp only [changeStores, List.getElem?_modify] at listed
  rcases Option.map_eq_some_iff.mp listed with ⟨old, found, changed⟩
  refine ⟨run.view old.engine, engineAt?_of_getElem? found, ?_⟩
  by_cases main : ThreadId.initial = id
  · rw [if_pos main] at changed
    subst changed
    refine Or.inr ?_
    cases mode : run.context.settings.isolation <;> simp only [view, changeStores, mode]
  · rw [if_neg main] at changed
    subst changed
    cases mode : run.context.settings.isolation with
    | shared => exact Or.inr (by simp only [view, changeStores, mode])
    | isolated => exact Or.inl (by simp only [view, changeStores, mode])

theorem Written.changeStores (written : run.Written) {stores : Stores}
    (memory : stores.memory.Written) : (run.changeStores stores).Written := by
  refine ⟨fun id engine present => ?_, written.events⟩
  rcases engineAt?_changeStores present with ⟨before, earlier, rfl | rfl⟩
  · exact written.engines id _ earlier
  · have kept := written.engines id before earlier
    exact ⟨kept.stack, memory, kept.status⟩

theorem Written.mainEngine (written : run.Written) : run.mainEngine.Written := by
  unfold Run.mainEngine
  split
  · rename_i thread present
    exact written.engines .initial _ (engineAt?_of_getElem? present)
  · exact written_first _ _

theorem Written.report (written : run.Written) (id : ThreadId) {reports : List Report}
    (quiet : Report.events reports = []) : (run.report id reports).Written := by
  refine ⟨written.engines, fun other event shown => ?_⟩
  rw [eventsOf_report_of_quiet quiet] at shown
  exact written.events other event shown

end Written

/-! ## Schedules -/

/-- The runs that turns in any order lead to.  At any time the backend may be another one, the
system may begin or cease to refuse threads, and the run may be asked to stop.  Whoever holds the main engine may write its registers,
give slots of its memory back, and take slots for any value but `unset`. -/
inductive Scheduled (context : Context) : Run → Prop where
  | create (backend : Inference) (plan : StopPlan) (manual : Bool) (faults : FaultSource) :
      Scheduled context (.create context backend plan manual faults)
  | turn {run : Run} (earlier : Scheduled context run) (id : ThreadId) :
      Scheduled context (run.turn id)
  | meeting {run : Run} (earlier : Scheduled context run) (backend : Inference) :
      Scheduled context { run with backend }
  | requestStop {run : Run} (earlier : Scheduled context run) : Scheduled context run.requestStop
  | setRefusal {run : Run} (earlier : Scheduled context run) (refusal : Option String) :
      Scheduled context (run.setRefusal refusal)
  | write {run : Run} (earlier : Scheduled context run) (name : String) (value : Value) :
      Scheduled context (run.write name value)
  | free {run next : Run} {address : Handle} {value : Value} (earlier : Scheduled context run)
      (freed : run.free address = .ok (next, value)) : Scheduled context next
  | allocate {run : Run} {value : Value} (earlier : Scheduled context run)
      (given : value ≠ .unset) : Scheduled context (run.allocate value).1

section Scheduled

variable {run next : Run} {context : Context}

theorem changeStores_of_free {address : Handle} {value : Value}
    (freed : run.free address = .ok (next, value)) :
    ∃ memory, run.mainEngine.stores.memory.free address = .ok (memory, value) ∧
      next = run.changeStores { run.mainEngine.stores with memory } := by
  unfold Run.free at freed
  dsimp only at freed
  cases released : run.mainEngine.stores.memory.free address with
  | error error =>
      rw [released] at freed
      cases freed
  | ok pair =>
      rw [released] at freed
      cases freed
      exact ⟨pair.1, rfl, rfl⟩

theorem Scheduled.sound (scheduled : run.Scheduled context) : run.Sound context := by
  induction scheduled with
  | create backend plan manual faults => exact sound_create context backend plan manual faults
  | turn earlier id ih => exact ih.turn id
  | meeting earlier backend ih => exact ih.of_same rfl rfl
  | requestStop earlier ih => exact ih.of_same rfl rfl
  | setRefusal earlier refusal ih => exact ih.of_same rfl rfl
  | write earlier name value ih => exact ih.changeStores _
  | free earlier freed ih =>
      rcases changeStores_of_free freed with ⟨memory, -, rfl⟩
      exact ih.changeStores _
  | allocate earlier given ih => exact (ih.report .initial _).changeStores _

theorem Scheduled.written (scheduled : run.Scheduled context) : run.Written := by
  induction scheduled with
  | create backend plan manual faults => exact written_create context backend plan manual faults
  | turn earlier id ih => exact ih.turn earlier.sound id
  | meeting earlier backend ih => exact ⟨ih.engines, ih.events⟩
  | requestStop earlier ih => exact ⟨ih.engines, ih.events⟩
  | setRefusal earlier refusal ih => exact ⟨ih.engines, ih.events⟩
  | write earlier name value ih => exact ih.changeStores ih.mainEngine.memory
  | free earlier freed ih =>
      rcases changeStores_of_free freed with ⟨memory, released, rfl⟩
      exact ih.changeStores (ih.mainEngine.memory.free released)
  | @allocate run value earlier given ih =>
      have told := ih.report .initial
        (Report.events_notices (Notice.ofAllocate run.mainEngine.stores.memory))
      exact told.changeStores (ih.mainEngine.memory.allocate given)

theorem Scheduled.turns (scheduled : run.Scheduled context) (order : List ThreadId) :
    (order.foldl Run.turn run).Scheduled context := by
  induction order generalizing run with
  | nil => exact scheduled
  | cons id rest ih => exact ih (scheduled.turn id)

end Scheduled

/-- Neither the engines of a run nor anyone who watches it ever meets `unset`. -/
structure Conceals (run : Run) : Prop where
  stack : ∀ id engine, run.engineAt? id = some engine →
    ∀ value ∈ engine.stack.toList, value ≠ .unset
  /-- This is about slots in use only, since a free slot holds `unset`. -/
  memory : ∀ id engine, run.engineAt? id = some engine →
    ∀ page ∈ engine.stores.memory.pages, ∀ slot ∈ page.slots,
      slot.used = true → slot.value ≠ .unset
  printed : ∀ id value, .printed value ∈ run.eventsOf id → value ≠ .unset
  /-- No fault names its kind, neither where it is shown nor where the engine keeps it. -/
  faulted : ∀ id fault, .faulted fault ∈ run.eventsOf id → .unset ∉ fault.cause.kinds
  status : ∀ id engine fault, run.engineAt? id = some engine →
    engine.status = .faulted fault → .unset ∉ fault.cause.kinds

/-- **What was never written stays in registers.**  This holds at any time of a run, for
every program, every backend and every order of turns, whether or not the engines share
their registers and memory, and whichever threads the system refuses. -/
theorem conceals_unset {context : Context} {run : Run} (scheduled : run.Scheduled context) :
    run.Conceals where
  stack id engine present value listed :=
    (scheduled.written.engines id engine present).stack value (List.mem_reverse.mp listed)
  memory id engine present := (scheduled.written.engines id engine present).memory
  printed id _ shown := scheduled.written.events id _ shown
  faulted id _ shown := scheduled.written.events id _ shown
  status id engine fault present := (scheduled.written.engines id engine present).status fault

/-- Three registers hold `unset`: one by a literal, one by the backend, and one because it
was only created.  One engine puts what it reads into memory and then wants another thread,
and a second one prints what it reads and adds text to it. -/
def forgetful : Program where
  code := [⟨.ofOp .write [.register "x", .literal .unset], 1⟩,
    ⟨.ofOp .infer [.word "why"], 2⟩, ⟨.ofOp .allocReg [.register "y"], 3⟩,
    ⟨.ofOp .write [.register "s", .literal (.text "a")], 4⟩, ⟨.ofOp .thread [.target 8], 5⟩,
    ⟨.ofOp .read [.register "x"], 6⟩, ⟨.ofOp .alloc [], 7⟩,
    ⟨.ofOp .thread [.target 8], 8⟩, ⟨.ofOp .read [.register Inference.register], 9⟩, ⟨.ofOp .print [], 10⟩,
    ⟨.ofOp .read [.register "y"], 11⟩, ⟨.ofOp .read [.register "s"], 12⟩, ⟨.ofOp .add [], 13⟩]

def forgetfulContext : Context :=
  ⟨forgetful, { Settings.standard with isolation := .shared }⟩

/-- The system grants the first thread and refuses the second one. -/
def forgetfulRun : Run :=
  let begun := [0, 0, 0, 0, 0, 1, 0, 1, 0].foldl turn
    (create forgetfulContext (.constant .unset) .never false (.ofSeed 7))
  [0, 1, 1, 1].foldl turn (begun.setRefusal (some "no more threads"))

theorem forgetful_conceals :
    forgetfulRun.Scheduled forgetfulContext ∧ forgetfulRun.supervisor.nextThread = 3 ∧
      forgetfulRun.eventsOf 0 =
        [.spawned 1 8, .faulted ⟨7, .spawnFailed "no more threads"⟩] ∧
      forgetfulRun.common.registers.unwritten = ["x", Inference.register, "y"] ∧
      forgetfulRun.common.memory.read ⟨0, 0, 0⟩ = .ok (.integer 0) ∧
      forgetfulRun.eventsOf 1 =
        [.printed (.integer 0), .faulted ⟨12, .typeMismatch .add .integer .text⟩] ∧
      forgetfulRun.Conceals := by
  have begun : Scheduled forgetfulContext ([0, 0, 0, 0, 0, 1, 0, 1, 0].foldl turn
      (create forgetfulContext (.constant .unset) .never false (.ofSeed 7))) :=
    Scheduled.turns (.create (.constant .unset) .never false (.ofSeed 7)) _
  have scheduled : forgetfulRun.Scheduled forgetfulContext :=
    (begun.setRefusal (some "no more threads")).turns _
  exact ⟨scheduled, by decide +kernel, by decide +kernel, by decide +kernel, by decide +kernel,
    by decide +kernel, conceals_unset scheduled⟩

/-- A program that loads through a handle it was given. -/
def trusting : Context where
  program := ⟨[⟨.ofOp .read [.register "h"], 1⟩, ⟨.ofOp .load [], 2⟩]⟩
  settings := .standard

-- Whoever holds the main engine can put `unset` into a slot, and a program that is given the
-- handle then loads it.
example :
    let opened := (create trusting .echo .never true (.ofSeed 7)).allocate .unset
    let run := [0, 0].foldl turn (opened.1.write "h" (.handle opened.2))
    (run.engineAt? 0).map (fun engine => engine.stack.toList) = some [.unset] := by
  decide +kernel

end Run
end CommandMachine
