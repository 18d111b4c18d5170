import CommandMachine.Proofs.Execution
import CommandMachine.Run
import Mathlib.Logic.Relation
namespace CommandMachine

/-!
# The states that engines and runs can reach

An engine is moved by its own steps, and between two steps anything may happen to
the registers, the memory and the source of draws that it was given.  `Engine.Reachable`
therefore allows every answer of the surroundings that a host can give and every
change of the stores, and it follows an engine to all those it starts.  A statement
about all these engines holds of every order in which the engines of a run take
their turns; `Run.Reachable` says what the orders are, and each engine of a
reachable run is shown to be a reachable engine.
-/

namespace Engine

/-! ## One step -/

@[simp] theorem wake_counter (engine : Engine) : engine.wake.counter = engine.counter := by
  unfold wake
  split <;> rfl

@[simp] theorem wake_calls (engine : Engine) : engine.wake.calls = engine.calls := by
  unfold wake
  split <;> rfl

theorem wake_status {engine : Engine} (active : engine.status.isFinal = false) :
    engine.wake.status = .running := by
  unfold wake
  cases status : engine.status with
  | idle => rfl
  | running => exact status
  | halted => simp [status, Status.isFinal] at active
  | faulted fault => simp [status, Status.isFinal] at active

theorem wake_halt (engine : Engine) : engine.wake.halt.1 = { engine with status := .halted } := by
  unfold wake halt
  split <;> rfl

theorem wake_raise (engine : Engine) (cause : Cause) :
    (engine.wake.raise cause).1 =
      { engine with status := .faulted ⟨engine.counter, cause⟩ } := by
  unfold wake raise
  split <;> rfl

theorem wake_tick_raise (engine : Engine) (cause : Cause) :
    (engine.wake.tick.raise cause).1 =
      { engine.tick with status := .faulted ⟨engine.counter, cause⟩ } := by
  unfold wake raise
  split <;> rfl

/-- What is known of an engine by what it is about to do. -/
def Fetched (engine : Engine) (context : Context) (stopRequested : Bool) : Fetch → Prop
  | .finished => engine.status.isFinal = true
  | .stopped => engine.status.isFinal = false ∧ stopRequested = true
  | .overBudget limit =>
      engine.status.isFinal = false ∧ engine.exhausted? context.settings = some limit
  | .atEnd => engine.status.isFinal = false ∧ context.program.get? engine.counter = none
  | .undecodable byte => engine.status.isFinal = false ∧ ∃ instruction,
      context.program.get? engine.counter = some instruction ∧ instruction.op? = none ∧
        instruction.opcode = byte
  | .operation op instruction => engine.status.isFinal = false ∧
      context.program.get? engine.counter = some instruction ∧ instruction.op? = some op

theorem fetch_fetched (engine : Engine) (context : Context) (stopRequested : Bool) :
    Fetched engine context stopRequested (engine.fetch context stopRequested) := by
  unfold fetch
  cases final : engine.status.isFinal with
  | true => exact final
  | false =>
      cases stopRequested with
      | true => exact ⟨final, rfl⟩
      | false =>
          cases budget : engine.exhausted? context.settings with
          | some limit => exact ⟨final, budget⟩
          | none =>
              cases found : context.program.get? engine.counter with
              | none => exact ⟨final, found⟩
              | some instruction =>
                  cases decoded : instruction.op? with
                  | none =>
                      simp only [Bool.false_eq_true, if_false, decoded]
                      exact ⟨final, instruction, found, decoded, rfl⟩
                  | some op =>
                      simp only [Bool.false_eq_true, if_false, decoded]
                      exact ⟨final, found, decoded⟩

/-- The engine that an executed operation leaves, once its control has been followed. -/
def settled (effect : Effect) : Engine :=
  (effect.engine.follow effect.control).1

theorem settled_calls (effect : Effect) : (settled effect).calls = effect.engine.calls := by
  unfold settled follow
  cases effect.control <;> rfl

theorem settled_counter (effect : Effect) :
    (settled effect).counter =
      match effect.control with
      | .next => effect.engine.counter + 1
      | .jump target => target
      | _ => effect.engine.counter := by
  unfold settled follow
  cases effect.control <;> rfl

theorem settled_status (effect : Effect) :
    (settled effect).status =
      match effect.control with
      | .halt => .halted
      | .fault cause => .faulted ⟨effect.engine.counter, cause⟩
      | _ => effect.engine.status := by
  unfold settled follow
  cases effect.control <;> rfl

/-- A running engine ends in a fault only if the operation says so, and the fault names
the place of the operation. -/
theorem settled_faulted {engine : Engine} {op : Op} {operands : List Operand} {effect : Effect}
    {fault : Fault} (running : engine.status = .running)
    (lawful : Lawful engine op operands effect)
    (faulted : (settled effect).status = .faulted fault) :
    effect.control = .fault fault.cause ∧ fault.counter = engine.counter := by
  have status := settled_status effect
  have kept := lawful.frame.status.trans running
  rw [faulted] at status
  cases control : effect.control with
  | fault cause =>
      simp only [control] at status
      cases status
      exact ⟨rfl, lawful.frame.counter⟩
  | halt => simp [control] at status
  | next => simp [control, kept] at status
  | jump target => simp [control, kept] at status
  | retry => simp [control, kept] at status

/-- The ways in which a step can change an engine. -/
inductive Advances (context : Context) (surroundings : Surroundings) (engine : Engine) :
    Engine → Prop where
  | finished (final : engine.status.isFinal = true) :
      Advances context surroundings engine engine
  | halted (active : engine.status.isFinal = false)
      (ends : surroundings.stopRequested = true ∨
        context.program.get? engine.counter = none) :
      Advances context surroundings engine { engine with status := .halted }
  | overBudget {limit : Nat} (active : engine.status.isFinal = false)
      (exhausted : engine.exhausted? context.settings = some limit) :
      Advances context surroundings engine
        { engine with status := .faulted ⟨engine.counter, .stepLimitExceeded limit⟩ }
  | undecodable {instruction : Instruction} (active : engine.status.isFinal = false)
      (found : context.program.get? engine.counter = some instruction)
      (unknown : instruction.op? = none) :
      Advances context surroundings engine
        { engine.tick with status := .faulted ⟨engine.counter, .invalidOpcode instruction.opcode⟩ }
  | executed {instruction : Instruction} {op : Op} (active : engine.status.isFinal = false)
      (found : context.program.get? engine.counter = some instruction)
      (decoded : instruction.op? = some op) :
      Advances context surroundings engine
        (settled (engine.wake.tick.execute context.settings surroundings op
          instruction.operands))

theorem step_advances (engine : Engine) (context : Context) (surroundings : Surroundings) :
    Advances context surroundings engine (engine.step context surroundings).1 := by
  have known := fetch_fetched engine context surroundings.stopRequested
  unfold step
  cases fetched : engine.fetch context surroundings.stopRequested with
  | finished =>
      rw [fetched] at known
      exact .finished known
  | stopped =>
      rw [fetched] at known
      change Advances context surroundings engine engine.wake.halt.1
      rw [wake_halt]
      exact .halted known.1 (Or.inl known.2)
  | overBudget limit =>
      rw [fetched] at known
      change Advances context surroundings engine (engine.wake.raise _).1
      rw [wake_raise]
      exact .overBudget known.1 known.2
  | atEnd =>
      rw [fetched] at known
      change Advances context surroundings engine engine.wake.halt.1
      rw [wake_halt]
      exact .halted known.1 (Or.inr known.2)
  | undecodable byte =>
      rw [fetched] at known
      rcases known with ⟨active, instruction, found, unknown, rfl⟩
      change Advances context surroundings engine (engine.wake.tick.raise _).1
      rw [wake_tick_raise]
      exact .undecodable active found unknown
  | operation op instruction =>
      rw [fetched] at known
      exact .executed known.1 known.2.1 known.2.2

/-! ## Reachable engines -/

/-- The engines that a program can lead to: the first one, those that steps lead to,
and those that are started.  Between steps the stores and the source of draws may
change in any way. -/
inductive Reachable (context : Context) : Engine → Prop where
  | first (faults : FaultSource) : Reachable context (.first context.settings faults)
  | step {engine : Engine} {surroundings : Surroundings} (honest : surroundings.Honest)
      (earlier : Reachable context engine) :
      Reachable context (engine.step context surroundings).1
  | outside {engine : Engine} (stores : Stores) (faults : FaultSource)
      (earlier : Reachable context engine) : Reachable context { engine with stores, faults }
  | child {engine : Engine} {stopRequested : Bool} {entry : Nat} (thread : ThreadId)
      (requested : engine.request? context stopRequested = some (.spawn entry))
      (parent : Reachable context engine) :
      Reachable context (engine.child context.settings thread entry)

/-- A new engine starts at the operand of the instruction that asks for it. -/
theorem request?_spawn {engine : Engine} {context : Context} {stopRequested : Bool}
    {entry : Nat} (requested : engine.request? context stopRequested = some (.spawn entry)) :
    ∃ instruction rest, context.program.get? engine.counter = some instruction ∧
      instruction.op? = some .thread ∧ instruction.operands = .target entry :: rest := by
  have known := fetch_fetched engine context stopRequested
  unfold request? at requested
  split at requested
  · cases requested
  · rename_i instruction fetched
    rw [fetched] at known
    split at requested
    · rename_i target rest operands
      cases requested
      exact ⟨instruction, rest, known.2.1, known.2.2, operands⟩
    · cases requested
  · repeat' split at requested
    all_goals cases requested
  · cases requested

end Engine

/-! ## Reachable runs -/

/-- A change of a run: the turn of an engine, a request to stop, a change of the registers and
memory of the main engine by the one who holds it, or a system that begins or ceases to refuse
threads. -/
inductive Run.Move : Run → Run → Prop where
  | turn (run : Run) (id : ThreadId) : Move run (run.turn id)
  | requestStop (run : Run) : Move run run.requestStop
  | setRefusal (run : Run) (refusal : Option String) : Move run (run.setRefusal refusal)
  | changeStores (run : Run) (stores : Stores) : Move run (run.changeStores stores)

/-- The runs that moves in any order lead to. -/
def Run.Reachable (context : Context) (run : Run) : Prop :=
  ∃ backend plan manual faults,
    Relation.ReflTransGen Run.Move (Run.create context backend plan manual faults) run

/-- A thread whose engine can be reached and who has got an answer only from a host. -/
structure Thread.Sound (context : Context) (thread : Thread) : Prop where
  engine : Engine.Reachable context thread.engine
  reply : ∀ reply, thread.phase = .answered reply → reply.Honest

/-- A run all of whose threads are sound. -/
structure Run.Sound (context : Context) (run : Run) : Prop where
  context_eq : run.context = context
  threads : ∀ thread ∈ run.threads, thread.Sound context

/-! ## The answers of a supervisor -/

namespace Supervisor

theorem lookFor_refused {host : Host} {joiner target : ThreadId} {cause : Cause}
    (refused : (host.lookFor joiner target).2 = .refused cause) : cause.isRefusal = true := by
  unfold Host.lookFor at refused
  repeat' split at refused
  all_goals cases refused
  all_goals rfl

theorem beginJoin_refused {host : Host} {joiner target : ThreadId} {cause : Cause}
    (refused : (host.beginJoin joiner target).2 = .refused cause) : cause.isRefusal = true := by
  unfold Host.beginJoin at refused
  split at refused
  · cases refused
    rfl
  · exact lookFor_refused refused

theorem join_honest {supervisor next : Supervisor} {joiner target : ThreadId}
    {reply : JoinReply} (joined : supervisor.join joiner target = (next, some reply)) :
    reply.Honest := by
  intro cause failed
  unfold join at joined
  split at joined
  · rename_i host other looked
    cases joined
    cases failed
    exact beginJoin_refused (congrArg Prod.snd looked)
  · cases joined
    cases failed
  · cases joined
  · split at joined
    · cases joined
      cases failed
    · cases joined

theorem wakeAll_honest (supervisor : Supervisor) (outcome : Outcome) (waits : List PendingJoin) :
    ∀ entry ∈ (supervisor.wakeAll outcome waits).2, entry.2.Honest := by
  induction waits generalizing supervisor with
  | nil =>
      intro entry member
      cases member
  | cons wait rest ih =>
      intro entry member
      rcases List.mem_cons.mp member with rfl | later
      · intro cause failed
        cases failed
      · exact ih _ entry later

theorem finish_honest (supervisor : Supervisor) (thread : ThreadId) (ending : Ending) :
    ∀ entry ∈ (supervisor.finish thread ending).2, entry.2.Honest := by
  intro entry member
  unfold finish at member
  dsimp only at member
  split at member
  · cases member
  · rcases List.mem_cons.mp (List.mem_mergeSort.mp member) with rfl | later
    · intro cause failed
      cases failed
    · exact wakeAll_honest _ _ _ entry later

end Supervisor

/-! ## Turns keep a run sound -/

namespace Run

variable {context : Context} {run : Run}

theorem Sound.of_same {other : Run} (sound : run.Sound context)
    (sameContext : other.context = run.context) (sameThreads : other.threads = run.threads) :
    other.Sound context :=
  ⟨sameContext.trans sound.context_eq, sameThreads ▸ sound.threads⟩

theorem Sound.report (sound : run.Sound context) (id : ThreadId) (reports : List Report) :
    (run.report id reports).Sound context :=
  sound.of_same rfl rfl

theorem Sound.setThread (sound : run.Sound context) (id : ThreadId) {thread : Thread}
    (fits : thread.Sound context) : (run.setThread id thread).Sound context := by
  refine ⟨sound.context_eq, ?_⟩
  intro other member
  rcases List.mem_or_eq_of_mem_set member with kept | rfl
  · exact sound.threads other kept
  · exact fits

theorem reachable_view (run : Run) {engine : Engine}
    (reachable : Engine.Reachable context engine) :
    Engine.Reachable context (run.view engine) := by
  unfold Run.view
  split
  · exact .outside _ engine.faults reachable
  · exact reachable

theorem Sound.setEngine (sound : run.Sound context) (id : ThreadId) {engine : Engine}
    (reachable : Engine.Reachable context engine) : (run.setEngine id engine).Sound context := by
  have fits : Thread.Sound context ⟨engine, .ready⟩ :=
    ⟨reachable, fun reply answered => by cases answered⟩
  exact (sound.setThread id fits).of_same rfl rfl

theorem Sound.answer (sound : run.Sound context) {replies : List (ThreadId × JoinReply)}
    (honest : ∀ entry ∈ replies, entry.2.Honest) : (run.answer replies).Sound context := by
  refine ⟨sound.context_eq, ?_⟩
  intro other member
  rcases List.mem_mapIdx.mp member with ⟨id, inside, rfl⟩
  have fits := sound.threads _ (List.getElem_mem inside)
  cases found : replies.lookup id with
  | none =>
      simp only
      exact fits
  | some reply =>
      simp only
      refine ⟨fits.engine, ?_⟩
      intro given answered
      cases answered
      rcases List.lookup_eq_some_iff.mp found with ⟨before, after, rfl, -⟩
      exact honest (id, reply) (by simp)

theorem Sound.conclude (sound : run.Sound context) (id : ThreadId) (ending : Ending) :
    (run.conclude id ending).Sound context := by
  have kept : Run.Sound context { run with supervisor := (run.supervisor.finish id ending).1 } :=
    sound.of_same rfl rfl
  exact kept.answer (run.supervisor.finish_honest id ending)

theorem Sound.applyPlan (sound : run.Sound context) : run.applyPlan.Sound context := by
  unfold Run.applyPlan
  repeat' split
  all_goals exact sound.of_same rfl rfl

theorem Sound.commit (sound : run.Sound context) (id : ThreadId) {engine : Engine}
    (reachable : Engine.Reachable context engine) {surroundings : Surroundings}
    (honest : surroundings.Honest) : (run.commit id engine surroundings).Sound context := by
  have stepped : Engine.Reachable context (engine.step run.context surroundings).1 := by
    rw [sound.context_eq]
    exact .step honest reachable
  have moved := ((sound.report id (engine.step run.context surroundings).2).setEngine id
    stepped).applyPlan
  unfold Run.commit
  dsimp only
  split
  · exact (moved.report id _).conclude id _
  · exact moved

/-- Another thread has joined those of a run. -/
theorem Sound.joined {next : Run} {thread : Thread} (sound : run.Sound context)
    (same : next.context = run.context) (threads : next.threads = run.threads ++ [thread])
    (fits : thread.Sound context) : next.Sound context := by
  refine ⟨same.trans sound.context_eq, fun other member => ?_⟩
  rw [threads] at member
  rcases List.mem_append.mp member with kept | new
  · exact sound.threads other kept
  · rw [List.mem_singleton.mp new]
    exact fits

theorem Sound.startChild (sound : run.Sound context) {engine : Engine}
    (reachable : Engine.Reachable context engine) {stopRequested : Bool} {entry : Nat}
    (requested : engine.request? context stopRequested = some (.spawn entry)) :
    (run.startChild engine entry).Sound context := by
  let child := engine.child run.context.settings run.supervisor.nextThread entry
  have started : Engine.Reachable context child := by
    change Engine.Reachable context (engine.child run.context.settings _ entry)
    rw [sound.context_eq]
    exact .child _ requested reachable
  have ready : Thread.Sound context ⟨child, .ready⟩ :=
    ⟨started, fun reply answered => by cases answered⟩
  have refused : Thread.Sound context ⟨child, .refused⟩ :=
    ⟨started, fun reply answered => by cases answered⟩
  unfold Run.startChild
  dsimp only
  split
  · apply Sound.report
    exact sound.joined rfl rfl ready
  · exact sound.joined rfl rfl refused

theorem Sound.crash (sound : run.Sound context) (id : ThreadId) {thread : Thread}
    (fits : thread.Sound context) (reports : List Report) :
    (run.crash id thread reports).Sound context := by
  have broken : Thread.Sound context { thread with phase := .crashed } :=
    ⟨fits.engine, fun reply answered => by cases answered⟩
  exact ((sound.report id reports).applyPlan.setThread id broken).conclude id _

theorem surroundings_honest (run : Run) : run.surroundings.Honest := by
  intro target cause failed
  cases failed

theorem Sound.turnReady (sound : run.Sound context) (id : ThreadId) {thread : Thread}
    (fits : thread.Sound context) : (run.turnReady id thread).Sound context := by
  have reachable := run.reachable_view fits.engine
  unfold Run.turnReady
  dsimp only
  split
  · exact sound.commit id reachable run.surroundings_honest
  · split
    · exact sound.crash id fits _
    · have counted : Run.Sound context { run with inferences := run.inferences + 1 } :=
        sound.of_same rfl rfl
      exact counted.commit id reachable run.surroundings_honest
  · rename_i entry requested
    rw [sound.context_eq] at requested
    exact (sound.startChild reachable requested).commit id reachable run.surroundings_honest
  · split
    · rename_i supervisor reply joined
      have kept : Run.Sound context { run with supervisor } := sound.of_same rfl rfl
      exact kept.commit id reachable fun target => Supervisor.join_honest joined
    · rename_i supervisor joined
      have kept : Run.Sound context { run with supervisor } := sound.of_same rfl rfl
      exact kept.setThread id ⟨fits.engine, fun reply answered => by cases answered⟩

theorem Sound.turn (sound : run.Sound context) (id : ThreadId) :
    (run.turn id).Sound context := by
  unfold Run.turn
  split
  · exact sound
  · rename_i thread found
    have fits := sound.threads thread (List.mem_of_getElem? found)
    split
    · exact sound
    · exact sound
    · exact sound
    · rename_i reply answered
      have honest := fits.reply reply answered
      exact sound.commit id (run.reachable_view fits.engine) fun target => honest
    · split
      · exact sound
      · split
        · exact sound.crash id fits _
        · exact sound.turnReady id fits

theorem Sound.changeStores (sound : run.Sound context) (stores : Stores) :
    (run.changeStores stores).Sound context := by
  refine ⟨sound.context_eq, ?_⟩
  intro other member
  rcases List.mem_iff_getElem?.mp member with ⟨index, found⟩
  simp only [Run.changeStores, List.getElem?_modify] at found
  rcases Option.map_eq_some_iff.mp found with ⟨thread, old, rfl⟩
  have fits := sound.threads thread (List.mem_of_getElem? old)
  split
  · exact ⟨.outside stores _ fits.engine, fits.reply⟩
  · exact fits

theorem Sound.move {next : Run} (sound : run.Sound context) (move : Move run next) :
    next.Sound context := by
  cases move with
  | turn id => exact sound.turn id
  | requestStop => exact sound.of_same rfl rfl
  | setRefusal refusal => exact sound.of_same rfl rfl
  | changeStores stores => exact sound.changeStores stores

theorem sound_create (context : Context) (backend : Inference) (plan : StopPlan)
    (manual : Bool) (faults : FaultSource) :
    (Run.create context backend plan manual faults).Sound context := by
  refine ⟨rfl, ?_⟩
  intro thread member
  rw [List.mem_singleton.mp member]
  exact ⟨.first faults, fun reply answered => by cases answered⟩

/-- Whatever the order of the turns, every engine of a run is a reachable engine. -/
theorem Reachable.sound (reachable : Run.Reachable context run) : run.Sound context := by
  rcases reachable with ⟨backend, plan, manual, faults, moves⟩
  induction moves with
  | refl => exact sound_create context backend plan manual faults
  | tail _ move ih => exact ih.move move

/-- The order in which a run is executed is one of the orders of turns. -/
theorem Reachable.advance (reachable : Run.Reachable context run) (first : ThreadId)
    (limit : Nat) : (run.advance first limit).Reachable context := by
  induction limit generalizing run with
  | zero => exact reachable
  | succ limit ih =>
      unfold Run.advance
      cases next : run.advance? first with
      | none => exact reachable
      | some moved =>
          rcases Option.map_eq_some_iff.mp next with ⟨id, -, rfl⟩
          rcases reachable with ⟨backend, plan, manual, faults, moves⟩
          exact ih ⟨backend, plan, manual, faults, moves.tail (.turn run id)⟩

end Run
end CommandMachine
