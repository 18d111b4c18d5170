import CommandMachine.Proofs.Reachability
import CommandMachine.Proofs.Translation
namespace CommandMachine

/-!
# Control never leaves the program

A compiled program sends an engine nowhere but to one of its instructions or just
behind the last one.  The operands that name a place are bounded by the compiler;
the return addresses, which depend on the calls made so far, are bounded because
a call can only be executed by an instruction of the program.  So an engine that
faults does so at an instruction, whose source line is known, unless it has merely
used up its budget behind the last one.
-/

/-! ## Places that a program names -/

/-- Every place that an instruction names is at most the size of the program. -/
def Program.Closed (program : Program) : Prop :=
  ∀ counter instruction op target rest, program.get? counter = some instruction →
    instruction.op? = some op → op.shape = .target →
    instruction.operands = .target target :: rest → target ≤ program.size

theorem Program.lt_size_of_get? {program : Program} {counter : Nat} {instruction : Instruction}
    (found : program.get? counter = some instruction) : counter < program.size := by
  rcases Option.map_eq_some_iff.mp found with ⟨placed, listed, -⟩
  exact (List.getElem?_eq_some_iff.mp listed).1

theorem Assembly.closed_of_compile {aliases : Aliases} {lines : List String}
    {program : Program} (compiled : compile aliases lines = .ok program) : program.Closed := by
  intro counter instruction op target rest found decoded shape leading
  rcases compile_eq_ok compiled with ⟨sourceLines, resolution, -, resolved, assembled⟩
  rcases command_of_get? assembled found with ⟨line, -, made⟩
  rcases target_of_ofTokens resolved made with ⟨known, same, placed⟩
  rw [decoded] at same
  cases same
  rcases placed shape with ⟨modifier, word, name, place, -, operands, refers⟩
  rw [leading] at operands
  cases operands
  rw [size_of_code assembled]
  exact refers.place_le

/-! ## Return addresses -/

namespace CallStack

/-- The call stack keeps to the limit and returns to places up to `size` only. -/
structure Within (size limit : Nat) (calls : CallStack) : Prop where
  frames : ∀ address ∈ calls.frames, address ≤ size
  limit_eq : calls.limit = limit
  depth_le : calls.depth ≤ limit

variable {size limit : Nat} {calls next : CallStack}

theorem within_ofLimit (size limit : Nat) : (CallStack.ofLimit limit).Within size limit :=
  ⟨fun _ member => (List.not_mem_nil member).elim, rfl, Nat.zero_le limit⟩

theorem Within.push? (within : calls.Within size limit) {address : Nat} (bound : address ≤ size)
    (pushed : calls.push? address = some next) : next.Within size limit := by
  unfold CallStack.push? at pushed
  split at pushed
  · rename_i room
    cases pushed
    refine ⟨?_, within.limit_eq, ?_⟩
    · intro other member
      rcases List.mem_cons.mp member with rfl | kept
      · exact bound
      · exact within.frames other kept
    · rw [within.limit_eq] at room
      exact room
  · cases pushed

theorem Within.pop? (within : calls.Within size limit) {address : Nat}
    (popped : calls.pop? = some (address, next)) : address ≤ size ∧ next.Within size limit := by
  rcases calls with ⟨frames, bound⟩
  cases frames with
  | nil => cases popped
  | cons top rest =>
      cases popped
      refine ⟨within.frames _ List.mem_cons_self, ?_, within.limit_eq, ?_⟩
      · intro other member
        exact within.frames other (List.mem_cons_of_mem _ member)
      · exact Nat.le_of_succ_le within.depth_le

end CallStack

/-! ## One step -/

namespace Engine

/-- An operation of a closed program leaves a call stack within the bounds, and if it
jumps, it jumps to a place within them. -/
theorem Directs.within {engine : Engine} {op : Op} {operands : List Operand}
    {calls : CallStack} {control : Control} {size limit : Nat}
    (directs : Directs engine op operands calls control)
    (named : ∀ target rest, op.shape = .target → operands = .target target :: rest →
      target ≤ size)
    (inside : engine.counter < size) (within : engine.calls.Within size limit) :
    calls.Within size limit ∧ ∀ target, control = .jump target → target ≤ size := by
  cases directs with
  | onward => exact ⟨within, fun _ jumps => nomatch jumps⟩
  | again => exact ⟨within, fun _ jumps => nomatch jumps⟩
  | stop => exact ⟨within, fun _ jumps => nomatch jumps⟩
  | fault => exact ⟨within, fun _ jumps => nomatch jumps⟩
  | jump which operand =>
      refine ⟨within, ?_⟩
      intro target jumps
      cases jumps
      have shape : op.shape = .target := by
        rcases which with rfl | rfl | rfl <;> rfl
      exact named _ _ shape operand
  | call calling operand pushed =>
      refine ⟨within.push? inside pushed, ?_⟩
      intro target jumps
      cases jumps
      exact named _ _ (by rw [calling]; rfl) operand
  | ret _ popped =>
      have taken := within.pop? popped
      refine ⟨taken.2, ?_⟩
      intro target jumps
      cases jumps
      exact taken.1

/-- A step that ends in a fault names the present place.  Either the budget is used
up, or there is an instruction at that place. -/
theorem step_fault {context : Context} {surroundings : Surroundings} {engine : Engine}
    {fault : Fault} (honest : surroundings.Honest) (active : engine.status.isFinal = false)
    (faulted : (engine.step context surroundings).1.status = .faulted fault) :
    fault.counter = engine.counter ∧ ((∃ limit, fault.cause = .stepLimitExceeded limit) ∨
      ∃ instruction, context.program.get? engine.counter = some instruction) := by
  have advances := step_advances engine context surroundings
  generalize (engine.step context surroundings).1 = after at advances faulted
  cases advances with
  | finished final =>
      rw [active] at final
      cases final
  | halted => cases faulted
  | overBudget =>
      cases faulted
      exact ⟨rfl, Or.inl ⟨_, rfl⟩⟩
  | undecodable _ found =>
      cases faulted
      exact ⟨rfl, Or.inr ⟨_, found⟩⟩
  | executed _ found _ =>
      have running : engine.wake.tick.status = .running := wake_status active
      have lawful := execute_lawful engine.wake.tick context.settings honest
      have here := (settled_faulted running (lawful _ _) faulted).2
      exact ⟨here.trans engine.wake_counter, Or.inr ⟨_, found⟩⟩

/-- A fault that belongs to an instruction of the program, or to the budget of an
engine just behind the last one. -/
def Located (program : Program) (fault : Fault) : Prop :=
  fault.counter < program.size ∨
    fault.counter = program.size ∧ ∃ limit, fault.cause = .stepLimitExceeded limit

/-- The engine has kept to the program. -/
structure Contained (context : Context) (engine : Engine) : Prop where
  counter : engine.counter ≤ context.program.size
  calls : engine.calls.Within context.program.size context.settings.returnStackSize
  fault : ∀ fault, engine.status = .faulted fault → Located context.program fault

section Contained

variable {context : Context} {surroundings : Surroundings} {engine : Engine}

theorem contained_create {thread : ThreadId} {entry : Nat} (stores : Stores)
    (faults : FaultSource) (bound : entry ≤ context.program.size) :
    (Engine.create context.settings thread entry stores faults).Contained context :=
  ⟨bound, CallStack.within_ofLimit _ _, fun _ faulted => nomatch faulted⟩

theorem Contained.located_of_step (contained : engine.Contained context)
    (honest : surroundings.Honest) (fault : Fault)
    (faulted : (engine.step context surroundings).1.status = .faulted fault)
    (active : engine.status.isFinal = false) : Located context.program fault := by
  rcases step_fault honest active faulted with ⟨here, ⟨limit, budget⟩ | ⟨instruction, found⟩⟩
  · rcases Nat.lt_or_eq_of_le contained.counter with inside | behind
    · exact Or.inl (here ▸ inside)
    · exact Or.inr ⟨here.trans behind, limit, budget⟩
  · exact Or.inl (here ▸ Program.lt_size_of_get? found)

/-- The operation itself keeps the counter and the call stack within the program. -/
theorem Contained.settled (contained : engine.Contained context)
    (closed : context.program.Closed) {instruction : Instruction} {op : Op} {effect : Effect}
    (found : context.program.get? engine.counter = some instruction)
    (decoded : instruction.op? = some op)
    (lawful : Lawful engine.wake.tick op instruction.operands effect) :
    (settled effect).counter ≤ context.program.size ∧
      (settled effect).calls.Within context.program.size context.settings.returnStackSize := by
  have inside := Program.lt_size_of_get? found
  have here : effect.engine.counter = engine.counter :=
    lawful.frame.counter.trans engine.wake_counter
  have started : engine.wake.tick.calls.Within context.program.size
      context.settings.returnStackSize := by
    change engine.wake.calls.Within _ _
    rw [wake_calls]
    exact contained.calls
  rcases lawful.directs.within (fun target rest => closed _ _ _ target rest found decoded)
    (engine.wake_counter.symm ▸ inside) started with ⟨within, jumps⟩
  refine ⟨?_, settled_calls effect ▸ within⟩
  rw [settled_counter]
  cases control : effect.control with
  | next => exact here ▸ inside
  | jump target => exact jumps target control
  | retry => exact here ▸ contained.counter
  | halt => exact here ▸ contained.counter
  | fault cause => exact here ▸ contained.counter

theorem contained_step (closed : context.program.Closed) (honest : surroundings.Honest)
    (contained : engine.Contained context) :
    (engine.step context surroundings).1.Contained context := by
  have located := contained.located_of_step honest
  have advances := step_advances engine context surroundings
  generalize (engine.step context surroundings).1 = after at advances located ⊢
  cases advances with
  | finished => exact contained
  | halted => exact ⟨contained.counter, contained.calls, fun _ faulted => nomatch faulted⟩
  | overBudget active =>
      exact ⟨contained.counter, contained.calls, fun fault faulted => located fault faulted active⟩
  | undecodable active =>
      exact ⟨contained.counter, contained.calls, fun fault faulted => located fault faulted active⟩
  | executed active found decoded =>
      have lawful := execute_lawful engine.wake.tick context.settings honest
      rcases contained.settled closed found decoded (lawful _ _) with ⟨counter, calls⟩
      exact ⟨counter, calls, fun fault faulted => located fault faulted active⟩

theorem Reachable.contained (closed : context.program.Closed)
    (reachable : Reachable context engine) : engine.Contained context := by
  induction reachable with
  | first faults => exact contained_create _ faults (Nat.zero_le _)
  | step honest _ ih => exact contained_step closed honest ih
  | outside stores faults _ ih => exact ⟨ih.counter, ih.calls, ih.fault⟩
  | child thread requested _ _ =>
      rcases request?_spawn requested with ⟨instruction, rest, found, decoded, operands⟩
      exact contained_create _ _ (closed _ _ _ _ rest found decoded rfl operands)

end Contained

end Engine

/-! ## Compiled programs -/

/-- A fault belongs to a command of the source, whose line the program tells, or to
the budget of an engine behind the last command. -/
def Program.Traces (program : Program) (lines : List SourceLine) (fault : Fault) : Prop :=
  (fault.counter < program.size ∧ ∃ line,
    (SourceLine.commands lines)[fault.counter]? = some line ∧
      program.lineOf? fault.counter = some line.number) ∨
  (fault.counter = program.size ∧ ∃ limit, fault.cause = .stepLimitExceeded limit)

theorem Assembly.traces_of_located {aliases : Aliases} {lines : List SourceLine}
    {resolution : Resolution} {program : Program}
    (assembled : code aliases resolution.symbols lines = .ok program.code) {fault : Fault}
    (located : Engine.Located program fault) : program.Traces lines fault := by
  rcases located with inside | behind
  · have listed : fault.counter < (SourceLine.commands lines).length :=
      size_of_code assembled ▸ inside
    have command := List.getElem?_eq_getElem listed
    refine Or.inl ⟨inside, _, command, ?_⟩
    rw [lineOf?_of_code assembled, command, Option.map_some]
  · exact Or.inr behind

/-- Control stays within a compiled program, in every engine and at all times: the
counter and the return addresses are at most its size, and the depth of calls is at
most the limit.  A step that faults names the instruction it was about to execute,
so that the source line of the fault is known; only a used up budget may be met
behind the last instruction. -/
theorem compile_contains_control {aliases : Aliases} {lines : List String} {program : Program}
    (compiled : Assembly.compile aliases lines = .ok program) :
    ∃ sourceLines, SourceLine.scanAll lines = .ok sourceLines ∧
      ∀ settings engine, (Engine.Reachable ⟨program, settings⟩ engine ∨
          ∃ run thread, Run.Reachable ⟨program, settings⟩ run ∧ thread ∈ run.threads ∧
            thread.engine = engine) →
        engine.counter ≤ program.size ∧
        (∀ address ∈ engine.calls.frames, address ≤ program.size) ∧
        engine.calls.depth ≤ settings.returnStackSize ∧
        (∀ fault, engine.status = .faulted fault → program.Traces sourceLines fault) ∧
        ∀ surroundings fault, surroundings.Honest → engine.status.isFinal = false →
          (engine.step ⟨program, settings⟩ surroundings).1.status = .faulted fault →
            fault.counter = engine.counter ∧ program.Traces sourceLines fault := by
  rcases Assembly.compile_eq_ok compiled with
    ⟨sourceLines, resolution, scanned, -, assembled⟩
  refine ⟨sourceLines, scanned, ?_⟩
  intro settings engine origin
  have reachable : Engine.Reachable ⟨program, settings⟩ engine := by
    rcases origin with direct | ⟨run, thread, started, member, rfl⟩
    · exact direct
    · exact (started.sound.threads thread member).engine
  have contained := reachable.contained (Assembly.closed_of_compile compiled)
  refine ⟨contained.counter, contained.calls.frames, contained.calls.depth_le, ?_, ?_⟩
  · intro fault faulted
    exact Assembly.traces_of_located assembled (contained.fault fault faulted)
  · intro surroundings fault honest active faulted
    refine ⟨(Engine.step_fault honest active faulted).1, ?_⟩
    exact Assembly.traces_of_located assembled
      (contained.located_of_step honest fault faulted active)

/-- A source whose only command jumps behind itself. -/
def brink : List String :=
  ["JUMP out", "LABEL out"]

def brinkProgram : Program where
  code := [⟨.ofOp .jump [.target 1], 1⟩]

/-- A run of it with a budget of one instruction. -/
def brinkRun : Run :=
  (Run.create ⟨brinkProgram, { Settings.standard with maxSteps := some 1 }⟩ .standard .never
    false (.ofSeed 7)).execute 2

/-- The exception is needed: the sample run uses up its budget behind the only
instruction, and it is contained all the same. -/
theorem brink_contains_control :
    Assembly.compile .standard brink = .ok brinkProgram ∧
      ∃ thread ∈ brinkRun.threads,
        thread.engine.status = .faulted ⟨brinkProgram.size, .stepLimitExceeded 1⟩ ∧
        thread.engine.counter ≤ brinkProgram.size ∧
        (∀ address ∈ thread.engine.calls.frames, address ≤ brinkProgram.size) ∧
        thread.engine.calls.depth ≤ Settings.standard.returnStackSize := by
  have compiled : Assembly.compile .standard brink = .ok brinkProgram := by
    decide +kernel
  have ends : (brinkRun.threads.head?.map fun thread => thread.engine.status) =
      some (.faulted ⟨brinkProgram.size, .stepLimitExceeded 1⟩) := by
    decide +kernel
  refine ⟨compiled, ?_⟩
  rcases Option.map_eq_some_iff.mp ends with ⟨thread, first, faulted⟩
  have member := List.mem_of_mem_head? first
  rcases compile_contains_control compiled with ⟨sourceLines, -, contains⟩
  have created : Run.Reachable ⟨brinkProgram, { Settings.standard with maxSteps := some 1 }⟩
      (Run.create _ .standard .never false (.ofSeed 7)) :=
    ⟨.standard, .never, false, .ofSeed 7, .refl⟩
  rcases contains _ _ (Or.inr ⟨_, thread, created.advance .initial 2, member, rfl⟩) with
    ⟨counter, frames, depth, -, -⟩
  exact ⟨thread, member, faulted, counter, frames, depth⟩

end CommandMachine
