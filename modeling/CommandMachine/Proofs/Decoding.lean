import CommandMachine.Proofs.Reachability
import CommandMachine.Proofs.Translation
namespace CommandMachine

/-!
# Compiled instructions make sense to the engine

The translator reads operands by the shape of an operation, and the engine asks for
them handler by handler.  The two were written apart.  Here it is shown that what
the one emits is what the other accepts, and that an engine which executes nothing
but accepted instructions never ends in a fault about a code byte or an operand.
-/

/-! ## What the translator emits -/

theorem Text.readUnsigned?_lt {bound number : Nat} {word : List Char}
    (read : readUnsigned? bound word = some number) : number < bound := by
  have kept := (Option.filter_eq_some_iff.mp read).2
  exact of_decide_eq_true kept

namespace Operand

theorem ofRegisterName_eq_ok {line : Nat} {word : String} {operand : Operand}
    (read : ofRegisterName line word = .ok operand) : operand = .register word := by
  unfold ofRegisterName at read
  split at read
  · cases read
    rfl
  · cases read

/-- A value is read as a literal or as a register to copy from. -/
theorem ofValueWords_eq_ok {line : Nat} {words : List String} {operand : Operand}
    (read : ofValueWords line words = .ok operand) :
    (∃ value, operand = .literal value) ∨ ∃ name, operand = .register name := by
  unfold ofValueWords at read
  split at read
  · cases read
    exact Or.inl ⟨_, rfl⟩
  · unfold ofValueWord at read
    split at read
    · cases read
      exact Or.inl ⟨_, rfl⟩
    · split at read
      · cases read
      · exact Or.inr ⟨_, ofRegisterName_eq_ok read⟩
  · cases read
    exact Or.inl ⟨_, rfl⟩

/-- A count of thirty-two bits is not negative as a number of sixty-four. -/
theorem ofCount_eq_ok {line : Nat} {op : Op} {word : String} {operand : Operand}
    (read : ofCount line op word = .ok operand) :
    ∃ count : Int64, operand = .literal (.integer count) ∧ ¬ count < 0 := by
  unfold ofCount at read
  split at read
  · rename_i count found
    cases read
    refine ⟨_, rfl, ?_⟩
    have small : count < 4294967296 := Text.readUnsigned?_lt found
    rw [Int64.lt_iff_toInt_lt, Int64.toInt_ofNat_of_lt (by omega), Int64.toInt_zero]
    omega
  · cases read

theorem ofArguments_accepts {line : Nat} {op : Op} {symbols : Symbols}
    {arguments : List String} {operands : List Operand}
    (read : ofArguments line op symbols arguments = .ok operands) :
    op.accepts operands = true := by
  cases shape : op.shape with
  | bare => cases op <;> simp only [Op.shape, reduceCtorEq] at shape <;> rfl
  | register =>
      simp only [ofArguments, shape] at read
      split at read
      · rcases map_eq_ok.mp read with ⟨operand, found, rfl⟩
        rw [ofRegisterName_eq_ok found]
        cases op <;> simp only [Op.shape, reduceCtorEq] at shape <;> rfl
      · cases read
  | assign =>
      have writes : op = .write := by
        cases op <;> simp only [Op.shape, reduceCtorEq] at shape
        rfl
      subst writes
      simp only [ofArguments, shape] at read
      split at read
      · cases read
      · rcases bind_eq_ok.mp read with ⟨source, value, read⟩
        rcases map_eq_ok.mp read with ⟨operand, found, rfl⟩
        rw [ofRegisterName_eq_ok found]
        rcases ofValueWords_eq_ok value with ⟨literal, rfl⟩ | ⟨other, rfl⟩ <;> rfl
  | target =>
      rcases ofArguments_target shape read with ⟨name, place, -, -, rfl⟩
      cases op <;> simp only [Op.shape, reduceCtorEq] at shape <;> rfl
  | count =>
      have cuts : op = .flowCmp := by
        cases op <;> simp only [Op.shape, reduceCtorEq] at shape
        rfl
      subst cuts
      simp only [ofArguments, shape] at read
      split at read
      · cases read
        rfl
      · rcases map_eq_ok.mp read with ⟨operand, found, rfl⟩
        rcases ofCount_eq_ok found with ⟨count, rfl, positive⟩
        simp [Op.accepts, formWindow, positive]
      · cases read

end Operand

/-- Every instruction has an operation that accepts its operands. -/
def Program.Decodable (program : Program) : Prop :=
  ∀ counter instruction, program.get? counter = some instruction →
    ∃ op, instruction.op? = some op ∧ op.accepts instruction.operands = true

theorem Assembly.decodable_of_compile {aliases : Aliases} {lines : List String}
    {program : Program} (compiled : compile aliases lines = .ok program) :
    program.Decodable := by
  intro counter instruction found
  rcases compile_eq_ok compiled with ⟨sourceLines, resolution, -, -, assembled⟩
  rcases command_of_get? assembled found with ⟨line, -, made⟩
  rcases Instruction.ofTokens_eq_ok made with
    ⟨command, expanded, op, operands, -, -, -, read, rfl⟩
  exact ⟨op, Instruction.op?_ofOp op operands, Operand.ofArguments_accepts read⟩

/-! ## What the engine meets -/

namespace Engine

/-- The engine has not met an instruction that makes no sense. -/
def Untroubled (engine : Engine) : Prop :=
  ∀ fault, engine.status = .faulted fault → fault.cause.isDecoding = false

theorem untroubled_of_not_faulted {engine : Engine} (other : engine.status.fault? = none) :
    engine.Untroubled := by
  intro fault faulted
  simp [faulted, Status.fault?] at other

theorem untroubled_settled {engine : Engine} {op : Op} {operands : List Operand}
    {effect : Effect} (running : engine.status = .running)
    (accepted : op.accepts operands = true) (lawful : Lawful engine op operands effect) :
    (settled effect).Untroubled := by
  intro fault faulted
  have directs := lawful.directs
  rw [(settled_faulted running lawful faulted).1] at directs
  by_contra decoding
  have refused := directs.decoding (by simpa using decoding)
  simp [accepted] at refused

theorem untroubled_step {context : Context} {surroundings : Surroundings} {engine : Engine}
    (decodable : context.program.Decodable) (honest : surroundings.Honest)
    (untroubled : engine.Untroubled) : (engine.step context surroundings).1.Untroubled := by
  have advances := step_advances engine context surroundings
  generalize (engine.step context surroundings).1 = after at advances ⊢
  cases advances with
  | finished => exact untroubled
  | halted => exact untroubled_of_not_faulted rfl
  | overBudget =>
      intro fault faulted
      cases faulted
      rfl
  | undecodable _ found unknown =>
      rcases decodable _ _ found with ⟨op, decoded, -⟩
      rw [unknown] at decoded
      cases decoded
  | executed active found decoded =>
      rcases decodable _ _ found with ⟨op, known, accepted⟩
      rw [decoded] at known
      cases known
      have running : engine.wake.tick.status = .running := wake_status active
      exact untroubled_settled running accepted
        (execute_lawful _ context.settings honest _ _)

theorem Reachable.untroubled {context : Context} {engine : Engine}
    (decodable : context.program.Decodable) (reachable : Reachable context engine) :
    engine.Untroubled := by
  induction reachable with
  | first faults => exact untroubled_of_not_faulted rfl
  | step honest _ ih => exact untroubled_step decodable honest ih
  | outside stores faults _ ih => exact ih
  | child thread _ _ _ => exact untroubled_of_not_faulted rfl

end Engine

/-- Compiled code never trips the checks of the engine.  Every instruction has an
operation, and that operation accepts its operands, where the accepted operands are
exactly those that its handler does not refuse.  So no engine of any run ends in a
fault about a code byte or an operand. -/
theorem compile_never_misdecoded {aliases : Aliases} {lines : List String} {program : Program}
    (compiled : Assembly.compile aliases lines = .ok program) :
    (∀ counter instruction, program.get? counter = some instruction →
      ∃ op, instruction.op? = some op ∧ op.accepts instruction.operands = true ∧
        ∀ (engine : Engine) settings surroundings operands, surroundings.Honest →
          (Engine.Refuses (engine.execute settings surroundings op operands) ↔
            op.accepts operands = false)) ∧
    (∀ settings engine, Engine.Reachable ⟨program, settings⟩ engine →
      ∀ fault, engine.status = .faulted fault → fault.cause.isDecoding = false) ∧
    ∀ settings run, Run.Reachable ⟨program, settings⟩ run → ∀ thread ∈ run.threads,
      ∀ fault, thread.engine.status = .faulted fault → fault.cause.isDecoding = false := by
  have decodable := Assembly.decodable_of_compile compiled
  refine ⟨?_, ?_, ?_⟩
  · intro counter instruction found
    rcases decodable counter instruction found with ⟨op, decoded, accepted⟩
    refine ⟨op, decoded, accepted, ?_⟩
    intro engine settings surroundings operands honest
    exact engine.refuses_execute_iff settings honest op operands
  · intro settings engine reachable
    exact reachable.untroubled decodable
  · intro settings run reachable thread member
    exact (reachable.sound.threads thread member).engine.untroubled decodable

/-- However long the sample program is executed, none of its engines meets an
instruction that makes no sense. -/
theorem detour_never_misdecoded :
    Assembly.compile .standard Assembly.detour = .ok Assembly.detourProgram ∧
      ∀ limit, ∀ thread ∈ ((Run.create ⟨Assembly.detourProgram, .standard⟩ .standard .never
          false (.ofSeed 7)).execute limit).threads,
        ∀ fault, thread.engine.status = .faulted fault → fault.cause.isDecoding = false := by
  refine ⟨Assembly.compile_detour, ?_⟩
  intro limit
  have created : Run.Reachable ⟨Assembly.detourProgram, .standard⟩
      (Run.create ⟨Assembly.detourProgram, .standard⟩ .standard .never false (.ofSeed 7)) :=
    ⟨.standard, .never, false, .ofSeed 7, .refl⟩
  exact (compile_never_misdecoded Assembly.compile_detour).2.2 .standard _
    (created.advance .initial limit)

end CommandMachine
