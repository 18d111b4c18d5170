import CommandMachine.Proofs.Attempts
import CommandMachine.Proofs.Custody
import CommandMachine.Proofs.RegisterOrder
namespace CommandMachine

/-!
# What operations ask of the registers

An operation asks for at most one thing: that a register be there, that a value be written to
one, or that the registers be swept.  Executing it does this to the registers and nothing
else, also where it fails for another reason.

No register is ever made to hold nothing again.  Copying from a register that holds nothing
writes a zero, and a source cannot spell nothing.  Only the backend could answer with it.
-/

open RegisterFile (Operation)

/-- The registers after an operation, if there is one. -/
def RegisterFile.performed (registers : RegisterFile) (operation : Option Operation) :
    RegisterFile :=
  operation.elim registers fun operation => (registers.perform operation).1

theorem RegisterFile.Distinct.performed {registers : RegisterFile}
    (distinct : registers.Distinct) (operation : Option Operation) :
    (registers.performed operation).Distinct := by
  cases operation with
  | none => exact distinct
  | some operation =>
      cases operation with
      | allocate name => exact distinct.allocate name
      | write name value => exact distinct.write name value
      | read name => exact distinct
      | sweep => exact distinct.sweep

/-- The register that is the first operand. -/
def Operand.leadingRegister? : List Operand → Option String
  | .register name :: _ => some name
  | _ => none

namespace Engine

/-- The assignment that the operands describe. -/
def assignment? (engine : Engine) : List Operand → Option Operation
  | .register name :: .literal value :: _ => some (.write name value)
  | .register name :: .register source :: _ =>
    some (.write name (engine.stores.registers.read source).orZero)
  | _ => none

/-- What executing an operation does to the registers.  Some need a register to be there, some
write one, and one sweeps. -/
def registerRequest? (engine : Engine) (surroundings : Surroundings) (op : Op)
    (operands : List Operand) : Option Operation :=
  match op with
  | .allocReg => (Operand.leadingRegister? operands).map .allocate
  | .read => (Operand.leadingRegister? operands).map .allocate
  | .write => engine.assignment? operands
  | .infer => some (.write Inference.register (surroundings.infer (payload operands)))
  | .sift => some .sweep
  | _ => none

theorem sift_of_sweep {engine : Engine} {surroundings : Surroundings} {op : Op}
    {operands : List Operand}
    (sweeps : engine.registerRequest? surroundings op operands = some .sweep) : op = .sift := by
  unfold registerRequest? at sweeps
  split at sweeps
  · simp at sweeps
  · simp at sweeps
  · unfold assignment? at sweeps
    split at sweeps <;> cases sweeps
  · cases sweeps
  · rfl
  · cases sweeps

/-! ## One operation -/

/-- An effect leaves the registers in a certain state. -/
def Leaves (registers : RegisterFile) (effect : Effect) : Prop :=
  effect.engine.stores.registers = registers

section Handlers

variable {engine : Engine} {registers : RegisterFile} {op : Op} {operands : List Operand}

theorem leaves_withPop (same : engine.stores.registers = registers)
    {use : Value → Engine → Effect}
    (leaves : ∀ value stack, Leaves registers (use value { engine with stack })) :
    Leaves registers (engine.withPop use) := by
  unfold withPop
  split
  · exact same
  · exact leaves _ _

theorem leaves_withPopHandle (same : engine.stores.registers = registers)
    {use : Handle → Engine → Effect}
    (leaves : ∀ address stack, Leaves registers (use address { engine with stack })) :
    Leaves registers (engine.withPopHandle op use) := by
  refine leaves_withPop same fun value stack => ?_
  cases value with
  | handle address => exact leaves address stack
  | unset => exact same
  | integer number => exact same
  | float number => exact same
  | text content => exact same

theorem leaves_withTarget (same : engine.stores.registers = registers) {use : Nat → Effect}
    (leaves : ∀ target, Leaves registers (use target)) :
    Leaves registers (engine.withTarget op operands use) := by
  unfold withTarget
  split
  · exact leaves _
  · exact same

/-- Needing a register to be there. -/
theorem leaves_withRegister {use : String → Effect}
    (leaves : ∀ name, Leaves (engine.stores.registers.allocate name) (use name)) :
    Leaves (engine.stores.registers.performed
      ((Operand.leadingRegister? operands).map .allocate))
      (engine.withRegister op operands use) := by
  cases operands with
  | nil => rfl
  | cons first rest =>
      cases first with
      | register name => exact leaves name
      | literal value => rfl
      | target counter => rfl
      | word content => rfl

variable (engine operands)

theorem leaves_flowCmp : Leaves engine.stores.registers (engine.flowCmp operands) := by
  unfold flowCmp
  repeat' split
  all_goals rfl

theorem leaves_ping (policy : PingPolicy) :
    Leaves engine.stores.registers (engine.ping policy operands) := by
  unfold ping retry
  dsimp only
  repeat' split
  all_goals rfl

theorem leaves_write :
    Leaves (engine.stores.registers.performed (engine.assignment? operands))
      (engine.write operands) := by
  cases operands with
  | nil => rfl
  | cons first rest =>
      cases first with
      | register name =>
          cases rest with
          | nil => rfl
          | cons second later => cases second <;> rfl
      | literal value => rfl
      | target counter => rfl
      | word content => rfl

theorem leaves_arithmetic (op : Op) (operation : Arithmetic.Operation) :
    Leaves engine.stores.registers (engine.arithmetic op operation) := by
  refine leaves_withPop rfl fun right stack => leaves_withPop rfl fun left rest => ?_
  cases Arithmetic.apply operation left right <;> rfl

theorem leaves_jumpIf (op : Op) (wanted : Bool) :
    Leaves engine.stores.registers (engine.jumpIf op wanted operands) := by
  refine leaves_withTarget rfl fun target => leaves_withPop rfl fun value stack => ?_
  repeat' split
  all_goals rfl

theorem leaves_call : Leaves engine.stores.registers (engine.call operands) := by
  refine leaves_withTarget rfl fun target => ?_
  split <;> rfl

theorem leaves_ret : Leaves engine.stores.registers engine.ret := by
  unfold ret
  split <;> rfl

theorem leaves_startThread (surroundings : Surroundings) :
    Leaves engine.stores.registers (engine.startThread surroundings operands) := by
  refine leaves_withTarget rfl fun entry => ?_
  dsimp only
  split <;> rfl

theorem leaves_join (surroundings : Surroundings) :
    Leaves engine.stores.registers (engine.join surroundings) := by
  refine leaves_withPop rfl fun value stack => ?_
  dsimp only
  repeat' split
  all_goals rfl

theorem leaves_free : Leaves engine.stores.registers engine.free := by
  refine leaves_withPopHandle rfl fun address stack => ?_
  dsimp only
  split <;> rfl

theorem leaves_load : Leaves engine.stores.registers engine.load := by
  refine leaves_withPopHandle rfl fun address stack => ?_
  dsimp only
  split <;> rfl

theorem leaves_store : Leaves engine.stores.registers engine.store := by
  refine leaves_withPop rfl fun value stack => leaves_withPopHandle rfl fun address rest => ?_
  dsimp only
  split <;> rfl

/-- Executing an operation does to the registers what it asks of them. -/
theorem execute_leaves (settings : Settings) (surroundings : Surroundings) (op : Op) :
    Leaves (engine.stores.registers.performed
      (engine.registerRequest? surroundings op operands))
      (engine.execute settings surroundings op operands) := by
  cases op with
  | optimize => rfl
  | allocReg => exact leaves_withRegister fun _ => rfl
  | flowCmp => exact leaves_flowCmp engine operands
  | release => rfl
  | ping => exact leaves_ping engine operands settings.ping
  | sift => rfl
  | infer => rfl
  | pause => rfl
  | write => exact leaves_write engine operands
  | read => exact leaves_withRegister fun _ => rfl
  | add => exact leaves_arithmetic engine .add .add
  | sub => exact leaves_arithmetic engine .sub .sub
  | mul => exact leaves_arithmetic engine .mul .mul
  | div => exact leaves_arithmetic engine .div .div
  | mod => exact leaves_arithmetic engine .mod .mod
  | jump => exact leaves_withTarget rfl fun _ => rfl
  | jumpZero => exact leaves_jumpIf engine operands .jumpZero true
  | jumpNonzero => exact leaves_jumpIf engine operands .jumpNonzero false
  | print => exact leaves_withPop rfl fun _ _ => rfl
  | call => exact leaves_call engine operands
  | ret => exact leaves_ret engine
  | thread => exact leaves_startThread engine operands surroundings
  | join => exact leaves_join engine surroundings
  | alloc => exact leaves_withPop rfl fun _ _ => rfl
  | free => exact leaves_free engine
  | load => exact leaves_load engine
  | store => exact leaves_store engine
  | halt => rfl

end Handlers
end Engine

/-! ## One step -/

namespace Moment

def registers (moment : Moment) : RegisterFile :=
  moment.engine.stores.registers

/-- What the step does to the registers. -/
def registerRequest? (context : Context) (moment : Moment) : Option Operation :=
  match moment.engine.fetch context moment.surroundings.stopRequested with
  | .operation op instruction =>
    moment.engine.registerRequest? moment.surroundings op instruction.operands
  | _ => none

/-- The step writes a register. -/
def Assigns (context : Context) (moment : Moment) (name : String) : Prop :=
  ∃ value, moment.registerRequest? context = some (.write name value)

/-- No step writes nothing. -/
def Definite (context : Context) (moment : Moment) : Prop :=
  ∀ name, moment.registerRequest? context ≠ some (.write name .unset)

section Step

variable {context : Context} {moment : Moment}

theorem registerRequest?_of_operation {op : Op} {instruction : Instruction}
    (fetched : moment.engine.fetch context moment.surroundings.stopRequested =
      .operation op instruction) :
    moment.registerRequest? context =
      moment.engine.registerRequest? moment.surroundings op instruction.operands := by
  unfold registerRequest?
  rw [fetched]

theorem registerRequest?_wake_tick (engine : Engine) (surroundings : Surroundings) (op : Op)
    (operands : List Operand) :
    engine.wake.tick.registerRequest? surroundings op operands =
      engine.registerRequest? surroundings op operands := by
  unfold Engine.wake
  split <;> rfl

theorem after_registers :
    (moment.after context).stores.registers =
      moment.registers.performed (moment.registerRequest? context) := by
  cases fetched : moment.engine.fetch context moment.surroundings.stopRequested with
  | operation op instruction =>
      have leaves := moment.engine.wake.tick.execute_leaves instruction.operands context.settings
        moment.surroundings op
      have stores : moment.engine.wake.tick.stores = moment.engine.stores :=
        moment.engine.wake_stores
      rw [registerRequest?_wake_tick, stores] at leaves
      rw [after_of_operation fetched, Engine.settled_stores, registerRequest?_of_operation fetched]
      exact leaves
  | finished =>
      unfold after registerRequest? Engine.step
      rw [fetched]
      rfl
  | _ =>
      unfold after registerRequest? Engine.step
      rw [fetched]
      exact congrArg Stores.registers moment.engine.wake_stores

/-- Only a sweep shows which registers were swept out. -/
theorem sweeps_of_shown {names : List String} (shown : .evicted names ∈ moment.events context) :
    moment.registerRequest? context = some .sweep ∧ names = moment.registers.unwritten := by
  have active := active_of_shown shown
  unfold events at shown
  rw [Engine.events_step context moment.surroundings active, List.mem_append,
    Option.mem_toList, Option.mem_toList] at shown
  rcases shown with due | closing
  · unfold Engine.dueNext? at due
    split at due
    · rename_i op instruction fetched
      rw [registerRequest?_of_operation fetched]
      unfold Engine.due? at due
      split at due
      · rcases Option.map_eq_some_iff.mp due with ⟨value, -, same⟩
        cases same
      · cases due
        exact ⟨rfl, rfl⟩
      · split at due <;> cases due
      · split at due
        · cases due
        · rcases Option.map_eq_some_iff.mp due with ⟨entry, -, same⟩
          cases same
      · cases due
    · cases due
  · change (moment.after context).status.closing? = _ at closing
    cases status : (moment.after context).status <;> simp [status, Status.closing?] at closing

theorem shown_of_sweeps (sweeps : moment.registerRequest? context = some .sweep) :
    .evicted moment.registers.unwritten ∈ moment.events context := by
  have known := Engine.fetch_fetched moment.engine context moment.surroundings.stopRequested
  unfold registerRequest? at sweeps
  split at sweeps
  · rename_i op instruction fetched
    rw [fetched] at known
    obtain rfl := Engine.sift_of_sweep sweeps
    unfold events
    rw [Engine.events_step context moment.surroundings known.1, List.mem_append,
      Option.mem_toList]
    unfold Engine.dueNext?
    rw [fetched]
    exact Or.inl rfl
  · cases sweeps

/-- A program that does not spell nothing, with a backend that always has an answer. -/
theorem definite_of_spelled (spelled : ¬ context.program.Writes .unset)
    (answers : ∀ payload, moment.surroundings.infer payload ≠ .unset) :
    moment.Definite context := by
  intro name requested
  have known := Engine.fetch_fetched moment.engine context moment.surroundings.stopRequested
  unfold registerRequest? at requested
  split at requested
  · rename_i op instruction fetched
    rw [fetched] at known
    unfold Engine.registerRequest? at requested
    split at requested
    · rcases Option.map_eq_some_iff.mp requested with ⟨other, -, same⟩
      cases same
    · rcases Option.map_eq_some_iff.mp requested with ⟨other, -, same⟩
      cases same
    · unfold Engine.assignment? at requested
      split at requested
      · rename_i operands
        cases requested
        refine spelled ⟨_, instruction, known.2.1, known.2.2, ?_⟩
        rw [operands]
        exact List.mem_cons_of_mem _ List.mem_cons_self
      · exact Value.orZero_ne_unset _ (Operation.write.inj (Option.some.inj requested)).2
      · cases requested
    · exact answers _ (Operation.write.inj (Option.some.inj requested)).2
    · cases requested
    · cases requested
  · cases requested

end Step
end Moment

end CommandMachine
