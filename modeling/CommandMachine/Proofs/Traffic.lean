import CommandMachine.Proofs.Memory.Tenancy
import CommandMachine.Proofs.Reachability
namespace CommandMachine

/-!
# Where values come from

An engine cannot make a handle.  The values on its stack come from the stack, from
registers, from arithmetic and from memory, and those in its registers come from
registers, from the program and from the backend.  This module says once for all
operations what new values one of them can bring in, and what it asks of memory.
-/

/-! ## Stacks and registers -/

namespace EvaluationStack

theorem mem_push {stack : EvaluationStack} {value other : Value}
    (member : other ∈ (stack.push value).items) : other = value ∨ other ∈ stack.items := by
  unfold push at member
  split at member
  · rcases List.mem_cons.mp member with rfl | kept
    · exact Or.inl rfl
    · exact Or.inr ((List.dropLast_sublist _).subset kept)
  · exact List.mem_cons.mp member

theorem mem_distinct {kept values : List Value} {value : Value}
    (member : value ∈ distinct kept values) : value ∈ values := by
  induction values generalizing kept with
  | nil => cases member
  | cons first rest ih =>
      unfold distinct at member
      split at member
      · exact List.mem_cons_of_mem _ (ih member)
      · rcases List.mem_cons.mp member with rfl | later
        · exact List.mem_cons_self
        · exact List.mem_cons_of_mem _ (ih later)

theorem mem_dedup {stack : EvaluationStack} {value : Value}
    (member : value ∈ stack.dedup.items) : value ∈ stack.items :=
  List.mem_reverse.mp (mem_distinct (List.mem_reverse.mp member))

theorem peek?_push (stack : EvaluationStack) (value : Value) :
    (stack.push value).peek? = some value := by
  unfold push
  split <;> rfl

theorem items_of_pop? {stack rest : EvaluationStack} {value : Value}
    (popped : stack.pop? = some (value, rest)) : stack.items = value :: rest.items := by
  unfold pop? at popped
  split at popped
  · cases popped
  · rename_i items
    cases popped
    exact items

theorem items_of_empty {stack : EvaluationStack} (empty : stack.pop? = none) :
    stack.items = [] := by
  unfold pop? at empty
  split at empty
  · assumption
  · cases empty

end EvaluationStack

namespace RegisterFile

/-- What the registers hold. -/
def values (registers : RegisterFile) : List Value :=
  registers.entries.map Register.value

theorem mem_values_allocate {registers : RegisterFile} {name : String} {value : Value}
    (member : value ∈ (registers.allocate name).values) :
    value ∈ registers.values ∨ value = .unset := by
  unfold allocate at member
  split at member
  · exact Or.inl member
  · simpa [values] using member

theorem mem_values_write {registers : RegisterFile} {name : String} {written value : Value}
    (member : value ∈ (registers.write name written).values) :
    value ∈ registers.values ∨ value = .unset ∨ value = written := by
  rcases List.mem_map.mp member with ⟨register, listed, rfl⟩
  rcases List.mem_map.mp listed with ⟨earlier, present, rfl⟩
  split
  · exact Or.inr (Or.inr rfl)
  · rcases mem_values_allocate (List.mem_map_of_mem present) with held | unset
    · exact Or.inl held
    · exact Or.inr (Or.inl unset)

theorem mem_values_sweep {registers : RegisterFile} {value : Value}
    (member : value ∈ registers.sweep.values) : value ∈ registers.values := by
  rcases List.mem_map.mp member with ⟨register, listed, rfl⟩
  exact List.mem_map_of_mem (List.mem_filter.mp listed).1

theorem read_mem_values (registers : RegisterFile) (name : String) :
    registers.read name ∈ registers.values ∨ registers.read name = .unset := by
  unfold read
  split
  · rename_i register found
    exact Or.inl (List.mem_map_of_mem (List.mem_of_find?_eq_some found))
  · exact Or.inr rfl

/-- What a program sees where it reads a register. -/
theorem orZero_read_mem_values (registers : RegisterFile) (name : String) :
    (registers.read name).orZero ∈ registers.values ∨
      (registers.read name).orZero = .integer 0 := by
  rcases registers.read_mem_values name with held | unset
  · by_cases written : registers.read name = .unset
    · exact Or.inr (by rw [written]; rfl)
    · rw [Value.orZero_of_ne_unset written]
      exact Or.inl held
  · exact Or.inr (by rw [unset]; rfl)

end RegisterFile

/-- What an operation on numbers comes to is a number. -/
theorem Arithmetic.apply_isNumber {operation : Operation} {left right value : Value}
    (applied : apply operation left right = .ok value) :
    (∃ number, value = .integer number) ∨ ∃ number, value = .float number := by
  unfold apply at applied
  split at applied
  case h_5 => cases applied
  all_goals
    unfold Except.map at applied
    split at applied <;> cases applied
    simp

theorem Arithmetic.apply_ne_handle {operation : Operation} {left right value : Value}
    (applied : apply operation left right = .ok value) (address : Handle) :
    value ≠ .handle address := by
  rcases apply_isNumber applied with ⟨number, rfl⟩ | ⟨number, rfl⟩ <;> exact Value.noConfusion

/-! ## Requests to memory -/

namespace Memory

/-- Memory after a request, if there is one. -/
def after (memory : Memory) : Option Request → Memory
  | none => memory
  | some request => (memory.serve request).1

/-- A request with the answer that it gets. -/
def exchange (memory : Memory) (request : Request) : Exchange :=
  ⟨request, (memory.serve request).2⟩

/-- An answer lets a handle out of memory. -/
def Reply.Brings (reply : Reply) (address : Handle) : Prop :=
  reply = .issued address ∨ reply = .held (.handle address)

end Memory

/-- What an operation asks of memory, by the values on the stack, the top first. -/
def Op.memoryRequest? : Op → List Value → Option Memory.Request
  | .alloc, value :: _ => some (.allocate value)
  | .free, .handle address :: _ => some (.free address)
  | .load, .handle address :: _ => some (.read address)
  | .store, value :: .handle address :: _ => some (.write address value)
  | _, _ => none

/-- What is handed to memory comes from the stack. -/
theorem Op.given_mem_of_memoryRequest? {op : Op} {items : List Value} {request : Memory.Request}
    (made : op.memoryRequest? items = some request) {value : Value}
    (given : request.given? = some value) : value ∈ items := by
  unfold memoryRequest? at made
  split at made <;> cases made <;> cases given
  · exact List.mem_cons_self
  · exact List.mem_cons_self

/-- The handles in a request come from the stack. -/
theorem Op.mem_of_memoryRequest? {op : Op} {items : List Value} {request : Memory.Request}
    (made : op.memoryRequest? items = some request) {address : Handle}
    (named : request.handle? = some address ∨ request.given? = some (.handle address)) :
    .handle address ∈ items := by
  rcases named with used | given
  · unfold memoryRequest? at made
    split at made <;> cases made <;> cases used
    · exact List.mem_cons_self
    · exact List.mem_cons_self
    · exact List.mem_cons_of_mem _ List.mem_cons_self
  · exact given_mem_of_memoryRequest? made given

namespace Engine

/-- What the engine is about to ask of memory. -/
def memoryRequest? (engine : Engine) (context : Context) (stopRequested : Bool) :
    Option Memory.Request :=
  match engine.fetch context stopRequested with
  | .operation op _ => op.memoryRequest? engine.stack.items
  | _ => none

/-- The exchange that the engine is about to have with memory. -/
def exchange? (engine : Engine) (context : Context) (stopRequested : Bool) :
    Option Memory.Exchange :=
  (engine.memoryRequest? context stopRequested).map engine.stores.memory.exchange

/-- The engine has the handle on its stack or in a register. -/
def Holds (engine : Engine) (address : Handle) : Prop :=
  .handle address ∈ engine.stack.items ∨ .handle address ∈ engine.stores.registers.values

/-! ## One operation -/

/-- The values that an operation may bring into registers. -/
inductive Supplies (surroundings : Surroundings) (op : Op) (operands : List Operand) :
    Value → Prop where
  | unset : Supplies surroundings op operands .unset
  | zero : Supplies surroundings op operands (.integer 0)
  | literal {value : Value} (writes : op = .write) (listed : .literal value ∈ operands) :
      Supplies surroundings op operands value
  | answer (payload : String) : Supplies surroundings op operands (surroundings.infer payload)

/-- What an operation does with values and memory, if it makes the request. -/
structure Deals (engine : Engine) (supply : Value → Prop) (request : Option Memory.Request)
    (effect : Effect) : Prop where
  memory : effect.engine.stores.memory = engine.stores.memory.after request
  registers : ∀ value ∈ effect.engine.stores.registers.values,
    value ∈ engine.stores.registers.values ∨ supply value
  handles : ∀ address, .handle address ∈ effect.engine.stack.items → engine.Holds address ∨
    ∃ made, request = some made ∧ (engine.stores.memory.serve made).2.Brings address
  fault : ∀ error, effect.control = .fault (.memory error) →
    ∃ made, request = some made ∧ (engine.stores.memory.serve made).2 = .refused error

/-- An engine in the middle of an operation that has nothing to do with memory. -/
structure Calm (engine : Engine) (supply : Value → Prop) (current : Engine) : Prop where
  memory : current.stores.memory = engine.stores.memory
  registers : ∀ value ∈ current.stores.registers.values,
    value ∈ engine.stores.registers.values ∨ supply value
  handles : ∀ address, .handle address ∈ current.stack.items → engine.Holds address

theorem Calm.refl (engine : Engine) (supply : Value → Prop) : Calm engine supply engine :=
  ⟨rfl, fun _ held => Or.inl held, fun _ held => Or.inl held⟩

section Handlers

variable {engine current : Engine} {supply : Value → Prop}

/-- Every way to end an operation that has nothing to do with memory. -/
theorem Calm.deals (calm : Calm engine supply current) (reports : List Report)
    {control : Control} (other : ∀ error, control ≠ .fault (.memory error)) :
    Deals engine supply none ⟨current, reports, control⟩ :=
  ⟨calm.memory, calm.registers, fun address held => Or.inl (calm.handles address held),
    fun error faulted => absurd faulted (other error)⟩

theorem Calm.next (calm : Calm engine supply current) :
    Deals engine supply none (.next current) :=
  calm.deals [] fun _ => Control.noConfusion

theorem Calm.fault (calm : Calm engine supply current) {cause : Cause}
    (other : ∀ error, cause ≠ .memory error) :
    Deals engine supply none (.fault current cause) :=
  calm.deals [] fun error same => other error (Control.fault.inj same)

theorem Calm.withStack (calm : Calm engine supply current) {stack : EvaluationStack}
    (fewer : ∀ address, .handle address ∈ stack.items → .handle address ∈ current.stack.items) :
    Calm engine supply { current with stack } :=
  ⟨calm.memory, calm.registers, fun address held => calm.handles address (fewer address held)⟩

theorem Calm.push (calm : Calm engine supply current) {value : Value}
    (known : ∀ address, value = .handle address → engine.Holds address) :
    Deals engine supply none (.push current value) := by
  refine ⟨calm.memory, calm.registers, fun address held => Or.inl ?_, fun _ => nofun⟩
  rcases EvaluationStack.mem_push held with same | kept
  · exact known address same.symm
  · exact calm.handles address kept

theorem Calm.withPop (calm : Calm engine supply current) {use : Value → Engine → Effect}
    (deals : ∀ value stack, current.stack.pop? = some (value, stack) →
      Deals engine supply none (use value { current with stack })) :
    Deals engine supply none (current.withPop use) := by
  unfold Engine.withPop
  cases popped : current.stack.pop? with
  | none => exact calm.fault fun _ => Cause.noConfusion
  | some pair => exact deals pair.1 pair.2 popped

/-- An engine stays calm when a value is taken off its stack. -/
theorem Calm.popped (calm : Calm engine supply current) {value : Value}
    {stack : EvaluationStack} (popped : current.stack.pop? = some (value, stack)) :
    Calm engine supply { current with stack } := by
  apply calm.withStack
  intro address held
  rw [EvaluationStack.items_of_pop? popped]
  exact List.mem_cons_of_mem _ held

theorem Deals.after {request : Option Memory.Request} {effect : Effect}
    (deals : Deals engine supply request effect) (reports : List Report) :
    Deals engine supply request (effect.after reports) :=
  ⟨deals.memory, deals.registers, deals.handles, deals.fault⟩

theorem deals_withRegister {op : Op} {operands : List Operand} {use : String → Effect}
    (deals : ∀ name rest, operands = .register name :: rest →
      Deals engine supply none (use name)) :
    Deals engine supply none (engine.withRegister op operands use) := by
  unfold withRegister
  split
  · exact deals _ _ rfl
  · exact (Calm.refl engine supply).fault fun _ => Cause.noConfusion

theorem deals_withTarget {op : Op} {operands : List Operand} {use : Nat → Effect}
    (deals : ∀ target, Deals engine supply none (use target)) :
    Deals engine supply none (engine.withTarget op operands use) := by
  unfold withTarget
  split
  · exact deals _
  · exact (Calm.refl engine supply).fault fun _ => Cause.noConfusion

end Handlers

/-! ## The handlers one by one -/

section Operations

variable (engine : Engine) (operands : List Operand)

theorem flowCmp_deals (supply : Value → Prop) :
    Deals engine supply none (engine.flowCmp operands) := by
  have calm := Calm.refl engine supply
  have cut (window : Nat) :
      Calm engine supply { engine with stack := engine.stack.compact window } :=
    calm.withStack fun _ held => List.mem_of_mem_take held
  unfold flowCmp
  split
  · exact (cut _).next
  · split
    · exact calm.fault fun _ => Cause.noConfusion
    · exact (cut _).next
  · exact calm.fault fun _ => Cause.noConfusion

theorem Calm.retry {engine current : Engine} {supply : Value → Prop}
    (calm : Calm engine supply current) (policy : PingPolicy) :
    Deals engine supply none (current.retry policy) := by
  have counted : Calm engine supply { current with attempts := current.attempts + 1 } :=
    ⟨calm.memory, calm.registers, calm.handles⟩
  unfold Engine.retry
  dsimp only
  split
  · exact counted.fault fun _ => Cause.noConfusion
  · exact counted.deals _ fun _ => Control.noConfusion

theorem ping_deals (supply : Value → Prop) (policy : PingPolicy) :
    Deals engine supply none (engine.ping policy operands) := by
  have calm := Calm.refl engine supply
  have drawn (faults : FaultSource) : Calm engine supply { engine with faults } :=
    ⟨calm.memory, calm.registers, calm.handles⟩
  unfold ping
  dsimp only
  split
  · exact calm.retry policy
  · split
    · exact (drawn _).retry policy
    · exact (drawn _).next

theorem sift_deals (supply : Value → Prop) : Deals engine supply none engine.sift := by
  have calm : Calm engine supply (engine.withRegisters engine.stores.registers.sweep) :=
    ⟨rfl, fun _ held => Or.inl (RegisterFile.mem_values_sweep held), fun _ held => Or.inl held⟩
  exact calm.deals _ fun _ => Control.noConfusion

theorem allocReg_deals (surroundings : Surroundings) (op : Op) :
    Deals engine (Supplies surroundings op operands) none (engine.allocReg operands) := by
  refine deals_withRegister fun name rest _ => ?_
  refine Calm.next ⟨rfl, fun value held => ?_, fun _ held => Or.inl held⟩
  rcases RegisterFile.mem_values_allocate held with known | rfl
  · exact Or.inl known
  · exact Or.inr .unset

/-- Writing a value that is known or supplied brings in nothing else. -/
theorem calm_write {surroundings : Surroundings} {op : Op} (name : String) {value : Value}
    (known : value ∈ engine.stores.registers.values ∨ Supplies surroundings op operands value) :
    Calm engine (Supplies surroundings op operands)
      (engine.withRegisters (engine.stores.registers.write name value)) := by
  refine ⟨rfl, fun other held => ?_, fun _ held => Or.inl held⟩
  rcases RegisterFile.mem_values_write held with kept | rfl | rfl
  · exact Or.inl kept
  · exact Or.inr .unset
  · exact known

theorem infer_deals (surroundings : Surroundings) (op : Op) :
    Deals engine (Supplies surroundings op operands) none
      (engine.infer surroundings operands) :=
  (calm_write engine operands Inference.register (Or.inr (.answer (payload operands)))).next

theorem write_deals (surroundings : Surroundings) :
    Deals engine (Supplies surroundings .write operands) none (engine.write operands) := by
  refine deals_withRegister fun name rest leading => ?_
  dsimp only
  split
  · rename_i value later
    refine (calm_write engine _ name (Or.inr (.literal rfl ?_))).next
    exact List.mem_cons_of_mem _ List.mem_cons_self
  · rename_i source later
    refine (calm_write engine _ name ?_).next
    rcases engine.stores.registers.orZero_read_mem_values source with known | zero
    · exact Or.inl known
    · rw [zero]
      exact Or.inr .zero
  · exact (Calm.refl engine _).fault fun _ => Cause.noConfusion

theorem read_deals (surroundings : Surroundings) (op : Op) :
    Deals engine (Supplies surroundings op operands) none (engine.read operands) := by
  refine deals_withRegister fun name rest _ => ?_
  have grown (value : Value)
      (held : value ∈ (engine.stores.registers.allocate name).values) :
      value ∈ engine.stores.registers.values ∨ value = .unset :=
    RegisterFile.mem_values_allocate held
  have calm : Calm engine (Supplies surroundings op operands)
      (engine.withRegisters (engine.stores.registers.allocate name)) := by
    refine ⟨rfl, fun value held => ?_, fun _ held => Or.inl held⟩
    rcases grown value held with known | rfl
    · exact Or.inl known
    · exact Or.inr .unset
  refine calm.push fun address same => Or.inr ?_
  rcases RegisterFile.orZero_read_mem_values (engine.stores.registers.allocate name) name with
    held | zero
  · rw [same] at held
    rcases grown _ held with known | unset
    · exact known
    · cases unset
  · rw [same] at zero
    cases zero

theorem arithmetic_deals (supply : Value → Prop) (op : Op) (operation : Arithmetic.Operation) :
    Deals engine supply none (engine.arithmetic op operation) := by
  refine (Calm.refl engine supply).withPop fun right stack first => ?_
  have calm := (Calm.refl engine supply).popped first
  refine calm.withPop fun left rest second => ?_
  have ready := calm.popped second
  cases applied : Arithmetic.apply operation left right with
  | ok value =>
      exact ready.push fun address same =>
        absurd same (Arithmetic.apply_ne_handle applied address)
  | error failure => cases failure <;> exact ready.fault fun _ => Cause.noConfusion

theorem jumpIf_deals (supply : Value → Prop) (op : Op) (wanted : Bool) :
    Deals engine supply none (engine.jumpIf op wanted operands) := by
  refine deals_withTarget fun target => ?_
  refine (Calm.refl engine supply).withPop fun value stack popped => ?_
  have calm := (Calm.refl engine supply).popped popped
  cases value.isZero? with
  | none => exact calm.fault fun _ => Cause.noConfusion
  | some zero =>
      dsimp only
      split
      · exact calm.deals [] fun _ => Control.noConfusion
      · exact calm.next

theorem calm_withCalls (supply : Value → Prop) (calls : CallStack) :
    Calm engine supply { engine with calls } :=
  ⟨rfl, fun _ held => Or.inl held, fun _ held => Or.inl held⟩

theorem call_deals (supply : Value → Prop) :
    Deals engine supply none (engine.call operands) := by
  refine deals_withTarget fun target => ?_
  cases engine.calls.push? (engine.counter + 1) with
  | none => exact (Calm.refl engine supply).fault fun _ => Cause.noConfusion
  | some calls => exact (calm_withCalls engine supply calls).deals [] fun _ => Control.noConfusion

theorem ret_deals (supply : Value → Prop) : Deals engine supply none engine.ret := by
  unfold ret
  cases engine.calls.pop? with
  | none => exact (Calm.refl engine supply).fault fun _ => Cause.noConfusion
  | some pair => exact (calm_withCalls engine supply pair.2).deals [] fun _ => Control.noConfusion

theorem startThread_deals (supply : Value → Prop) (surroundings : Surroundings) :
    Deals engine supply none (engine.startThread surroundings operands) := by
  refine deals_withTarget fun entry => ?_
  have calm : Calm engine supply { engine with faults := engine.faults.fork.2 } :=
    ⟨rfl, fun _ held => Or.inl held, fun _ held => Or.inl held⟩
  cases surroundings.spawn with
  | error reason => exact calm.fault fun _ => Cause.noConfusion
  | ok thread => exact (calm.push fun _ same => Value.noConfusion same).after _

theorem join_deals (supply : Value → Prop) {surroundings : Surroundings}
    (honest : surroundings.Honest) :
    Deals engine supply none (engine.join surroundings) := by
  refine (Calm.refl engine supply).withPop fun value stack popped => ?_
  have calm := (Calm.refl engine supply).popped popped
  cases value with
  | integer number =>
      dsimp only
      split
      · exact calm.fault fun _ => Cause.noConfusion
      · cases reply : (surroundings.join number.toInt.toNat).result with
        | ok outcome => exact (calm.deals _ fun _ => Control.noConfusion).after _
        | error cause =>
            refine (calm.fault fun error same => ?_).after _
            have refusal := honest _ cause reply
            rw [same] at refusal
            cases refusal
  | unset => exact calm.fault fun _ => Cause.noConfusion
  | float number => exact calm.fault fun _ => Cause.noConfusion
  | text content => exact calm.fault fun _ => Cause.noConfusion
  | handle address => exact calm.fault fun _ => Cause.noConfusion

theorem print_deals (supply : Value → Prop) : Deals engine supply none engine.print := by
  refine (Calm.refl engine supply).withPop fun value stack popped => ?_
  exact ((Calm.refl engine supply).popped popped).deals _ fun _ => Control.noConfusion

end Operations

/-! ## The operations on memory -/

section MemoryOperations

variable {engine current : Engine} {supply : Value → Prop}

/-- A refused request ends the operation in a fault. -/
theorem Calm.refused (calm : Calm engine supply current) {request : Memory.Request}
    {error : MemoryError} (refused : (engine.stores.memory.serve request).2 = .refused error) :
    Deals engine supply (some request) (.fault current (.memory error)) := by
  refine ⟨?_, calm.registers, fun address held => Or.inl (calm.handles address held), ?_⟩
  · exact calm.memory.trans (Memory.serve_of_refused refused).symm
  · intro other faulted
    cases faulted
    exact ⟨request, rfl, refused⟩

/-- A request that succeeds leaves its memory behind. -/
theorem Calm.served (calm : Calm engine supply current) {request : Memory.Request}
    {memory : Memory} (served : (engine.stores.memory.serve request).1 = memory) :
    Deals engine supply (some request) (.next (current.withMemory memory)) :=
  ⟨served.symm, calm.registers, fun address held => Or.inl (calm.handles address held),
    fun _ => nofun⟩

/-- What is pushed after a request is known or comes from memory. -/
theorem Calm.servedPush (calm : Calm engine supply current) {request : Memory.Request}
    {memory : Memory} (served : (engine.stores.memory.serve request).1 = memory) {value : Value}
    (known : ∀ address, value = .handle address → engine.Holds address ∨
      (engine.stores.memory.serve request).2.Brings address) :
    Deals engine supply (some request) (.push (current.withMemory memory) value) := by
  refine ⟨served.symm, calm.registers, fun address held => ?_, fun _ => nofun⟩
  rcases EvaluationStack.mem_push held with same | kept
  · rcases known address same.symm with before | brought
    · exact Or.inl before
    · exact Or.inr ⟨request, rfl, brought⟩
  · exact Or.inl (calm.handles address kept)

/-- A stack that is too short, or has no handle where one is needed, ends an operation
on memory before any request is made. -/
theorem Calm.withPopHandle (calm : Calm engine supply current) {op : Op}
    {request : Option Memory.Request} {use : Handle → Engine → Effect}
    (none_made : (∀ address rest, current.stack.items ≠ .handle address :: rest) → request = none)
    (deals : ∀ address stack, current.stack.pop? = some (.handle address, stack) →
      Deals engine supply request (use address { current with stack })) :
    Deals engine supply request (current.withPopHandle op use) := by
  unfold Engine.withPopHandle Engine.withPop
  cases popped : current.stack.pop? with
  | none =>
      rw [none_made fun _ _ items => by simp [EvaluationStack.items_of_empty popped] at items]
      exact calm.fault fun _ => Cause.noConfusion
  | some pair =>
      rcases pair with ⟨value, stack⟩
      have ready := calm.popped popped
      have top := EvaluationStack.items_of_pop? popped
      cases value with
      | handle address => exact deals address stack popped
      | unset | integer number | float number | text content =>
          rw [none_made fun _ _ items => by simp [top] at items]
          exact ready.fault fun _ => Cause.noConfusion

variable (engine supply)

theorem alloc_deals :
    Deals engine supply (Op.memoryRequest? .alloc engine.stack.items) engine.alloc := by
  have calm := Calm.refl engine supply
  unfold alloc withPop
  cases popped : engine.stack.pop? with
  | none =>
      rw [EvaluationStack.items_of_empty popped]
      exact calm.fault fun _ => Cause.noConfusion
  | some pair =>
      rcases pair with ⟨value, stack⟩
      rw [EvaluationStack.items_of_pop? popped]
      refine ((calm.popped popped).servedPush rfl fun address same => Or.inr (Or.inl ?_)).after _
      cases same
      rfl

theorem free_deals :
    Deals engine supply (Op.memoryRequest? .free engine.stack.items) engine.free := by
  have calm := Calm.refl engine supply
  refine calm.withPopHandle ?_ fun address stack popped => ?_
  · intro other
    unfold Op.memoryRequest?
    split <;> simp_all
  · rw [EvaluationStack.items_of_pop? popped]
    have ready := calm.popped popped
    dsimp only
    split
    · rename_i error failed
      exact ready.refused (by simp [Memory.serve, failed])
    · rename_i memory value freed
      exact ready.served (by simp [Memory.serve, freed])

theorem load_deals :
    Deals engine supply (Op.memoryRequest? .load engine.stack.items) engine.load := by
  have calm := Calm.refl engine supply
  refine calm.withPopHandle ?_ fun address stack popped => ?_
  · intro other
    unfold Op.memoryRequest?
    split <;> simp_all
  · rw [EvaluationStack.items_of_pop? popped]
    have ready := calm.popped popped
    dsimp only
    split
    · rename_i error failed
      exact ready.refused (by simp [Memory.serve, failed])
    · rename_i value found
      have kept : (engine.stores.memory.serve (.read address)).1 = engine.stores.memory := by
        simp [Memory.serve, found]
      refine ready.servedPush kept fun inner same => Or.inr (Or.inr ?_)
      simp [Memory.serve, found, same]

theorem store_deals :
    Deals engine supply (Op.memoryRequest? .store engine.stack.items) engine.store := by
  have calm := Calm.refl engine supply
  unfold store withPop
  cases popped : engine.stack.pop? with
  | none =>
      rw [EvaluationStack.items_of_empty popped]
      exact calm.fault fun _ => Cause.noConfusion
  | some pair =>
      rcases pair with ⟨value, stack⟩
      rw [EvaluationStack.items_of_pop? popped]
      have ready := calm.popped popped
      refine ready.withPopHandle ?_ fun address rest second => ?_
      · intro other
        unfold Op.memoryRequest?
        split <;> simp_all
      · have below : stack.items = .handle address :: rest.items :=
          EvaluationStack.items_of_pop? second
        have held : engine.Holds address := by
          refine ready.handles address ?_
          rw [below]
          exact List.mem_cons_self
        rw [below]
        have last := ready.popped second
        dsimp only
        split
        · rename_i error failed
          exact last.refused (by simp [Memory.serve, failed])
        · rename_i memory written
          refine last.servedPush (by simp [Memory.serve, written]) fun other same => Or.inl ?_
          cases same
          exact held

end MemoryOperations

/-- Every operation deals with values and memory in this way, whatever the engine and
its surroundings. -/
theorem execute_deals (engine : Engine) (settings : Settings) {surroundings : Surroundings}
    (honest : surroundings.Honest) (op : Op) (operands : List Operand) :
    Deals engine (Supplies surroundings op operands) (op.memoryRequest? engine.stack.items)
      (engine.execute settings surroundings op operands) := by
  have calm := Calm.refl engine (Supplies surroundings op operands)
  cases op with
  | optimize =>
      exact (calm.withStack fun _ held => EvaluationStack.mem_dedup held).deals _
        fun _ => Control.noConfusion
  | allocReg => exact allocReg_deals engine operands surroundings _
  | flowCmp => exact flowCmp_deals engine operands _
  | release => exact (calm.withStack fun _ held => absurd held List.not_mem_nil).next
  | ping => exact ping_deals engine operands _ settings.ping
  | sift => exact sift_deals engine _
  | infer => exact infer_deals engine operands surroundings _
  | pause => exact calm.next
  | write => exact write_deals engine operands surroundings
  | read => exact read_deals engine operands surroundings _
  | add => exact arithmetic_deals engine _ .add .add
  | sub => exact arithmetic_deals engine _ .sub .sub
  | mul => exact arithmetic_deals engine _ .mul .mul
  | div => exact arithmetic_deals engine _ .div .div
  | mod => exact arithmetic_deals engine _ .mod .mod
  | jump => exact deals_withTarget fun _ => calm.deals [] fun _ => Control.noConfusion
  | jumpZero => exact jumpIf_deals engine operands _ .jumpZero true
  | jumpNonzero => exact jumpIf_deals engine operands _ .jumpNonzero false
  | print => exact print_deals engine _
  | call => exact call_deals engine operands _
  | ret => exact ret_deals engine _
  | thread => exact startThread_deals engine operands _ surroundings
  | join => exact join_deals engine _ honest
  | alloc => exact alloc_deals engine _
  | free => exact free_deals engine _
  | load => exact load_deals engine _
  | store => exact store_deals engine _
  | halt => exact calm.deals [] fun _ => Control.noConfusion

/-! ## One step -/

@[simp] theorem wake_stack (engine : Engine) : engine.wake.stack = engine.stack := by
  unfold wake
  split <;> rfl

@[simp] theorem wake_stores (engine : Engine) : engine.wake.stores = engine.stores := by
  unfold wake
  split <;> rfl

theorem settled_stack (effect : Effect) : (settled effect).stack = effect.engine.stack := by
  unfold settled follow
  cases effect.control <;> rfl

theorem settled_stores (effect : Effect) : (settled effect).stores = effect.engine.stores := by
  unfold settled follow
  cases effect.control <;> rfl

/-- The instruction at the engine's place may bring the value into registers. -/
def SuppliedAt (context : Context) (surroundings : Surroundings) (engine : Engine)
    (value : Value) : Prop :=
  ∃ instruction op, context.program.get? engine.counter = some instruction ∧
    instruction.op? = some op ∧ Supplies surroundings op instruction.operands value

/-- What a step does with values and memory. -/
structure Trades (context : Context) (surroundings : Surroundings) (engine next : Engine) :
    Prop where
  memory : next.stores.memory = engine.stores.memory.after
    (engine.memoryRequest? context surroundings.stopRequested)
  registers : ∀ value ∈ next.stores.registers.values,
    value ∈ engine.stores.registers.values ∨ SuppliedAt context surroundings engine value
  handles : ∀ address, .handle address ∈ next.stack.items → engine.Holds address ∨
    ∃ made, engine.memoryRequest? context surroundings.stopRequested = some made ∧
      (engine.stores.memory.serve made).2.Brings address
  fault : ∀ counter error, next.status = .faulted ⟨counter, .memory error⟩ →
    engine.status = next.status ∨
      ∃ made, engine.memoryRequest? context surroundings.stopRequested = some made ∧
        (engine.stores.memory.serve made).2 = .refused error

section Step

variable {context : Context} {surroundings : Surroundings} {engine : Engine}

/-- A step that executes no operation changes the status at most. -/
theorem trades_of_idle {next : Engine}
    (idle : engine.memoryRequest? context surroundings.stopRequested = none)
    (stores : next.stores = engine.stores) (stack : next.stack = engine.stack)
    (status : ∀ counter error, next.status = .faulted ⟨counter, .memory error⟩ →
      engine.status = next.status) :
    Trades context surroundings engine next where
  memory := by rw [idle, stores]; rfl
  registers := fun value held => Or.inl (stores ▸ held)
  handles := fun address held => Or.inl (Or.inl (stack ▸ held))
  fault := fun counter error faulted => Or.inl (status counter error faulted)

theorem trades_executed (honest : surroundings.Honest) {op : Op} {instruction : Instruction}
    (fetched : engine.fetch context surroundings.stopRequested = .operation op instruction) :
    Trades context surroundings engine
      (settled (engine.wake.tick.execute context.settings surroundings op
        instruction.operands)) := by
  have known := fetch_fetched engine context surroundings.stopRequested
  rw [fetched] at known
  rcases known with ⟨active, found, decoded⟩
  have deals := execute_deals engine.wake.tick context.settings honest op instruction.operands
  have lawful := execute_lawful engine.wake.tick context.settings honest op instruction.operands
  have stack : engine.wake.tick.stack = engine.stack := engine.wake_stack
  have stores : engine.wake.tick.stores = engine.stores := engine.wake_stores
  have request : engine.memoryRequest? context surroundings.stopRequested =
      op.memoryRequest? engine.stack.items := by
    simp only [memoryRequest?, fetched]
  constructor
  · rw [settled_stores, deals.memory, stack, stores, request]
  · intro value held
    rw [settled_stores] at held
    rcases deals.registers value held with before | supplied
    · rw [stores] at before
      exact Or.inl before
    · exact Or.inr ⟨instruction, op, found, decoded, supplied⟩
  · intro address held
    rw [settled_stack] at held
    have origin := deals.handles address held
    rw [Holds, stack, stores] at origin
    rw [request]
    exact origin
  · intro counter error faulted
    have running : engine.wake.tick.status = .running := wake_status active
    have cause := (settled_faulted running lawful faulted).1
    have refused := deals.fault error cause
    rw [stack, stores] at refused
    rw [request]
    exact Or.inr refused

theorem step_trades (engine : Engine) (context : Context) (honest : surroundings.Honest) :
    Trades context surroundings engine (engine.step context surroundings).1 := by
  unfold step
  cases fetched : engine.fetch context surroundings.stopRequested with
  | finished =>
      exact trades_of_idle (by simp only [memoryRequest?, fetched]) rfl rfl fun _ _ _ => rfl
  | stopped =>
      change Trades context surroundings engine engine.wake.halt.1
      rw [wake_halt]
      exact trades_of_idle (by simp only [memoryRequest?, fetched]) rfl rfl fun _ _ => nofun
  | overBudget limit =>
      change Trades context surroundings engine (engine.wake.raise _).1
      rw [wake_raise]
      exact trades_of_idle (by simp only [memoryRequest?, fetched]) rfl rfl fun _ _ => nofun
  | atEnd =>
      change Trades context surroundings engine engine.wake.halt.1
      rw [wake_halt]
      exact trades_of_idle (by simp only [memoryRequest?, fetched]) rfl rfl fun _ _ => nofun
  | undecodable byte =>
      change Trades context surroundings engine (engine.wake.tick.raise _).1
      rw [wake_tick_raise]
      exact trades_of_idle (by simp only [memoryRequest?, fetched]) rfl rfl fun _ _ => nofun
  | operation op instruction => exact trades_executed honest fetched

/-- An engine asks for nothing but what the handles on its stack allow. -/
theorem mem_of_memoryRequest? {stopRequested : Bool} {request : Memory.Request}
    (made : engine.memoryRequest? context stopRequested = some request) {address : Handle}
    (named : request.handle? = some address ∨ request.given? = some (.handle address)) :
    .handle address ∈ engine.stack.items := by
  unfold memoryRequest? at made
  split at made
  · exact Op.mem_of_memoryRequest? made named
  · cases made

/-- An engine that asks its surroundings for something asks nothing of memory. -/
theorem memoryRequest?_of_request? {stopRequested : Bool} {request : Request}
    (asked : engine.request? context stopRequested = some request) :
    engine.memoryRequest? context stopRequested = none := by
  unfold request? at asked
  unfold memoryRequest?
  split at asked
  · rename_i fetched
    simp only [fetched, Op.memoryRequest?]
  · rename_i fetched
    simp only [fetched, Op.memoryRequest?]
  · rename_i fetched
    simp only [fetched, Op.memoryRequest?]
  · cases asked

/-- Only a load reads memory, through the handle on top of the stack. -/
theorem load_of_read {address : Handle} {op : Op} {items : List Value}
    (requested : op.memoryRequest? items = some (.read address)) :
    op = .load ∧ ∃ rest, items = .handle address :: rest := by
  unfold Op.memoryRequest? at requested
  split at requested <;> cases requested
  exact ⟨rfl, _, rfl⟩

/-- A load that succeeds leaves the value on top of the stack. -/
theorem peek?_step_of_read {address : Handle} {value : Value}
    (requested : engine.memoryRequest? context surroundings.stopRequested =
      some (.read address))
    (found : engine.stores.memory.read address = .ok value) :
    (engine.step context surroundings).1.stack.peek? = some value := by
  unfold memoryRequest? at requested
  cases fetched : engine.fetch context surroundings.stopRequested with
  | operation op instruction =>
      simp only [fetched] at requested
      rcases load_of_read requested with ⟨rfl, rest, items⟩
      have stores : engine.wake.tick.stores = engine.stores := engine.wake_stores
      have popped : engine.wake.tick.stack.pop? =
          some (.handle address, { engine.stack with items := rest }) := by
        change engine.wake.stack.pop? = _
        rw [wake_stack, EvaluationStack.pop?, items]
      simp only [step, fetched]
      change (settled engine.wake.tick.load).stack.peek? = some value
      rw [settled_stack]
      simp only [load, withPopHandle, withPop, popped, stores, found]
      exact EvaluationStack.peek?_push _ value
  | finished | stopped | overBudget limit | atEnd | undecodable byte =>
      simp [fetched] at requested

end Step
end Engine
end CommandMachine
