import CommandMachine.Proofs.Decoding
import CommandMachine.Proofs.Turns
namespace CommandMachine

/-!
# What a step keeps of the custody of handles

The invariant of this module is about one engine and the book of the memory it uses:
registers hold no handles, since their values have other origins; a handle on the
stack was issued to the engine; and the book is orderly.  One step of the engine
keeps all that.  The hard case is a load, which may bring a handle out of memory:
the engine must have put it there itself, and so it was its own before.
-/

/-! ## Origins of values -/

/-- The value is written into a register by an instruction of the program. -/
def Program.Writes (program : Program) (value : Value) : Prop :=
  ∃ counter instruction, program.get? counter = some instruction ∧
    instruction.op? = some .write ∧ .literal value ∈ instruction.operands

/-- Where the values in registers come from. -/
inductive Origin (program : Program) (answers : List Value) : Value → Prop where
  | unset : Origin program answers .unset
  | zero : Origin program answers (.integer 0)
  | written {value : Value} (writes : program.Writes value) : Origin program answers value
  | answered {value : Value} (given : value ∈ answers) : Origin program answers value

theorem Origin.more {program : Program} {answers : List Value} {value : Value}
    (origin : Origin program answers value) (later : List Value) :
    Origin program (later ++ answers) value := by
  cases origin with
  | unset => exact .unset
  | zero => exact .zero
  | written writes => exact .written writes
  | answered given => exact .answered (List.mem_append_right later given)

/-- The values that a source can spell: numbers and text. -/
def Value.isSpelled : Value → Bool
  | .unset => false
  | .handle _ => false
  | _ => true

theorem Literal.read?_isSpelled {word : String} {value : Value}
    (read : read? word = some value) : value.isSpelled = true := by
  unfold read? readNumber? at read
  split at read
  · cases read
    rfl
  · split at read
    · split at read
      · cases read
        rfl
      · split at read
        · cases read
        · rcases Option.map_eq_some_iff.mp read with ⟨number, -, rfl⟩
          rfl
    · cases read

theorem Operand.ofValueWords_isSpelled {line : Nat} {words : List String} {value : Value}
    (read : ofValueWords line words = .ok (.literal value)) : value.isSpelled = true := by
  unfold ofValueWords at read
  split at read
  · cases read
    rfl
  · unfold ofValueWord at read
    split at read
    · rename_i value found
      cases read
      exact Literal.read?_isSpelled found
    · split at read
      · cases read
      · cases ofRegisterName_eq_ok read
  · cases read
    rfl

/-- A compiled program writes no other values into registers. -/
theorem Assembly.isSpelled_of_writes {aliases : Aliases} {lines : List String}
    {program : Program} (compiled : compile aliases lines = .ok program) {value : Value}
    (writes : program.Writes value) : value.isSpelled = true := by
  rcases writes with ⟨counter, instruction, found, decoded, listed⟩
  rcases compile_eq_ok compiled with ⟨sourceLines, resolution, -, -, assembled⟩
  rcases command_of_get? assembled found with ⟨line, -, made⟩
  rcases Instruction.ofTokens_eq_ok made with
    ⟨command, expanded, op, operands, -, -, -, read, rfl⟩
  rw [Instruction.op?_ofOp, Option.some.injEq] at decoded
  subst decoded
  simp only [Operand.ofArguments, Op.shape] at read
  split at read
  · cases read
  · rcases bind_eq_ok.mp read with ⟨source, value, read⟩
    rcases map_eq_ok.mp read with ⟨operand, named, rfl⟩
    rw [Operand.ofRegisterName_eq_ok named] at listed
    simp only [Instruction.ofOp, List.mem_cons, reduceCtorEq, List.not_mem_nil, or_false,
      false_or] at listed
    rw [← listed] at value
    exact Operand.ofValueWords_isSpelled value

/-- No source can spell a handle. -/
theorem Assembly.not_writes_handle {aliases : Aliases} {lines : List String}
    {program : Program} (compiled : compile aliases lines = .ok program) (address : Handle) :
    ¬ program.Writes (.handle address) := by
  intro writes
  cases isSpelled_of_writes compiled writes

/-! ## The invariant -/

/-- Registers and memory whose contents are accounted for. -/
structure Stores.Tracked (stores : Stores) (pageSize : Nat) (origin : Value → Prop)
    (book : Book) : Prop where
  records : book.Records pageSize stores.memory
  orderly : book.Orderly
  registers : ∀ value ∈ stores.registers.values, origin value

/-- An engine that has only handles of its own, and never had to be told that a handle
points outside. -/
structure Engine.Confined (engine : Engine) (id : ThreadId) (book : Book) : Prop where
  stack : ∀ address, .handle address ∈ engine.stack.items → book.Issued id address
  status : ∀ counter address,
    engine.status ≠ .faulted ⟨counter, .memory (.outOfRange address)⟩

/-- A book to which an exchange is added, if there was one. -/
def Book.enter? (book : Book) (id : ThreadId) : Option Memory.Exchange → Book
  | none => book
  | some exchange => book.enter id exchange

theorem Book.Issued.enter? {book : Book} {thread : ThreadId} {address : Handle}
    (issued : book.Issued thread address) (id : ThreadId) (exchange : Option Memory.Exchange) :
    (book.enter? id exchange).Issued thread address := by
  cases exchange with
  | none => exact issued
  | some exchange => exact issued.enter id exchange

theorem Stores.Tracked.wider {stores : Stores} {pageSize : Nat} {origin wider : Value → Prop}
    {book : Book} (tracked : stores.Tracked pageSize origin book)
    (grows : ∀ value, origin value → wider value) : stores.Tracked pageSize wider book :=
  ⟨tracked.records, tracked.orderly, fun value held => grows value (tracked.registers value held)⟩

namespace Engine

variable {engine : Engine} {id : ThreadId} {book : Book} {context : Context}
  {surroundings : Surroundings} {origin : Value → Prop}

/-- An engine that has done nothing yet holds no handles. -/
theorem confined_of_idle (empty : engine.stack.items = []) (idle : engine.status = .idle) :
    engine.Confined id book := by
  constructor
  · intro address held
    rw [empty] at held
    cases held
  · intro counter address faulted
    rw [idle] at faulted
    cases faulted

/-- What an engine holds was issued to it. -/
theorem Confined.issued (confined : engine.Confined id book)
    (registers : ∀ value ∈ engine.stores.registers.values, origin value)
    (plain : ∀ address, ¬ origin (.handle address)) {address : Handle}
    (held : engine.Holds address) : book.Issued id address := by
  rcases held with onStack | inRegister
  · exact confined.stack address onStack
  · exact absurd (registers _ inRegister) (plain address)

variable {pageSize : Nat}

/-- A handle that memory lets out was the engine's own, or is new. -/
theorem Confined.brought (bounded : pageSize ≤ UInt32.size)
    (tracked : engine.stores.Tracked pageSize origin book) (confined : engine.Confined id book)
    (numbered : (book.session engine.stores.memory).Numbered) {stopRequested : Bool}
    {request : Memory.Request} (made : engine.memoryRequest? context stopRequested = some request)
    {address : Handle} (brings : (engine.stores.memory.serve request).2.Brings address) :
    (book.enter id (engine.stores.memory.exchange request)).Issued id address := by
  rcases brings with issued | held
  · exact Book.issued_enter (Memory.issued?_of_serve issued)
  · -- The handle was found in a slot whose own handle is on the stack.
    rcases Memory.read_of_held held with ⟨container, about, found⟩
    have own := confined.stack container (mem_of_memoryRequest? made (Or.inl about))
    have put := tracked.records.lastPut?_of_read bounded numbered tracked.orderly own found
    exact ((tracked.orderly.issued_of_lastPut? put).2 address rfl).enter id _

/-- The book stays orderly when the engine asks something of memory. -/
theorem Confined.orderly (confined : engine.Confined id book) (orderly : book.Orderly)
    {stopRequested : Bool} {request : Memory.Request}
    (made : engine.memoryRequest? context stopRequested = some request) :
    (book.enter id (engine.stores.memory.exchange request)).Orderly :=
  orderly.enter
    (fun address about => confined.stack address (mem_of_memoryRequest? made (Or.inl about)))
    fun address about => confined.stack address (mem_of_memoryRequest? made (Or.inr about))

/-- If no number has come back after a step, none had before. -/
theorem numbered_of_step {next : Engine} (trades : Trades context surroundings engine next)
    (numbered : ((book.enter? id (engine.exchange? context surroundings.stopRequested)).session
      next.stores.memory).Numbered) :
    (book.session engine.stores.memory).Numbered := by
  rw [trades.memory, exchange?] at numbered
  cases made : engine.memoryRequest? context surroundings.stopRequested with
  | none =>
      rw [made] at numbered
      exact numbered
  | some request =>
      rw [made] at numbered
      exact Memory.Session.Numbered.of_serve numbered

/-- A step of an engine keeps stores accounted for and the engine confined. -/
theorem Confined.step (bounded : pageSize ≤ UInt32.size)
    (tracked : engine.stores.Tracked pageSize origin book) (confined : engine.Confined id book)
    (numbered : (book.session engine.stores.memory).Numbered)
    (plain : ∀ address, ¬ origin (.handle address)) (honest : surroundings.Honest)
    (supplied : ∀ value, SuppliedAt context surroundings engine value → origin value) :
    (engine.step context surroundings).1.stores.Tracked pageSize origin
        (book.enter? id (engine.exchange? context surroundings.stopRequested)) ∧
      (engine.step context surroundings).1.Confined id
        (book.enter? id (engine.exchange? context surroundings.stopRequested)) := by
  have trades := step_trades engine context honest
  generalize (engine.step context surroundings).1 = next at trades ⊢
  have registers (value : Value) (held : value ∈ next.stores.registers.values) :
      origin value := by
    rcases trades.registers value held with before | new
    · exact tracked.registers value before
    · exact supplied value new
  have own {address : Handle} (held : engine.Holds address) : book.Issued id address :=
    confined.issued tracked.registers plain held
  cases made : engine.memoryRequest? context surroundings.stopRequested with
  | none =>
      have silent : engine.exchange? context surroundings.stopRequested = none := by
        rw [exchange?, made, Option.map_none]
      have memory := trades.memory
      rw [made] at memory
      rw [silent]
      refine ⟨⟨?_, tracked.orderly, registers⟩, ⟨fun address held => ?_, ?_⟩⟩
      · rw [memory]
        exact tracked.records
      · rcases trades.handles address held with before | ⟨request, asked, -⟩
        · exact own before
        · rw [made] at asked
          cases asked
      · intro counter address faulted
        rcases trades.fault counter _ faulted with same | ⟨request, asked, -⟩
        · exact confined.status counter address (same.trans faulted)
        · rw [made] at asked
          cases asked
  | some request =>
      have asked : engine.exchange? context surroundings.stopRequested =
          some (engine.stores.memory.exchange request) := by
        rw [exchange?, made, Option.map_some]
      have memory := trades.memory
      rw [made] at memory
      rw [asked]
      refine ⟨⟨?_, confined.orderly tracked.orderly made, registers⟩,
        ⟨fun address held => ?_, ?_⟩⟩
      · rw [memory]
        exact .enter id request tracked.records
      · rcases trades.handles address held with before | ⟨other, same, brings⟩
        · exact (own before).enter id _
        · rw [made] at same
          cases same
          exact confined.brought bounded tracked numbered made brings
      · intro counter address faulted
        rcases trades.fault counter _ faulted with same | ⟨other, same, refused⟩
        · exact confined.status counter address (same.trans faulted)
        · rw [made] at same
          cases same
          rcases Memory.slot?_of_outOfRange refused with ⟨named, about, -⟩
          have issued := confined.stack named (mem_of_memoryRequest? made (Or.inl about))
          exact issued.reply_ne_outOfRange (tracked.records.faithful bounded numbered) about
            address refused

end Engine
end CommandMachine
