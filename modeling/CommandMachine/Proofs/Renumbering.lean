import CommandMachine.Source.Assembly
namespace CommandMachine

/-!
# Line numbers are only labels

Every line carries its number through both passes, but no decision ever looks at a
number: it comes out again as the line of an instruction, as the line of an error, or as the
line on which a name was declared first.  So the lines may be numbered in any other way, and
the result is the same with the numbers replaced.  This is shown function by function, for
results of both kinds, and needs nothing of the new numbers.
-/

/-! ## Numbers in lines, errors and programs -/

/-- The same words on another line. -/
def SourceLine.renumber (move : Nat → Nat) (line : SourceLine) : SourceLine :=
  { line with number := move line.number }

@[simp] theorem SourceLine.kind_renumber (move : Nat → Nat) (line : SourceLine) :
    (line.renumber move).kind = line.kind := rfl

namespace CompileError

/-- The same error on another line. -/
def renumber (move : Nat → Nat) : CompileError → CompileError
  | .unknownMnemonic line command => .unknownMnemonic (move line) command
  | .unresolvedSymbol line kind name => .unresolvedSymbol (move line) kind name
  | .duplicateSymbol line first kind name => .duplicateSymbol (move line) (move first) kind name
  | .recursiveMacro line name inner => .recursiveMacro (move line) name inner
  | .malformed line reason => .malformed (move line) reason

/-- The same result, with its lines replaced if it is an error. -/
def relined (move : Nat → Nat) (result : Except CompileError α) : Except CompileError α :=
  result.mapError (renumber move)

variable {move : Nat → Nat}

@[simp] theorem relined_ok (value : α) :
    relined move (.ok value : Except CompileError α) = .ok value := rfl

@[simp] theorem relined_error (error : CompileError) :
    relined move (.error error : Except CompileError α) = .error (error.renumber move) := rfl

theorem relined_bind (first : Except CompileError α) (later : α → Except CompileError β) :
    relined move (first.bind later) =
      (relined move first).bind fun value => relined move (later value) := by
  cases first <;> rfl

theorem relined_map (first : Except CompileError α) (change : α → β) :
    relined move (first.map change) = (relined move first).map change := by
  cases first <;> rfl

end CompileError

/-- The same instruction from another line. -/
def PlacedInstruction.renumber (move : Nat → Nat) (placed : PlacedInstruction) :
    PlacedInstruction :=
  { placed with line := move placed.line }

/-- The same program from other lines. -/
def Program.renumber (move : Nat → Nat) (program : Program) : Program :=
  ⟨program.code.map (PlacedInstruction.renumber move)⟩

namespace Program

variable (move : Nat → Nat) (program : Program)

theorem instructions_renumber : (program.renumber move).instructions = program.instructions := by
  simp [renumber, instructions, PlacedInstruction.renumber]

theorem lines_renumber : (program.renumber move).lines = program.lines.map move := by
  simp [renumber, lines, PlacedInstruction.renumber]

end Program

open CompileError

variable (move : Nat → Nat)

/-! ## Reading lines -/

namespace SourceLine

theorem scan_renumber (number : Nat) (text : String) :
    scan (move number) text =
      (relined move (scan number text)).map (Option.map (renumber move)) := by
  unfold scan
  dsimp only
  split
  · rfl
  · split <;> rfl

/-- Lines that begin further down have greater numbers. -/
theorem scanFrom_add (offset first : Nat) (lines : List String) :
    scanFrom (first + offset) lines =
      (relined (· + offset) (scanFrom first lines)).map (List.map (renumber (· + offset))) := by
  induction lines generalizing first with
  | nil => rfl
  | cons text rest ih =>
      have next : first + offset + 1 = first + 1 + offset := Nat.add_right_comm first offset 1
      simp only [scanFrom, scan_renumber (· + offset) first text, next, ih]
      cases scan first text with
      | error error => rfl
      | ok line =>
          cases line with
          | none => rfl
          | some line => cases scanFrom (first + 1) rest <;> rfl

end SourceLine

/-! ## The first pass -/

namespace Resolution

/-- The first pass over lines with other numbers. -/
def renumber (state : Resolution) : Resolution :=
  { state with declared := state.declared.map fun entry => (entry.1, move entry.2) }

theorem declaredOn?_renumber (state : Resolution) (kind : SymbolKind) (name : String) :
    (state.renumber move).declaredOn? kind name = (state.declaredOn? kind name).map move := by
  rcases state with ⟨symbols, declared, counter⟩
  simp only [renumber, declaredOn?]
  induction declared with
  | nil => rfl
  | cons entry rest ih =>
      rw [List.map_cons, List.lookup_cons, List.lookup_cons, ih]
      split <;> rfl

theorem renumber_define (state : Resolution) (kind : SymbolKind) (name : String)
    (body : List String) (line : Nat) :
    ((state.remember kind name line).define kind name body).renumber move =
      ((state.renumber move).remember kind name (move line)).define kind name body := by
  cases kind <;> simp [renumber, remember, define]

theorem declare_renumber (state : Resolution) (line : Nat) (kind : SymbolKind)
    (words : List String) :
    (state.renumber move).declare (move line) kind words =
      (relined move (state.declare line kind words)).map (renumber move) := by
  cases words with
  | nil => rfl
  | cons name body =>
      simp only [declare, declaredOn?_renumber]
      cases state.declaredOn? kind name with
      | some first => rfl
      | none =>
          simp only [Option.map_none]
          cases bodyError? kind name body with
          | some reason => rfl
          | none => exact congrArg Except.ok (renumber_define move state kind name body line).symm

theorem readLine_renumber (state : Resolution) (line : SourceLine) :
    (state.renumber move).readLine (line.renumber move) =
      (relined move (state.readLine line)).map (renumber move) := by
  unfold readLine
  rw [SourceLine.kind_renumber]
  cases line.kind with
  | command tokens => rfl
  | declaration kind rest => exact declare_renumber move state line.number kind rest

theorem readLines_renumber (state : Resolution) (lines : List SourceLine) :
    (state.renumber move).readLines (lines.map (SourceLine.renumber move)) =
      (relined move (state.readLines lines)).map (renumber move) := by
  induction lines generalizing state with
  | nil => rfl
  | cons line rest ih =>
      simp only [List.map_cons, readLines, readLine_renumber]
      cases state.readLine line with
      | error error => rfl
      | ok next => exact ih next

end Resolution

theorem Symbols.resolve_renumber (lines : List SourceLine) :
    resolve (lines.map (SourceLine.renumber move)) =
      (relined move (resolve lines)).map (Resolution.renumber move) :=
  Resolution.readLines_renumber move .start lines

/-! ## The second pass -/

namespace Command

theorem split_renumber (line : Nat) (symbols : Symbols) (tokens : List String) :
    Command.split (move line) symbols tokens =
      relined move (Command.split line symbols tokens) := by
  unfold Command.split
  repeat' split
  all_goals rfl

theorem expand_renumber (line : Nat) (symbols : Symbols) (command : Command) :
    command.expand (move line) symbols = relined move (command.expand line symbols) := by
  unfold Command.expand
  repeat' split
  all_goals rfl

theorem op_renumber (line : Nat) (aliases : Aliases) (command : Command) :
    command.op (move line) aliases = relined move (command.op line aliases) := by
  unfold Command.op
  split <;> rfl

end Command

namespace Operand

theorem ofRegisterName_renumber (line : Nat) (word : String) :
    ofRegisterName (move line) word = relined move (ofRegisterName line word) := by
  unfold ofRegisterName
  split <;> rfl

theorem ofValueWords_renumber (line : Nat) (words : List String) :
    ofValueWords (move line) words = relined move (ofValueWords line words) := by
  unfold ofValueWords
  split
  · rfl
  · unfold ofValueWord
    split
    · rfl
    · split
      · rfl
      · exact ofRegisterName_renumber move line _
  · rfl

theorem ofTarget_renumber (line : Nat) (op : Op) (symbols : Symbols) (name : String) :
    ofTarget (move line) op symbols name = relined move (ofTarget line op symbols name) := by
  unfold ofTarget
  split <;> rfl

theorem ofCount_renumber (line : Nat) (op : Op) (word : String) :
    ofCount (move line) op word = relined move (ofCount line op word) := by
  unfold ofCount
  split <;> rfl

theorem ofArguments_renumber (line : Nat) (op : Op) (symbols : Symbols)
    (arguments : List String) :
    ofArguments (move line) op symbols arguments =
      relined move (ofArguments line op symbols arguments) := by
  unfold ofArguments
  dsimp only
  cases op.shape with
  | bare => rfl
  | register =>
      dsimp only
      split
      · rw [ofRegisterName_renumber, relined_map]
      · rfl
  | assign =>
      dsimp only
      split
      · rfl
      · simp only [ofValueWords_renumber, ofRegisterName_renumber, relined_bind, relined_map]
  | target =>
      dsimp only
      split
      · rw [ofTarget_renumber, relined_map]
      · rfl
  | count =>
      dsimp only
      split
      · rfl
      · rw [ofCount_renumber, relined_map]
      · rfl

end Operand

theorem Instruction.ofTokens_renumber (aliases : Aliases) (symbols : Symbols) (line : Nat)
    (tokens : List String) :
    ofTokens aliases symbols (move line) tokens =
      relined move (ofTokens aliases symbols line tokens) := by
  simp only [ofTokens, Command.split_renumber, Command.expand_renumber, Command.op_renumber,
    Operand.ofArguments_renumber, relined_bind, relined_map]

namespace Assembly

theorem code_renumber (aliases : Aliases) (symbols : Symbols) (lines : List SourceLine) :
    code aliases symbols (lines.map (SourceLine.renumber move)) =
      (relined move (code aliases symbols lines)).map
        (List.map (PlacedInstruction.renumber move)) := by
  induction lines with
  | nil => rfl
  | cons line rest ih =>
      simp only [List.map_cons, code, SourceLine.kind_renumber]
      cases line.kind with
      | declaration kind words => exact ih
      | command tokens =>
          dsimp only [SourceLine.renumber]
          rw [Instruction.ofTokens_renumber]
          cases Instruction.ofTokens aliases symbols line.number tokens with
          | error error => rfl
          | ok instruction =>
              dsimp only [relined_ok]
              rw [ih]
              cases code aliases symbols rest <;> rfl

theorem ofSourceLines_renumber (aliases : Aliases) (lines : List SourceLine) :
    ofSourceLines aliases (lines.map (SourceLine.renumber move)) =
      (relined move (ofSourceLines aliases lines)).map (Program.renumber move) := by
  unfold ofSourceLines
  rw [Symbols.resolve_renumber]
  cases Symbols.resolve lines with
  | error error => rfl
  | ok resolution =>
      change (code aliases resolution.symbols (lines.map (SourceLine.renumber move))).map _ =
        (relined move ((code aliases resolution.symbols lines).map Program.mk)).map _
      rw [code_renumber]
      cases code aliases resolution.symbols lines <;> rfl

end Assembly
end CommandMachine
