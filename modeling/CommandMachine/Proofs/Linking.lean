import CommandMachine.Proofs.Decoding
import CommandMachine.Proofs.Macros
import CommandMachine.Proofs.Renumbering
namespace CommandMachine

/-!
# Compiling in parts

Two sources without macros that declare no common names may be compiled one by one or as one
source.  The program of the whole is that of the first source, followed by that of the second
one with its targets moved behind the first program and its lines moved behind the first
source.

A part is looked at as the middle of a longer source.  What it declares is declared by the
longer source as well, at a place that is moved by the commands in front of the part, and
whatever the part refers to it refers to in the longer source.
-/

/-! ## Moving instructions -/

/-- The same operand in a program that has `shift` instructions more in front of it. -/
def Operand.relocate (shift : Nat) : Operand → Operand
  | .target counter => .target (counter + shift)
  | other => other

namespace Instruction

def relocate (shift : Nat) (instruction : Instruction) : Instruction :=
  { instruction with operands := instruction.operands.map (Operand.relocate shift) }

theorem relocate_ofOp (shift : Nat) (op : Op) (operands : List Operand) :
    (ofOp op operands).relocate shift = ofOp op (operands.map (Operand.relocate shift)) := rfl

theorem relocate_zero (instruction : Instruction) : instruction.relocate 0 = instruction := by
  have same : Operand.relocate 0 = id := by
    funext operand
    cases operand <;> rfl
  simp [relocate, same]

end Instruction

def PlacedInstruction.relocate (shift : Nat) (placed : PlacedInstruction) : PlacedInstruction :=
  { placed with instruction := placed.instruction.relocate shift }

/-! ## A part of a source -/

section Parts

variable {before lines after : List SourceLine} {kind : SymbolKind} {name : String}

theorem undeclared_append {left right : List SourceLine} :
    Undeclared (left ++ right) kind name ↔
      Undeclared left kind name ∧ Undeclared right kind name := by
  simp only [Undeclared, List.mem_append, or_imp, forall_and]

/-- A declaration of a part is one of the whole source, behind all commands in front of the
part. -/
theorem Declared.within {body : List String} {place : Nat}
    (declared : Declared lines kind name body place)
    (others : Undeclared (before ++ after) kind name) :
    Declared (before ++ lines ++ after) kind name body
      (place + before.countP SourceLine.isCommand) := by
  rcases declared with ⟨earlier, line, later, rfl, declaration, rfl, single⟩
  rcases undeclared_append.mp others with ⟨front, back⟩
  rcases undeclared_append.mp single with ⟨left, right⟩
  refine ⟨before ++ earlier, line, later ++ after, by simp, declaration, ?_, ?_⟩
  · rw [List.countP_append, Nat.add_comm]
  · exact undeclared_append.mpr
      ⟨undeclared_append.mpr ⟨front, left⟩, undeclared_append.mpr ⟨right, back⟩⟩

theorem Declared.not_undeclared {body : List String} {place : Nat}
    (declared : Declared lines kind name body place) : ¬ Undeclared lines kind name := by
  rcases declared with ⟨earlier, line, later, rfl, declaration, -, -⟩
  intro undeclared
  exact undeclared line (by simp) ⟨body, declaration⟩

end Parts

namespace Symbols

/-- What the one table resolves the other one resolves as well, `shift` places further on.
There are no macros in either of them. -/
structure Carries (shift : Nat) (part whole : Symbols) : Prop where
  part_macros : ∀ word, part.macroBody? word = none
  whole_macros : ∀ word, whole.macroBody? word = none
  label : ∀ name place, part.label? name = some place → whole.label? name = some (place + shift)
  function : ∀ name place, part.function? name = some place →
    whole.function? name = some (place + shift)
  /-- A function that a thread may start at is not hidden by a label. -/
  visible : ∀ name place, part.label? name = none → part.function? name = some place →
    whole.label? name = none

/-- The tables of a part and of a whole source, if nothing that the part declares is declared
outside it. -/
theorem carries_of_resolve {before lines after : List SourceLine} {part whole : Resolution}
    (resolvedPart : resolve lines = .ok part)
    (resolvedWhole : resolve (before ++ lines ++ after) = .ok whole)
    (plain : ∀ name, Undeclared (before ++ lines ++ after) .macroBody name)
    (apart : ∀ kind other name, ¬ Undeclared lines kind name →
      Undeclared (before ++ after) other name) :
    Carries (before.countP SourceLine.isCommand) part.symbols whole.symbols where
  part_macros word := by
    rw [macroBody?_eq_none resolvedPart]
    exact (undeclared_append.mp (undeclared_append.mp (plain word)).1).2
  whole_macros word := (macroBody?_eq_none resolvedWhole word).mpr (plain word)
  label name place found := by
    rcases (label?_eq_some resolvedPart name place).mp found with ⟨body, declared⟩
    have others := apart .label .label name declared.not_undeclared
    exact (label?_eq_some resolvedWhole name _).mpr ⟨body, declared.within others⟩
  function name place found := by
    rcases (function?_eq_some resolvedPart name place).mp found with ⟨body, declared⟩
    have others := apart .function .function name declared.not_undeclared
    exact (function?_eq_some resolvedWhole name _).mpr ⟨body, declared.within others⟩
  visible name place missing found := by
    rcases (function?_eq_some resolvedPart name place).mp found with ⟨body, declared⟩
    rcases undeclared_append.mp (apart .function .label name declared.not_undeclared) with
      ⟨front, back⟩
    have middle := (label?_eq_none resolvedPart name).mp missing
    rw [label?_eq_none resolvedWhole]
    exact undeclared_append.mpr ⟨undeclared_append.mpr ⟨front, middle⟩, back⟩

end Symbols

/-! ## The first pass -/

namespace Resolution

/-- A first pass that has met more names than another one also reads the next line, as long
as the name that the line declares is still free. -/
theorem readLine_beside {free : SymbolKind → String → Prop} {state next other : Resolution}
    {line : SourceLine} (read : state.readLine line = .ok next)
    (beside : ∀ kind name, other.declaredOn? kind name = none ↔
      state.declaredOn? kind name = none ∧ free kind name)
    (fresh : ∀ kind name, line.Declares kind name → free kind name) :
    ∃ last, other.readLine line = .ok last ∧ ∀ kind name, last.declaredOn? kind name = none ↔
      next.declaredOn? kind name = none ∧ free kind name := by
  rcases readLine_cases read with
    ⟨tokens, command, rfl⟩ | ⟨kind, name, body, declaration, unseen, fits, rfl⟩
  · exact ⟨{ other with counter := other.counter + 1 }, by simp only [readLine, command], beside⟩
  · have missing := (beside kind name).mpr ⟨unseen, fresh kind name ⟨body, declaration⟩⟩
    refine ⟨(other.remember kind name line.number).define kind name body,
      by simp only [readLine, declaration, declare, missing, fits], ?_⟩
    intro otherKind otherName
    rw [declaredOn?_define, declaredOn?_remember, declaredOn?_define, declaredOn?_remember,
      beside, and_right_comm]

theorem readLines_beside {free : SymbolKind → String → Prop} {state final other : Resolution}
    {lines : List SourceLine} (read : state.readLines lines = .ok final)
    (beside : ∀ kind name, other.declaredOn? kind name = none ↔
      state.declaredOn? kind name = none ∧ free kind name)
    (fresh : ∀ line ∈ lines, ∀ kind name, line.Declares kind name → free kind name) :
    ∃ last, other.readLines lines = .ok last := by
  induction lines generalizing state other with
  | nil => exact ⟨other, rfl⟩
  | cons line rest ih =>
      rcases List.forall_mem_cons.mp fresh with ⟨here, later⟩
      unfold readLines at read
      cases first : state.readLine line with
      | error error => simp [first] at read
      | ok next =>
          simp only [first] at read
          rcases readLine_beside first beside here with ⟨moved, reread, still⟩
          simp only [readLines, reread]
          exact ih read still later

end Resolution

/-- Lines that declare no common names can be resolved together. -/
theorem Symbols.resolve_append {left right : List SourceLine} {first second : Resolution}
    (resolvedLeft : resolve left = .ok first) (resolvedRight : resolve right = .ok second)
    (apart : ∀ kind name, ¬ Undeclared right kind name → Undeclared left kind name) :
    ∃ whole, resolve (left ++ right) = .ok whole := by
  have beside (kind : SymbolKind) (name : String) : first.declaredOn? kind name = none ↔
      Resolution.start.declaredOn? kind name = none ∧ Undeclared left kind name := by
    have nothing : Resolution.start.declaredOn? kind name = none := rfl
    rw [and_iff_right nothing]
    exact (resolve_reflects resolvedLeft).declaredOn_none kind name
  have fresh (line : SourceLine) (member : line ∈ right) (kind : SymbolKind) (name : String)
      (declares : line.Declares kind name) : Undeclared left kind name :=
    apart kind name fun undeclared => undeclared line member declares
  rcases Resolution.readLines_beside resolvedRight beside fresh with ⟨whole, read⟩
  exact ⟨whole, (Resolution.readLines_append resolvedLeft right).trans read⟩

/-! ## The second pass -/

section Carried

variable {shift : Nat} {part whole : Symbols} {aliases : Aliases}

theorem Symbols.Carries.isMacro_eq (carries : Carries shift part whole) (word : String) :
    whole.isMacro word = part.isMacro word := by
  rw [isMacro, isMacro, carries.whole_macros, carries.part_macros]

theorem Command.split_carried (carries : Symbols.Carries shift part whole) (line : Nat)
    (tokens : List String) :
    Command.split line whole tokens = Command.split line part tokens := by
  unfold Command.split
  simp only [carries.isMacro_eq]

theorem Command.expand_carried (carries : Symbols.Carries shift part whole) (line : Nat)
    (command : Command) : command.expand line whole = command.expand line part := by
  unfold Command.expand
  rw [carries.whole_macros, carries.part_macros]

namespace Operand

theorem target?_carried (carries : Symbols.Carries shift part whole) {op : Op} {name : String}
    {place : Nat} (found : target? op part name = some place) :
    target? op whole name = some (place + shift) := by
  cases op with
  | call => exact carries.function name place found
  | thread =>
      apply Option.or_eq_some_iff.mpr
      rcases Option.or_eq_some_iff.mp found with label | ⟨missing, function⟩
      · exact Or.inl (carries.label name place label)
      · exact Or.inr ⟨carries.visible name place missing function,
          carries.function name place function⟩
  | _ => exact carries.label name place found

/-- Only the operands of jumps, calls and threads are places. -/
theorem relocate_ofArguments {line : Nat} {op : Op} {symbols : Symbols} {arguments : List String}
    {operands : List Operand} (other : op.shape ≠ .target)
    (read : ofArguments line op symbols arguments = .ok operands) (shift : Nat) :
    operands.map (relocate shift) = operands := by
  unfold ofArguments at read
  dsimp only at read
  cases shape : op.shape with
  | target => exact absurd shape other
  | bare =>
      rw [shape] at read
      cases read
      simp [relocate]
  | register =>
      rw [shape] at read
      dsimp only at read
      split at read
      · rcases map_eq_ok.mp read with ⟨operand, found, rfl⟩
        rw [ofRegisterName_eq_ok found]
        rfl
      · cases read
  | assign =>
      rw [shape] at read
      dsimp only at read
      split at read
      · cases read
      · rcases bind_eq_ok.mp read with ⟨source, value, read⟩
        rcases map_eq_ok.mp read with ⟨operand, found, rfl⟩
        rw [ofRegisterName_eq_ok found]
        rcases ofValueWords_eq_ok value with ⟨literal, rfl⟩ | ⟨name, rfl⟩ <;> rfl
  | count =>
      rw [shape] at read
      dsimp only at read
      split at read
      · cases read
        rfl
      · rcases map_eq_ok.mp read with ⟨operand, found, rfl⟩
        rcases ofCount_eq_ok found with ⟨count, rfl, -⟩
        rfl
      · cases read

theorem ofArguments_carried (carries : Symbols.Carries shift part whole) {line : Nat} {op : Op}
    {arguments : List String} {operands : List Operand}
    (read : ofArguments line op part arguments = .ok operands) :
    ofArguments line op whole arguments = .ok (operands.map (relocate shift)) := by
  by_cases shape : op.shape = .target
  · rcases ofArguments_target shape read with ⟨name, place, rfl, found, rfl⟩
    simp only [ofArguments, shape, ofTarget, target?_carried carries found]
    rfl
  · have same : ofArguments line op whole arguments = ofArguments line op part arguments := by
      unfold ofArguments
      cases found : op.shape with
      | target => exact absurd found shape
      | _ => rfl
    rw [relocate_ofArguments shape read, same, read]

end Operand

theorem Instruction.ofTokens_carried (carries : Symbols.Carries shift part whole) {line : Nat}
    {tokens : List String} {instruction : Instruction}
    (made : ofTokens aliases part line tokens = .ok instruction) :
    ofTokens aliases whole line tokens = .ok (instruction.relocate shift) := by
  rcases ofTokens_eq_ok made with
    ⟨command, expanded, op, operands, split, expand, operation, read, rfl⟩
  refine bind_eq_ok.mpr ⟨command, (Command.split_carried carries line tokens).trans split, ?_⟩
  refine bind_eq_ok.mpr ⟨expanded, (Command.expand_carried carries line command).trans expand, ?_⟩
  refine bind_eq_ok.mpr ⟨op, by rw [Command.op, operation], ?_⟩
  exact map_eq_ok.mpr ⟨_, Operand.ofArguments_carried carries read, relocate_ofOp shift op operands⟩

namespace Assembly

theorem code_carried (carries : Symbols.Carries shift part whole) {lines : List SourceLine}
    {placed : List PlacedInstruction} (assembled : code aliases part lines = .ok placed) :
    code aliases whole lines = .ok (placed.map (PlacedInstruction.relocate shift)) := by
  induction lines generalizing placed with
  | nil =>
      cases assembled
      rfl
  | cons line rest ih =>
      unfold code at assembled ⊢
      cases shape : line.kind with
      | declaration kind words =>
          simp only [shape] at assembled
          exact ih assembled
      | command tokens =>
          simp only [shape] at assembled
          cases made : Instruction.ofTokens aliases part line.number tokens with
          | error error => simp [made] at assembled
          | ok instruction =>
              simp only [made] at assembled
              rcases map_eq_ok.mp assembled with ⟨later, remaining, rfl⟩
              simp only [Instruction.ofTokens_carried carries made, ih remaining]
              rfl

/-- What comes of lines that follow each other.  The first error decides. -/
theorem code_append_eq (symbols : Symbols) (left right : List SourceLine) :
    code aliases symbols (left ++ right) =
      (code aliases symbols left).bind fun first =>
        (code aliases symbols right).map (first ++ ·) := by
  induction left with
  | nil =>
      rw [List.nil_append]
      change _ = (code aliases symbols right).map ([] ++ ·)
      cases code aliases symbols right <;> rfl
  | cons line rest ih =>
      rw [List.cons_append, code, code, ih]
      cases line.kind with
      | declaration kind words => rfl
      | command tokens =>
          dsimp only
          cases Instruction.ofTokens aliases symbols line.number tokens with
          | error error => rfl
          | ok instruction =>
              cases code aliases symbols rest with
              | error error => rfl
              | ok later => cases code aliases symbols right <;> rfl

theorem code_append {symbols : Symbols} {left right : List SourceLine}
    {first second : List PlacedInstruction} (assembledLeft : code aliases symbols left = .ok first)
    (assembledRight : code aliases symbols right = .ok second) :
    code aliases symbols (left ++ right) = .ok (first ++ second) := by
  rw [code_append_eq, assembledLeft]
  exact map_eq_ok.mpr ⟨second, assembledRight, rfl⟩

end Assembly
end Carried

/-! ## The whole source -/

namespace SourceLine

theorem scanFrom_append {start : Nat} {left right : List String} {first second : List SourceLine}
    (readLeft : scanFrom start left = .ok first)
    (readRight : scanFrom (start + left.length) right = .ok second) :
    scanFrom start (left ++ right) = .ok (first ++ second) := by
  induction left generalizing start first with
  | nil =>
      cases readLeft
      exact readRight
  | cons text rest ih =>
      have next : start + (rest.length + 1) = start + 1 + rest.length :=
        Nat.add_right_comm start rest.length 1
      rw [List.length_cons, next] at readRight
      rw [List.cons_append]
      unfold scanFrom at readLeft ⊢
      cases here : scan start text with
      | error error => simp [here] at readLeft
      | ok line =>
          cases line with
          | none =>
              simp only [here] at readLeft
              exact ih readLeft readRight
          | some line =>
              simp only [here] at readLeft
              rcases map_eq_ok.mp readLeft with ⟨later, remaining, rfl⟩
              simp only [ih remaining readRight]
              rfl

/-- One of the lines of text declares the name. -/
def DeclaredBy (lines : List String) (kind : SymbolKind) (name : String) : Prop :=
  ∃ sourceLines, scanAll lines = .ok sourceLines ∧ ∃ line ∈ sourceLines, line.Declares kind name

theorem declaredBy_iff {lines : List String} {sourceLines : List SourceLine}
    (scanned : scanAll lines = .ok sourceLines) (kind : SymbolKind) (name : String) :
    DeclaredBy lines kind name ↔ ¬ Undeclared sourceLines kind name := by
  simp [DeclaredBy, scanned, Undeclared]

/-- The name that a line declares. -/
def declaration? (line : SourceLine) : Option (SymbolKind × String) :=
  match line.kind with
  | .declaration kind (name :: _) => some (kind, name)
  | _ => none

theorem declaration?_eq_some {line : SourceLine} {kind : SymbolKind} {name : String} :
    line.declaration? = some (kind, name) ↔ line.Declares kind name := by
  unfold declaration? Declares
  split <;> grind

/-- All names that lines of text declare. -/
def declarations (lines : List String) : List (SymbolKind × String) :=
  match scanAll lines with
  | .ok sourceLines => sourceLines.filterMap declaration?
  | .error _ => []

theorem mem_declarations {lines : List String} {kind : SymbolKind} {name : String} :
    (kind, name) ∈ declarations lines ↔ DeclaredBy lines kind name := by
  unfold declarations DeclaredBy
  cases scanAll lines with
  | error error => simp
  | ok sourceLines => simp [declaration?_eq_some]

theorem undeclared_renumber (move : Nat → Nat) (lines : List SourceLine) (kind : SymbolKind)
    (name : String) :
    Undeclared (lines.map (renumber move)) kind name ↔ Undeclared lines kind name := by
  simp [Undeclared, Declares]

end SourceLine

namespace Assembly

open CompileError SourceLine

/-- Both passes over the lines of two parts, given what they make of each part. -/
theorem code_linked {aliases : Aliases} {left right : List SourceLine} {first second : Resolution}
    {leftCode rightCode : List PlacedInstruction}
    (resolvedLeft : Symbols.resolve left = .ok first)
    (resolvedRight : Symbols.resolve right = .ok second)
    (codedLeft : code aliases first.symbols left = .ok leftCode)
    (codedRight : code aliases second.symbols right = .ok rightCode)
    (plain : ∀ name, Undeclared (left ++ right) .macroBody name)
    (apart : ∀ kind other name, ¬ Undeclared left kind name → Undeclared right other name) :
    ∃ whole, Symbols.resolve (left ++ right) = .ok whole ∧
      code aliases whole.symbols (left ++ right) = .ok (leftCode ++
        rightCode.map (PlacedInstruction.relocate (left.countP SourceLine.isCommand))) := by
  have converse (kind other : SymbolKind) (name : String)
      (declared : ¬ Undeclared right kind name) : Undeclared left other name := by
    by_contra declaredLeft
    exact declared (apart other kind name declaredLeft)
  rcases Symbols.resolve_append resolvedLeft resolvedRight fun kind => converse kind kind with
    ⟨whole, resolved⟩
  refine ⟨whole, resolved, code_append ?_ ?_⟩
  · have carries : Symbols.Carries 0 first.symbols whole.symbols :=
      Symbols.carries_of_resolve resolvedLeft
        (show Symbols.resolve ([] ++ left ++ right) = .ok whole from resolved) plain apart
    have unmoved : PlacedInstruction.relocate 0 = id := by
      funext placed
      rw [PlacedInstruction.relocate, Instruction.relocate_zero]
      rfl
    have carried := code_carried carries codedLeft
    rwa [unmoved, List.map_id] at carried
  · have padded : left ++ right ++ [] = left ++ right := List.append_nil _
    rw [← padded] at resolved plain
    have carries := Symbols.carries_of_resolve resolvedRight resolved plain fun kind other name =>
      (List.append_nil left).symm ▸ converse kind other name
    exact code_carried carries codedRight

/-- What both passes make of a source that stands behind other lines. -/
theorem code_below {aliases : Aliases} {lines : List String} {program : Program}
    (compiled : compile aliases lines = .ok program) (offset : Nat) :
    ∃ sourceLines resolution, scanFrom (1 + offset) lines = .ok sourceLines ∧
      Symbols.resolve sourceLines = .ok resolution ∧
      code aliases resolution.symbols sourceLines = .ok (program.renumber (· + offset)).code ∧
      ∀ kind name, DeclaredBy lines kind name ↔ ¬ Undeclared sourceLines kind name := by
  rcases compile_eq_ok compiled with ⟨sourceLines, resolution, scanned, resolved, coded⟩
  refine ⟨sourceLines.map (SourceLine.renumber (· + offset)), resolution.renumber (· + offset),
    ?_, ?_, ?_, fun kind name => ?_⟩
  · rw [scanFrom_add, show scanFrom 1 lines = .ok sourceLines from scanned]
    rfl
  · rw [Symbols.resolve_renumber, resolved]
    rfl
  · rw [code_renumber]
    change (relined _ (code aliases resolution.symbols sourceLines)).map _ = _
    rw [coded]
    rfl
  · rw [undeclared_renumber]
    exact declaredBy_iff scanned kind name

/-- **Sources can be compiled in parts.**  Two sources without macros are given, and no name
is declared in both of them, be it as a label or as a function.  If each of them compiles,
then so do the lines of the one followed by those of the other, to the instructions of the
one followed by those of the other, whose targets are moved by the number of instructions in
front of them and whose lines are moved by the number of lines in front of them. -/
theorem compile_append {aliases : Aliases} {left right : List String} {first second : Program}
    (compiledLeft : compile aliases left = .ok first)
    (compiledRight : compile aliases right = .ok second)
    (plainLeft : ∀ name, ¬ DeclaredBy left .macroBody name)
    (plainRight : ∀ name, ¬ DeclaredBy right .macroBody name)
    (apart : ∀ kind other name, DeclaredBy left kind name → ¬ DeclaredBy right other name) :
    ∃ program, compile aliases (left ++ right) = .ok program ∧
      program.instructions =
        first.instructions ++ second.instructions.map (Instruction.relocate first.size) ∧
      program.lines = first.lines ++ second.lines.map (· + left.length) := by
  rcases compile_eq_ok compiledLeft with
    ⟨leftLines, leftTables, scannedLeft, resolvedLeft, codedLeft⟩
  rcases code_below compiledRight left.length with
    ⟨rightLines, rightTables, scannedRight, resolvedRight, codedRight, declaredRight⟩
  have declaredLeft := declaredBy_iff scannedLeft
  have plain (name : String) : Undeclared (leftLines ++ rightLines) .macroBody name := by
    refine undeclared_append.mpr ⟨?_, ?_⟩
    · exact not_not.mp fun declared => plainLeft name ((declaredLeft _ _).mpr declared)
    · exact not_not.mp fun declared => plainRight name ((declaredRight _ _).mpr declared)
  have disjoint (kind other : SymbolKind) (name : String)
      (declared : ¬ Undeclared leftLines kind name) : Undeclared rightLines other name :=
    not_not.mp fun again => apart kind other name ((declaredLeft kind name).mpr declared)
      ((declaredRight other name).mpr again)
  rcases code_linked resolvedLeft resolvedRight codedLeft codedRight plain disjoint with
    ⟨whole, resolved, coded⟩
  have size : leftLines.countP SourceLine.isCommand = first.size := by
    rw [size_of_code codedLeft, SourceLine.commands, List.countP_eq_length_filter]
  rw [size] at coded
  have assembled : ofSourceLines aliases (leftLines ++ rightLines) = .ok ⟨_⟩ :=
    bind_eq_ok.mpr ⟨whole, resolved, map_eq_ok.mpr ⟨_, coded, rfl⟩⟩
  refine ⟨_, bind_eq_ok.mpr ⟨_, scanFrom_append scannedLeft scannedRight, assembled⟩, ?_, ?_⟩
  · rw [← Program.instructions_renumber (· + left.length) second]
    simp [Program.instructions, PlacedInstruction.relocate]
  · rw [← Program.lines_renumber (· + left.length) second]
    simp [Program.lines, PlacedInstruction.relocate]

/-- A source whose last line declares a label behind all instructions. -/
def opening : List String :=
  ["# begin", "LABEL top", "WRITE x 1", "THREAD work", "JUMP out", "FUNC work", "JZ top", "RET",
    "LABEL out"]

def openingProgram : Program where
  code := [⟨.ofOp .write [.register "x", .literal (.integer 1)], 3⟩,
    ⟨.ofOp .thread [.target 3], 4⟩, ⟨.ofOp .jump [.target 5], 5⟩,
    ⟨.ofOp .jumpZero [.target 0], 7⟩, ⟨.ofOp .ret [], 8⟩]

def closing : List String :=
  ["CALL rest", "", "FUNC rest", "soft JNZ tail", "THREAD rest", "LABEL tail"]

def closingProgram : Program where
  code := [⟨.ofOp .call [.target 1], 1⟩, ⟨.ofOp .jumpNonzero [.target 3], 4⟩,
    ⟨.ofOp .thread [.target 1], 5⟩]

/-- The three targets of the second source are moved by five instructions, and its lines by
nine. -/
theorem opening_append_closing :
    compile .standard opening = .ok openingProgram ∧
      compile .standard closing = .ok closingProgram ∧
      ∃ program, compile .standard (opening ++ closing) = .ok program ∧
        program.instructions = openingProgram.instructions ++
          [.ofOp .call [.target 6], .ofOp .jumpNonzero [.target 8], .ofOp .thread [.target 6]] ∧
        program.lines = [3, 4, 5, 7, 8, 10, 13, 14] := by
  have compiledOpening : compile .standard opening = .ok openingProgram := by decide +kernel
  have compiledClosing : compile .standard closing = .ok closingProgram := by decide +kernel
  have plainOpening : ∀ entry ∈ declarations opening, entry.1 ≠ .macroBody := by decide +kernel
  have plainClosing : ∀ entry ∈ declarations closing, entry.1 ≠ .macroBody := by decide +kernel
  have apart : ∀ entry ∈ declarations opening, ∀ other ∈ declarations closing,
      entry.2 ≠ other.2 := by
    decide +kernel
  refine ⟨compiledOpening, compiledClosing,
    compile_append compiledOpening compiledClosing ?_ ?_ ?_⟩
  · intro name declared
    exact plainOpening _ (mem_declarations.mpr declared) rfl
  · intro name declared
    exact plainClosing _ (mem_declarations.mpr declared) rfl
  · intro kind other name declared again
    exact apart _ (mem_declarations.mpr declared) _ (mem_declarations.mpr again) rfl

end Assembly
end CommandMachine
