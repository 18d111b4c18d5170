import CommandMachine.Proofs.Declarations
import CommandMachine.Source.Assembly
import Mathlib.Data.List.Forall2
namespace CommandMachine

/-!
# From command lines to instructions

The second pass turns command lines into instructions with the tables of the
first one at hand.  Here the words of a command line are read by what the source
declares and not by those tables, and the two passes are shown to agree: the
command at place `i` becomes the instruction at program counter `i`, and a symbol
is resolved to the number of commands in front of its only declaration.
-/

theorem bind_eq_ok {first : Except ε α} {later : α → Except ε β} {result : β} :
    first.bind later = .ok result ↔ ∃ value, first = .ok value ∧ later value = .ok result := by
  cases first with
  | error error => simp [Except.bind]
  | ok value => simp [Except.bind]

theorem map_eq_ok {first : Except ε α} {change : α → β} {result : β} :
    first.map change = .ok result ↔ ∃ value, first = .ok value ∧ change value = result := by
  cases first with
  | error error => simp [Except.map]
  | ok value => simp [Except.map]

/-! ## Lines and their numbers -/

namespace SourceLine

/-- The lines that give commands, in the order of the source. -/
def commands (lines : List SourceLine) : List SourceLine :=
  lines.filter isCommand

theorem classify_command {tokens found : List String} (command : classify tokens = .command found) :
    found = tokens := by
  unfold classify at command
  repeat' split at command
  all_goals cases command
  all_goals rfl

theorem tokens_of_command {line : SourceLine} {tokens : List String}
    (command : line.kind = .command tokens) : tokens = line.tokens :=
  classify_command command

theorem scan_number {number : Nat} {text : String} {line : SourceLine}
    (read : scan number text = .ok (some line)) : line.number = number := by
  unfold scan at read
  dsimp only at read
  by_cases skipped : isSkipped (Text.trimStart text.toList) = true
  · simp [skipped] at read
  · rw [if_neg skipped] at read
    cases found : (Scanner.ofLine (Text.trimStart text.toList)).words with
    | mk words failure =>
        cases failure with
        | none =>
            simp only [found, Except.ok.injEq, Option.some.injEq] at read
            rw [← read]
        | some column => simp [found] at read

/-- A line that was read has the number of the text it was read from. -/
def StandsIn (lines : List String) (first : Nat) (line : SourceLine) : Prop :=
  first ≤ line.number ∧ ∃ text, lines[line.number - first]? = some text ∧
    scan line.number text = .ok (some line)

theorem StandsIn.later {lines : List String} {first : Nat} {line : SourceLine}
    (stands : StandsIn lines (first + 1) line) (text : String) :
    StandsIn (text :: lines) first line := by
  rcases stands with ⟨after, found, member, read⟩
  refine ⟨by omega, found, ?_, read⟩
  have shift : line.number - first = (line.number - (first + 1)) + 1 := by omega
  rw [shift, List.getElem?_cons_succ]
  exact member

theorem scanFrom_standsIn {lines : List String} {first : Nat} {found : List SourceLine}
    (read : scanFrom first lines = .ok found) :
    (found.map number).Pairwise (· < ·) ∧ ∀ line ∈ found, StandsIn lines first line := by
  induction lines generalizing first found with
  | nil =>
      cases read
      simp
  | cons text rest ih =>
      unfold scanFrom at read
      cases head : scan first text with
      | error error => simp [head] at read
      | ok line? =>
          cases line? with
          | none =>
              simp only [head] at read
              rcases ih read with ⟨ascending, stands⟩
              exact ⟨ascending, fun line member => (stands line member).later text⟩
          | some line =>
              simp only [head, map_eq_ok] at read
              rcases read with ⟨later, readLater, rfl⟩
              rcases ih readLater with ⟨ascending, stands⟩
              have here := scan_number head
              refine ⟨List.pairwise_cons.mpr ⟨?_, ascending⟩, ?_⟩
              · intro other member
                rcases List.mem_map.mp member with ⟨last, listed, rfl⟩
                have after := (stands last listed).1
                omega
              · intro other member
                rcases List.mem_cons.mp member with rfl | listed
                · refine ⟨by omega, text, ?_, by rw [here]; exact head⟩
                  simp [here]
                · exact (stands other listed).later text

end SourceLine

/-! ## Reading a command line -/

/-- A word that is a command by itself: a mnemonic, or the name of a macro. -/
def IsCommandWord (lines : List SourceLine) (word : String) : Prop :=
  Op.isMnemonic word = true ∨ ¬ Undeclared lines .macroBody word

/-- The parts of a command line.  A first word that is no command is a modifier. -/
inductive Headed (lines : List SourceLine) : List String → Command → Prop where
  | bare {word : String} {rest : List String} (known : IsCommandWord lines word) :
      Headed lines (word :: rest) ⟨none, word, rest⟩
  | modified {modifier word : String} {rest : List String}
      (unknown : ¬ IsCommandWord lines modifier) :
      Headed lines (modifier :: word :: rest) ⟨some modifier, word, rest⟩

/-- What a command line says once a macro has been replaced by its body.  The words
behind the name of the macro are dropped, its modifier is kept. -/
inductive Expanded (lines : List SourceLine) : List String → Command → Prop where
  | plain {tokens : List String} {command : Command} (headed : Headed lines tokens command)
      (ordinary : Undeclared lines .macroBody command.command) : Expanded lines tokens command
  | ofMacro {tokens rest body : List String} {modifier : Option String} {name word : String}
      {place : Nat} (headed : Headed lines tokens ⟨modifier, name, rest⟩)
      (declared : Declared lines .macroBody name (word :: body) place) :
      Expanded lines tokens ⟨modifier, word, body⟩

namespace Command

variable {sourceLines : List SourceLine} {resolution : Resolution}

theorem isMacro_iff (resolved : Symbols.resolve sourceLines = .ok resolution) (word : String) :
    resolution.symbols.isMacro word = true ↔ ¬ Undeclared sourceLines .macroBody word := by
  rw [← Symbols.macroBody?_eq_none resolved, Symbols.isMacro]
  cases resolution.symbols.macroBody? word <;> simp

theorem isCommandWord_iff (resolved : Symbols.resolve sourceLines = .ok resolution)
    (word : String) :
    (Op.isMnemonic word || resolution.symbols.isMacro word) = true ↔
      IsCommandWord sourceLines word := by
  rw [Bool.or_eq_true, isMacro_iff resolved]
  rfl

theorem headed_of_split (resolved : Symbols.resolve sourceLines = .ok resolution)
    {line : Nat} {tokens : List String} {command : Command}
    (split : Command.split line resolution.symbols tokens = .ok command) :
    Headed sourceLines tokens command := by
  cases tokens with
  | nil => cases split
  | cons first rest =>
      dsimp only [Command.split] at split
      by_cases known : IsCommandWord sourceLines first
      · rw [if_pos ((isCommandWord_iff resolved first).mpr known)] at split
        cases split
        exact .bare known
      · rw [if_neg fun word => known ((isCommandWord_iff resolved first).mp word)] at split
        cases rest with
        | nil => cases split
        | cons word arguments =>
            cases split
            exact .modified known

theorem expanded_of_expand (resolved : Symbols.resolve sourceLines = .ok resolution)
    {line : Nat} {tokens : List String} {command expanded : Command}
    (headed : Headed sourceLines tokens command)
    (expand : command.expand line resolution.symbols = .ok expanded) :
    Expanded sourceLines tokens expanded := by
  unfold Command.expand at expand
  cases body : resolution.symbols.macroBody? command.command with
  | none =>
      simp only [body, Except.ok.injEq] at expand
      subst expand
      exact .plain headed ((Symbols.macroBody?_eq_none resolved _).mp body)
  | some words =>
      rcases (Symbols.macroBody?_eq_some resolved _ _).mp body with ⟨place, declared⟩
      cases words with
      | nil => simp [body] at expand
      | cons inner arguments =>
          simp only [body] at expand
          split at expand
          · cases expand
          · split at expand
            · cases expand
            · cases expand
              exact .ofMacro headed declared

end Command

/-! ## Instructions and their operands -/

/-- The place that an operation refers to by a name.  A jump goes to a label, a call
to a function, and a thread starts at a label, or at a function if there is no
such label. -/
inductive Refers (lines : List SourceLine) (name : String) : Op → Nat → Prop where
  | jump {op : Op} {body : List String} {place : Nat}
      (jumps : op = .jump ∨ op = .jumpZero ∨ op = .jumpNonzero)
      (declared : Declared lines .label name body place) : Refers lines name op place
  | call {body : List String} {place : Nat}
      (declared : Declared lines .function name body place) : Refers lines name .call place
  | threadAtLabel {body : List String} {place : Nat}
      (declared : Declared lines .label name body place) : Refers lines name .thread place
  | threadAtFunction {body : List String} {place : Nat}
      (noLabel : Undeclared lines .label name)
      (declared : Declared lines .function name body place) : Refers lines name .thread place

theorem Refers.place_le {lines : List SourceLine} {name : String} {op : Op} {place : Nat}
    (refers : Refers lines name op place) : place ≤ (SourceLine.commands lines).length := by
  rw [SourceLine.commands, ← List.countP_eq_length_filter]
  cases refers with
  | jump _ declared => exact declared.place_le
  | call declared => exact declared.place_le
  | threadAtLabel declared => exact declared.place_le
  | threadAtFunction _ declared => exact declared.place_le

theorem refers_of_target? {sourceLines : List SourceLine} {resolution : Resolution}
    (resolved : Symbols.resolve sourceLines = .ok resolution) {op : Op} {name : String}
    {place : Nat} (shape : op.shape = .target)
    (found : Operand.target? op resolution.symbols name = some place) :
    Refers sourceLines name op place := by
  have atLabel := (Symbols.label?_eq_some resolved name place).mp
  have atFunction := (Symbols.function?_eq_some resolved name place).mp
  cases op <;> simp only [Op.shape, reduceCtorEq] at shape
  case jump =>
    rcases atLabel found with ⟨body, declared⟩
    exact .jump (Or.inl rfl) declared
  case jumpZero =>
    rcases atLabel found with ⟨body, declared⟩
    exact .jump (Or.inr (Or.inl rfl)) declared
  case jumpNonzero =>
    rcases atLabel found with ⟨body, declared⟩
    exact .jump (Or.inr (Or.inr rfl)) declared
  case call =>
    rcases atFunction found with ⟨body, declared⟩
    exact .call declared
  case thread =>
    rcases Option.or_eq_some_iff.mp found with label | ⟨noLabel, function⟩
    · rcases atLabel label with ⟨body, declared⟩
      exact .threadAtLabel declared
    · rcases atFunction function with ⟨body, declared⟩
      exact .threadAtFunction ((Symbols.label?_eq_none resolved name).mp noLabel) declared

namespace Operand

theorem ofTarget_eq_ok {line : Nat} {op : Op} {symbols : Symbols} {name : String}
    {operand : Operand} :
    ofTarget line op symbols name = .ok operand ↔
      ∃ place, target? op symbols name = some place ∧ operand = .target place := by
  unfold ofTarget
  cases target? op symbols name with
  | none => simp
  | some place => simp [eq_comm]

theorem ofArguments_target {line : Nat} {op : Op} {symbols : Symbols} {arguments : List String}
    {operands : List Operand} (shape : op.shape = .target)
    (read : ofArguments line op symbols arguments = .ok operands) :
    ∃ name place, arguments = [name] ∧ target? op symbols name = some place ∧
      operands = [.target place] := by
  simp only [ofArguments, shape] at read
  split at read
  · rename_i name
    rcases map_eq_ok.mp read with ⟨operand, found, rfl⟩
    rcases ofTarget_eq_ok.mp found with ⟨place, target, rfl⟩
    exact ⟨name, place, rfl, target, rfl⟩
  · cases read

end Operand

namespace Instruction

/-- The parts from which the instruction of a command line is made. -/
theorem ofTokens_eq_ok {aliases : Aliases} {symbols : Symbols} {line : Nat}
    {tokens : List String} {instruction : Instruction}
    (made : ofTokens aliases symbols line tokens = .ok instruction) :
    ∃ command expanded op operands, Command.split line symbols tokens = .ok command ∧
      command.expand line symbols = .ok expanded ∧ expanded.op? aliases = some op ∧
      Operand.ofArguments line op symbols expanded.arguments = .ok operands ∧
      instruction = ofOp op operands := by
  rcases bind_eq_ok.mp made with ⟨command, split, made⟩
  rcases bind_eq_ok.mp made with ⟨expanded, expand, made⟩
  rcases bind_eq_ok.mp made with ⟨op, operation, made⟩
  rcases map_eq_ok.mp made with ⟨operands, read, rfl⟩
  refine ⟨command, expanded, op, operands, split, expand, ?_, read, rfl⟩
  unfold Command.op at operation
  cases found : expanded.op? aliases with
  | none => simp [found] at operation
  | some other =>
      simp only [found, Except.ok.injEq] at operation
      rw [operation]

end Instruction

namespace Assembly

/-- The second pass turns one command line into one placed instruction. -/
def Assembles (aliases : Aliases) (symbols : Symbols) (line : SourceLine)
    (placed : PlacedInstruction) : Prop :=
  placed.line = line.number ∧
    Instruction.ofTokens aliases symbols line.number line.tokens = .ok placed.instruction

theorem code_assembles {aliases : Aliases} {symbols : Symbols} {lines : List SourceLine}
    {placed : List PlacedInstruction} (assembled : code aliases symbols lines = .ok placed) :
    List.Forall₂ (Assembles aliases symbols) (SourceLine.commands lines) placed := by
  induction lines generalizing placed with
  | nil =>
      cases assembled
      exact .nil
  | cons line rest ih =>
      unfold code at assembled
      cases shape : line.kind with
      | declaration kind words =>
          simp only [shape] at assembled
          have silent := SourceLine.isCommand_of_declaration shape
          simpa [SourceLine.commands, silent] using ih assembled
      | command tokens =>
          have counted := SourceLine.isCommand_of_command shape
          have same := SourceLine.tokens_of_command shape
          subst same
          simp only [shape] at assembled
          cases made : Instruction.ofTokens aliases symbols line.number line.tokens with
          | error error => simp [made] at assembled
          | ok instruction =>
              simp only [made] at assembled
              rcases map_eq_ok.mp assembled with ⟨later, remaining, rfl⟩
              have both : List.Forall₂ (Assembles aliases symbols)
                  (line :: SourceLine.commands rest) (⟨instruction, line.number⟩ :: later) :=
                .cons ⟨rfl, made⟩ (ih remaining)
              simpa [SourceLine.commands, counted] using both

/-- A source that compiles has been read, resolved and translated. -/
theorem compile_eq_ok {aliases : Aliases} {lines : List String} {program : Program}
    (compiled : compile aliases lines = .ok program) :
    ∃ sourceLines resolution, SourceLine.scanAll lines = .ok sourceLines ∧
      Symbols.resolve sourceLines = .ok resolution ∧
      code aliases resolution.symbols sourceLines = .ok program.code := by
  rcases bind_eq_ok.mp compiled with ⟨sourceLines, scanned, compiled⟩
  rcases bind_eq_ok.mp compiled with ⟨resolution, resolved, compiled⟩
  rcases map_eq_ok.mp compiled with ⟨code, assembled, rfl⟩
  exact ⟨sourceLines, resolution, scanned, resolved, assembled⟩

section Code

variable {aliases : Aliases} {lines : List SourceLine} {resolution : Resolution}
  {program : Program}

theorem lines_of_code (assembled : code aliases resolution.symbols lines = .ok program.code) :
    program.lines = (SourceLine.commands lines).map SourceLine.number := by
  have numbers {commands : List SourceLine} {placed : List PlacedInstruction}
      (pairs : List.Forall₂ (Assembles aliases resolution.symbols) commands placed) :
      placed.map PlacedInstruction.line = commands.map SourceLine.number := by
    induction pairs with
    | nil => rfl
    | cons head _ ih => rw [List.map_cons, List.map_cons, head.1, ih]
  exact numbers (code_assembles assembled)

theorem size_of_code (assembled : code aliases resolution.symbols lines = .ok program.code) :
    program.size = (SourceLine.commands lines).length :=
  (code_assembles assembled).length_eq.symm

theorem lineOf?_of_code (assembled : code aliases resolution.symbols lines = .ok program.code)
    (counter : Nat) :
    program.lineOf? counter =
      ((SourceLine.commands lines)[counter]?).map SourceLine.number := by
  have same := congrArg (fun numbers => numbers[counter]?) (lines_of_code assembled)
  simpa [Program.lines, Program.lineOf?] using same

theorem get?_of_code (assembled : code aliases resolution.symbols lines = .ok program.code)
    {counter : Nat} {line : SourceLine}
    (command : (SourceLine.commands lines)[counter]? = some line) :
    ∃ instruction, program.get? counter = some instruction ∧
      Instruction.ofTokens aliases resolution.symbols line.number line.tokens =
        .ok instruction := by
  have pairs := code_assembles assembled
  rcases List.getElem?_eq_some_iff.mp command with ⟨inside, rfl⟩
  have fits : counter < program.code.length := pairs.length_eq ▸ inside
  refine ⟨program.code[counter].instruction, ?_, (pairs.get inside fits).2⟩
  simp [Program.get?, fits]

theorem command_of_get? (assembled : code aliases resolution.symbols lines = .ok program.code)
    {counter : Nat} {instruction : Instruction}
    (found : program.get? counter = some instruction) :
    ∃ line, (SourceLine.commands lines)[counter]? = some line ∧
      Instruction.ofTokens aliases resolution.symbols line.number line.tokens =
        .ok instruction := by
  have pairs := code_assembles assembled
  rcases Option.map_eq_some_iff.mp found with ⟨placed, listed, rfl⟩
  rcases List.getElem?_eq_some_iff.mp listed with ⟨fits, rfl⟩
  have inside : counter < (SourceLine.commands lines).length := pairs.length_eq ▸ fits
  exact ⟨_, List.getElem?_eq_getElem inside, (pairs.get inside fits).2⟩

/-- The operand of a target-shaped instruction is the place of the symbol that the
command line names. -/
theorem target_of_ofTokens (resolved : Symbols.resolve lines = .ok resolution)
    {line : Nat} {tokens : List String} {instruction : Instruction}
    (made : Instruction.ofTokens aliases resolution.symbols line tokens = .ok instruction) :
    ∃ op, instruction.op? = some op ∧ (op.shape = .target →
      ∃ modifier word name place, Expanded lines tokens ⟨modifier, word, [name]⟩ ∧
        instruction.operands = [.target place] ∧ Refers lines name op place) := by
  rcases Instruction.ofTokens_eq_ok made with
    ⟨command, expanded, op, operands, split, expand, -, read, rfl⟩
  refine ⟨op, Instruction.op?_ofOp op operands, fun shape => ?_⟩
  rcases Operand.ofArguments_target shape read with ⟨name, place, single, found, rfl⟩
  have reading := Command.expanded_of_expand resolved
    (Command.headed_of_split resolved split) expand
  rw [show expanded = ⟨expanded.modifier, expanded.command, [name]⟩ by rw [← single]] at reading
  exact ⟨_, _, name, place, reading, rfl, refers_of_target? resolved shape found⟩

end Code

/-- Both passes agree on every line.  The command at place `index` becomes the
instruction at counter `index` and keeps its line number, and a target is the
number of commands in front of the only declaration of the symbol that the
command names, macros being replaced. -/
theorem compile_passes_agree {aliases : Aliases} {lines : List String} {program : Program}
    (compiled : compile aliases lines = .ok program) :
    ∃ sourceLines, SourceLine.scanAll lines = .ok sourceLines ∧
      program.size = (SourceLine.commands sourceLines).length ∧
      program.lines.Pairwise (· < ·) ∧
      ∀ index line, (SourceLine.commands sourceLines)[index]? = some line →
        SourceLine.StandsIn lines 1 line ∧ program.lineOf? index = some line.number ∧
        ∃ instruction op, program.get? index = some instruction ∧
          instruction.op? = some op ∧ (op.shape = .target →
            ∃ modifier word name place,
              Expanded sourceLines line.tokens ⟨modifier, word, [name]⟩ ∧
              instruction.operands = [.target place] ∧ place ≤ program.size ∧
              Refers sourceLines name op place) := by
  rcases compile_eq_ok compiled with ⟨sourceLines, resolution, scanned, resolved, assembled⟩
  rcases SourceLine.scanFrom_standsIn scanned with ⟨ascending, stands⟩
  have size := size_of_code assembled
  refine ⟨sourceLines, scanned, size, ?_, fun index line command => ⟨?_, ?_, ?_⟩⟩
  · rw [lines_of_code assembled]
    exact ascending.sublist (List.filter_sublist.map _)
  · exact stands line (List.mem_of_mem_filter (List.mem_of_getElem? command))
  · rw [lineOf?_of_code assembled, command, Option.map_some]
  · rcases get?_of_code assembled command with ⟨instruction, found, made⟩
    rcases target_of_ofTokens resolved made with ⟨op, decoded, target⟩
    refine ⟨instruction, op, found, decoded, fun shape => ?_⟩
    rcases target shape with ⟨modifier, word, name, place, reading, operands, refers⟩
    exact ⟨modifier, word, name, place, reading, operands, size ▸ refers.place_le, refers⟩

/-- A source with a macro, modifiers, references forwards and backwards, labels behind
the last command, and a name that is a label and a function at once. -/
def detour : List String :=
  ["MACRO back JUMP top", "LABEL top", "# a remark", "soft WRITE x 1", "loud LABEL middle",
    "CALL work", "THREAD work", "back now", "FUNC work", "JZ end", "RET", "LABEL work",
    "LABEL end"]

def detourProgram : Program where
  code := [⟨.ofOp .write [.register "x", .literal (.integer 1)], 4⟩,
    ⟨.ofOp .call [.target 4], 6⟩, ⟨.ofOp .thread [.target 6], 7⟩,
    ⟨.ofOp .jump [.target 0], 8⟩, ⟨.ofOp .jumpZero [.target 6], 10⟩, ⟨.ofOp .ret [], 11⟩]

theorem compile_detour : compile .standard detour = .ok detourProgram := by
  decide +kernel

/-- In the sample source the eighth line calls the macro, and so jumps to the label
in front of all commands. -/
theorem passes_agree_on_detour :
    compile .standard detour = .ok detourProgram ∧
      ∃ sourceLines, SourceLine.scanAll detour = .ok sourceLines ∧
        detourProgram.size = (SourceLine.commands sourceLines).length ∧
        (SourceLine.commands sourceLines)[3]? = some ⟨8, ["back", "now"]⟩ ∧
        ∃ modifier word name, Expanded sourceLines ["back", "now"] ⟨modifier, word, [name]⟩ ∧
          Refers sourceLines name .jump 0 := by
  refine ⟨compile_detour, ?_⟩
  rcases compile_passes_agree compile_detour with ⟨sourceLines, scanned, size, -, agree⟩
  have command : (SourceLine.scanAll detour).map (fun lines => (SourceLine.commands lines)[3]?) =
      .ok (some ⟨8, ["back", "now"]⟩) := by
    decide +kernel
  simp only [scanned, Except.map, Except.ok.injEq] at command
  rcases agree 3 _ command with ⟨-, -, instruction, op, found, decoded, target⟩
  have jumps : instruction = .ofOp .jump [.target 0] := by
    simpa [Program.get?, detourProgram, eq_comm] using found
  subst jumps
  rw [Instruction.op?_ofOp, Option.some.injEq] at decoded
  subst decoded
  rcases target rfl with ⟨modifier, word, name, place, reading, operands, -, refers⟩
  have start : 0 = place := by
    simpa [Instruction.ofOp] using operands
  subst start
  exact ⟨sourceLines, scanned, size, command, modifier, word, name, reading, refers⟩

end Assembly
end CommandMachine
