import CommandMachine.Proofs.Translation
namespace CommandMachine

/-!
# Macros can be written out by hand

A source with macros can be turned into one without: the declarations of macros are
deleted, and a command that is a macro is replaced by the body of the macro, with
everything behind it, while its modifier stays.  The two sources become the same
program.  This is not obvious, because the words of a line mean different things
once the names of macros are gone: a first word that was a command may become a
modifier, and a line may even become a declaration.
-/

/-! ## Writing macros out -/

namespace SourceLine

/-- The macro that a line declares, with its body, if it declares one. -/
def declaredMacros (line : SourceLine) : List (String × List String) :=
  match line.kind with
  | .declaration .macroBody (name :: body) => [(name, body)]
  | _ => []

/-- The macros that lines declare, in the order of the source. -/
def macroTable (lines : List SourceLine) : List (String × List String) :=
  lines.flatMap declaredMacros

/-- Replaces the command word of a line and all that follows it, if the word is a
macro.  The command word is the first one if that is a mnemonic or a macro, and
otherwise the second one. -/
def writeOut (table : List (String × List String)) : List String → List String
  | [] => []
  | first :: rest =>
    if Op.isMnemonic first || (table.lookup first).isSome then
      (table.lookup first).getD (first :: rest)
    else
      match rest with
      | [] => [first]
      | command :: arguments => first :: (table.lookup command).getD (command :: arguments)

/-- What is left of a line when macros are written out.  Nothing is left of their
declarations. -/
def writeOutLine (table : List (String × List String)) (line : SourceLine) : List SourceLine :=
  match line.kind with
  | .declaration .macroBody _ => []
  | .declaration _ _ => [line]
  | .command tokens => [⟨line.number, writeOut table tokens⟩]

/-- The lines with all macros written out. -/
def withoutMacros (lines : List SourceLine) : List SourceLine :=
  lines.flatMap (writeOutLine (macroTable lines))

/-- If the line gives a command, then it still does with its macro written out. -/
def Writable (line : SourceLine) (table : List (String × List String)) : Prop :=
  ∀ tokens, line.kind = .command tokens → ∃ found,
    classify (writeOut table tokens) = .command found

/-- The first word of a command line is no keyword, and neither is the second one unless
it stands behind a mnemonic. -/
theorem keyword_of_command {first : String} {rest found : List String}
    (command : classify (first :: rest) = .command found) :
    SymbolKind.ofKeyword? first = none ∧ (Op.isMnemonic first = false →
      ∀ second later, rest = second :: later → SymbolKind.ofKeyword? second = none) := by
  dsimp only [classify] at command
  cases keyword : SymbolKind.ofKeyword? first with
  | some kind => simp [keyword] at command
  | none =>
      refine ⟨rfl, ?_⟩
      rintro noMnemonic second later rfl
      cases behind : SymbolKind.ofKeyword? second with
      | some kind => simp [keyword, noMnemonic, behind] at command
      | none => rfl

theorem classify_of_mnemonic {first : String} {rest : List String}
    (keyword : SymbolKind.ofKeyword? first = none) (mnemonic : Op.isMnemonic first = true) :
    classify (first :: rest) = .command (first :: rest) := by
  simp [classify, keyword, mnemonic]

theorem classify_of_modifier {first second : String} {rest : List String}
    (keyword : SymbolKind.ofKeyword? first = none)
    (behind : SymbolKind.ofKeyword? second = none) :
    classify (first :: second :: rest) = .command (first :: second :: rest) := by
  simp [classify, keyword, behind]

end SourceLine

/-! ## One command line -/

/-- The symbols without the macros. -/
def Symbols.withoutMacros (symbols : Symbols) : Symbols :=
  { symbols with macros := [] }

namespace Command

/-- The words that give the command. -/
def words (command : Command) : List String :=
  command.modifier.toList ++ command.command :: command.arguments

/-- A command whose words are read in the same way where there are no macros. -/
structure Plain (command : Command) : Prop where
  keyword : SymbolKind.ofKeyword? command.command = none
  bare : command.modifier = none → Op.isMnemonic command.command = true
  modified : ∀ modifier, command.modifier = some modifier →
    Op.isMnemonic modifier = false ∧ SymbolKind.ofKeyword? modifier = none

theorem Plain.classify_words {command : Command} (plain : command.Plain) :
    SourceLine.classify command.words = .command command.words := by
  rcases command with ⟨modifier, word, arguments⟩
  cases modifier with
  | none => exact SourceLine.classify_of_mnemonic plain.keyword (plain.bare rfl)
  | some modifier =>
      exact SourceLine.classify_of_modifier (plain.modified modifier rfl).2 plain.keyword

theorem Plain.split_words {command : Command} (plain : command.Plain) (line : Nat)
    (symbols : Symbols) :
    Command.split line symbols.withoutMacros command.words = .ok command := by
  rcases command with ⟨modifier, word, arguments⟩
  cases modifier with
  | none =>
      have mnemonic : Op.isMnemonic word = true := plain.bare rfl
      simp [words, Command.split, mnemonic]
  | some modifier =>
      have unknown := (plain.modified modifier rfl).1
      simp [words, Command.split, unknown, Symbols.isMacro, Symbols.macroBody?,
        Symbols.withoutMacros]

variable {symbols : Symbols} {line : Nat} {tokens : List String} {command expanded : Command}

theorem split_cases (split : Command.split line symbols tokens = .ok command) :
    (∃ first rest, tokens = first :: rest ∧
        (Op.isMnemonic first || symbols.isMacro first) = true ∧ command = ⟨none, first, rest⟩) ∨
      ∃ first word arguments, tokens = first :: word :: arguments ∧
        (Op.isMnemonic first || symbols.isMacro first) = false ∧
        command = ⟨some first, word, arguments⟩ := by
  cases tokens with
  | nil => cases split
  | cons first rest =>
      dsimp only [Command.split] at split
      by_cases known : (Op.isMnemonic first || symbols.isMacro first) = true
      · rw [if_pos known] at split
        cases split
        exact Or.inl ⟨first, rest, rfl, known, rfl⟩
      · rw [if_neg known] at split
        cases rest with
        | nil => cases split
        | cons word arguments =>
            cases split
            exact Or.inr ⟨first, word, arguments, rfl, Bool.eq_false_iff.mpr known, rfl⟩

theorem expand_cases (expand : command.expand line symbols = .ok expanded) :
    (symbols.macroBody? command.command = none ∧ expanded = command) ∨
      ∃ inner arguments, symbols.macroBody? command.command = some (inner :: arguments) ∧
        SymbolKind.ofKeyword? inner = none ∧
        expanded = ⟨command.modifier, inner, arguments⟩ := by
  unfold Command.expand at expand
  cases body : symbols.macroBody? command.command with
  | none =>
      simp only [body, Except.ok.injEq] at expand
      exact Or.inl ⟨rfl, expand.symm⟩
  | some words =>
      cases words with
      | nil => simp [body] at expand
      | cons inner arguments =>
          simp only [body] at expand
          split at expand
          · cases expand
          · split at expand
            · cases expand
            · rename_i keyword
              cases expand
              exact Or.inr ⟨inner, arguments, rfl, by simpa using keyword, rfl⟩

/-- Replacing a macro by its body gives the words of the expanded command. -/
theorem getD_of_expand (expand : command.expand line symbols = .ok expanded) :
    expanded.modifier = command.modifier ∧
      (symbols.macros.lookup command.command).getD (command.command :: command.arguments) =
        expanded.command :: expanded.arguments := by
  rcases expand_cases expand with ⟨body, rfl⟩ | ⟨inner, arguments, body, -, rfl⟩
  · exact ⟨rfl, by rw [show symbols.macros.lookup _ = none from body, Option.getD_none]⟩
  · exact ⟨rfl, by rw [show symbols.macros.lookup _ = _ from body, Option.getD_some]⟩

theorem writeOut_of_expand (split : Command.split line symbols tokens = .ok command)
    (expand : command.expand line symbols = .ok expanded) :
    SourceLine.writeOut symbols.macros tokens = expanded.words := by
  rcases getD_of_expand expand with ⟨modifier, replaced⟩
  rw [words, modifier, ← replaced]
  rcases split_cases split with
    ⟨first, rest, rfl, known, rfl⟩ | ⟨first, word, arguments, rfl, unknown, rfl⟩
  · exact if_pos known
  · exact if_neg (Bool.eq_false_iff.mp unknown)

/-- Without a modifier a command that has an operation is no dispatch word, so that only a
mnemonic is left. -/
theorem isMnemonic_of_op? {aliases : Aliases} {op : Op}
    (operation : command.op? aliases = some op) (bare : command.modifier = none) :
    Op.isMnemonic command.command = true := by
  simp only [op?, bare, Option.bind_none] at operation
  split at operation
  · cases operation
  · rw [Op.isMnemonic, operation, Option.isSome_some]

/-- A command line that has an operation gives a plain command. -/
theorem plain_of_expand {aliases : Aliases} {op : Op} {found : List String}
    (given : SourceLine.classify tokens = .command found)
    (split : Command.split line symbols tokens = .ok command)
    (expand : command.expand line symbols = .ok expanded)
    (operation : expanded.op? aliases = some op) : expanded.Plain := by
  have keyword : SymbolKind.ofKeyword? expanded.command = none := by
    rcases expand_cases expand with ⟨-, rfl⟩ | ⟨inner, arguments, -, keyword, rfl⟩
    · rcases split_cases split with
        ⟨first, rest, rfl, -, rfl⟩ | ⟨first, word, arguments, rfl, unknown, rfl⟩
      · exact (SourceLine.keyword_of_command given).1
      · exact (SourceLine.keyword_of_command given).2 (Bool.or_eq_false_iff.mp unknown).1
          word arguments rfl
    · exact keyword
  refine ⟨keyword, isMnemonic_of_op? operation, fun modifier present => ?_⟩
  rw [(getD_of_expand expand).1] at present
  rcases split_cases split with
    ⟨first, rest, rfl, -, rfl⟩ | ⟨first, word, arguments, rfl, unknown, rfl⟩
  · cases present
  · cases present
    exact ⟨(Bool.or_eq_false_iff.mp unknown).1, (SourceLine.keyword_of_command given).1⟩

end Command

/-- Nothing but the command word depends on macros. -/
theorem Operand.ofArguments_withoutMacros (line : Nat) (op : Op) (symbols : Symbols)
    (arguments : List String) :
    ofArguments line op symbols.withoutMacros arguments = ofArguments line op symbols arguments :=
  rfl

namespace SourceLine

variable {aliases : Aliases} {symbols : Symbols} {line : SourceLine} {tokens : List String}
  {instruction : Instruction}

/-- A command line whose macro is written out is still a command line, and it becomes the
same instruction where there are no macros. -/
theorem writeOut_of_command (command : line.kind = .command tokens)
    (made : Instruction.ofTokens aliases symbols line.number tokens = .ok instruction) :
    classify (writeOut symbols.macros tokens) = .command (writeOut symbols.macros tokens) ∧
      Instruction.ofTokens aliases symbols.withoutMacros line.number
        (writeOut symbols.macros tokens) = .ok instruction := by
  have same := tokens_of_command command
  subst same
  rcases Instruction.ofTokens_eq_ok made with
    ⟨first, expanded, op, operands, split, expand, operation, read, rfl⟩
  have plain := Command.plain_of_expand command split expand operation
  rw [Command.writeOut_of_expand split expand]
  refine ⟨plain.classify_words, ?_⟩
  refine bind_eq_ok.mpr ⟨expanded, plain.split_words line.number symbols, ?_⟩
  refine bind_eq_ok.mpr ⟨expanded, rfl, ?_⟩
  refine bind_eq_ok.mpr ⟨op, by rw [Command.op, operation], ?_⟩
  refine map_eq_ok.mpr ⟨operands, ?_, rfl⟩
  rw [Operand.ofArguments_withoutMacros]
  exact read

end SourceLine

/-! ## The first pass -/

namespace Resolution

/-- The first pass as it stands when it has not met the macros. -/
def withoutMacros (state : Resolution) : Resolution where
  symbols := state.symbols.withoutMacros
  declared := state.declared.filter fun entry => decide (entry.1.1 ≠ .macroBody)
  counter := state.counter

theorem declaredOn?_withoutMacros (state : Resolution) {kind : SymbolKind}
    (other : kind ≠ .macroBody) (name : String) :
    state.withoutMacros.declaredOn? kind name = state.declaredOn? kind name := by
  rcases state with ⟨symbols, declared, counter⟩
  simp only [withoutMacros, declaredOn?]
  induction declared with
  | nil => rfl
  | cons entry rest ih =>
      rcases entry with ⟨⟨entryKind, entryName⟩, line⟩
      by_cases deleted : entryKind = .macroBody
      · subst deleted
        have different : ((kind, name) == (SymbolKind.macroBody, entryName)) = false := by
          simp [other]
        rw [List.filter_cons_of_neg (by simp), ih, List.lookup_cons, different]
      · rw [List.filter_cons_of_pos (by simpa using deleted), List.lookup_cons, ih,
          List.lookup_cons]

theorem withoutMacros_declare (state : Resolution) {kind : SymbolKind}
    (other : kind ≠ .macroBody) (name : String) (body : List String) (line : Nat) :
    ((state.remember kind name line).define kind name body).withoutMacros =
      (state.withoutMacros.remember kind name line).define kind name body := by
  cases kind <;>
    simp_all [withoutMacros, remember, define, Symbols.withoutMacros]

theorem withoutMacros_declare_macro (state : Resolution) (name : String) (body : List String)
    (line : Nat) :
    ((state.remember .macroBody name line).define .macroBody name body).withoutMacros =
      state.withoutMacros := by
  simp [withoutMacros, remember, define, Symbols.withoutMacros]

theorem macros_readLine {state next : Resolution} {line : SourceLine}
    (read : state.readLine line = .ok next) :
    next.symbols.macros = state.symbols.macros ++ line.declaredMacros := by
  rcases readLine_cases read with
    ⟨tokens, command, rfl⟩ | ⟨kind, name, body, declaration, -, -, rfl⟩
  · simp [SourceLine.declaredMacros, command]
  · cases kind <;> simp [SourceLine.declaredMacros, declaration, define, remember]

theorem macros_readLines {state final : Resolution} {lines : List SourceLine}
    (read : state.readLines lines = .ok final) :
    final.symbols.macros = state.symbols.macros ++ SourceLine.macroTable lines := by
  induction lines generalizing state with
  | nil =>
      cases read
      exact (List.append_nil _).symm
  | cons line rest ih =>
      unfold readLines at read
      cases first : state.readLine line with
      | error error => simp [first] at read
      | ok next =>
          simp only [first] at read
          rw [ih read, macros_readLine first, List.append_assoc]
          rfl

theorem readLines_append {state middle : Resolution} {lines : List SourceLine}
    (read : state.readLines lines = .ok middle) (rest : List SourceLine) :
    state.readLines (lines ++ rest) = middle.readLines rest := by
  induction lines generalizing state with
  | nil =>
      cases read
      rfl
  | cons line later ih =>
      unfold readLines at read
      cases first : state.readLine line with
      | error error => simp [first] at read
      | ok next =>
          simp only [first] at read
          simp only [List.cons_append, readLines, first]
          exact ih read

/-- What is left of a line does what the line did, apart from the macros. -/
theorem readLine_withoutMacros {table : List (String × List String)} {line : SourceLine}
    (writable : line.Writable table) {state next : Resolution}
    (read : state.readLine line = .ok next) :
    state.withoutMacros.readLines (line.writeOutLine table) = .ok next.withoutMacros := by
  rcases readLine_cases read with
    ⟨tokens, command, rfl⟩ | ⟨kind, name, body, declaration, unseen, fits, rfl⟩
  · rcases writable tokens command with ⟨found, written⟩
    have kind : SourceLine.kind ⟨line.number, SourceLine.writeOut table tokens⟩ =
      .command found := written
    simp only [SourceLine.writeOutLine, command, readLines, readLine, kind]
    rfl
  · by_cases deleted : kind = .macroBody
    · subst deleted
      simp only [SourceLine.writeOutLine, declaration, readLines, withoutMacros_declare_macro]
    · have left : line.writeOutLine table = [line] := by
        unfold SourceLine.writeOutLine
        rw [declaration]
        cases kind <;> trivial
      rw [left, withoutMacros_declare state deleted]
      simp only [readLines, readLine, declaration, declare,
        declaredOn?_withoutMacros state deleted, unseen, fits]

theorem readLines_withoutMacros {table : List (String × List String)}
    {lines : List SourceLine} (writable : ∀ line ∈ lines, line.Writable table)
    {state final : Resolution} (read : state.readLines lines = .ok final) :
    state.withoutMacros.readLines (lines.flatMap (SourceLine.writeOutLine table)) =
      .ok final.withoutMacros := by
  induction lines generalizing state with
  | nil =>
      cases read
      rfl
  | cons line rest ih =>
      rcases List.forall_mem_cons.mp writable with ⟨here, later⟩
      unfold readLines at read
      cases first : state.readLine line with
      | error error => simp [first] at read
      | ok next =>
          simp only [first] at read
          rw [List.flatMap_cons, readLines_append (readLine_withoutMacros here first)]
          exact ih later read

end Resolution

/-! ## The second pass -/

namespace Assembly

variable {aliases : Aliases} {symbols : Symbols} {lines : List SourceLine}

theorem writable_of_code {resolution : Resolution} {program : Program}
    (assembled : code aliases resolution.symbols lines = .ok program.code) :
    ∀ line ∈ lines, line.Writable resolution.symbols.macros := by
  intro line member tokens command
  have listed : line ∈ SourceLine.commands lines :=
    List.mem_filter.mpr ⟨member, SourceLine.isCommand_of_command command⟩
  rcases List.mem_iff_getElem?.mp listed with ⟨place, found⟩
  rcases get?_of_code assembled found with ⟨instruction, -, made⟩
  rw [← SourceLine.tokens_of_command command] at made
  exact ⟨_, (SourceLine.writeOut_of_command command made).1⟩

theorem code_withoutMacros {placed : List PlacedInstruction}
    (assembled : code aliases symbols lines = .ok placed) :
    code aliases symbols.withoutMacros (lines.flatMap (SourceLine.writeOutLine symbols.macros)) =
      .ok placed := by
  induction lines generalizing placed with
  | nil =>
      cases assembled
      rfl
  | cons line rest ih =>
      unfold code at assembled
      rw [List.flatMap_cons, SourceLine.writeOutLine]
      cases shape : line.kind with
      | declaration kind words =>
          simp only [shape] at assembled
          cases kind with
          | macroBody => exact ih assembled
          | label | function =>
              simp only [List.cons_append, List.nil_append, code, shape]
              exact ih assembled
      | command tokens =>
          simp only [shape] at assembled
          cases made : Instruction.ofTokens aliases symbols line.number tokens with
          | error error => simp [made] at assembled
          | ok instruction =>
              simp only [made] at assembled
              rcases map_eq_ok.mp assembled with ⟨later, remaining, rfl⟩
              rcases SourceLine.writeOut_of_command shape made with ⟨written, same⟩
              have kind : SourceLine.kind
                  ⟨line.number, SourceLine.writeOut symbols.macros tokens⟩ =
                    .command (SourceLine.writeOut symbols.macros tokens) := written
              simp only [List.cons_append, List.nil_append, code, kind, same]
              rw [ih remaining]
              rfl

/-- **Macros can be written out.**  Whenever lines become a program, so do the lines
with all macros written out: they declare no macros, and the program is the same,
down to the lines that its instructions come from. -/
theorem ofSourceLines_withoutMacros {program : Program}
    (assembled : ofSourceLines aliases lines = .ok program) :
    ∃ resolution, Symbols.resolve (SourceLine.withoutMacros lines) = .ok resolution ∧
      resolution.symbols.macros = [] ∧
      assemble aliases resolution.symbols (SourceLine.withoutMacros lines) = .ok program := by
  rcases bind_eq_ok.mp assembled with ⟨resolution, resolved, assembled⟩
  rcases map_eq_ok.mp assembled with ⟨placed, coded, rfl⟩
  have writable := writable_of_code (show code _ _ _ = .ok (Program.mk placed).code from coded)
  have table : SourceLine.macroTable lines = resolution.symbols.macros :=
    (Resolution.macros_readLines resolved).symm
  refine ⟨resolution.withoutMacros, ?_, rfl, ?_⟩
  · rw [SourceLine.withoutMacros, table]
    exact Resolution.readLines_withoutMacros writable resolved
  · rw [SourceLine.withoutMacros, table]
    exact map_eq_ok.mpr ⟨placed, code_withoutMacros coded, rfl⟩

/-- A macro named like a mnemonic, a body that begins with a dispatch word, a keyword
inside a body, and the name of a macro in front of a declaration. -/
def crowded : List SourceLine :=
  [⟨1, ["MACRO", "print", "WRITE", "a", "LABEL"]⟩, ⟨2, ["note", "macro", "go", "DO", "x"]⟩,
    ⟨3, ["MACRO", "here", "JUMP", "top"]⟩, ⟨4, ["here", "LABEL", "top"]⟩,
    ⟨5, ["print", "LABEL"]⟩, ⟨6, ["quick", "go", "away"]⟩, ⟨7, ["LABEL", "print"]⟩,
    ⟨8, ["perhaps", "here"]⟩, ⟨9, ["here", "and", "there"]⟩, ⟨10, ["PRINT"]⟩]

def crowdedProgram : Program where
  code := [⟨.ofOp .write [.register "a", .register "LABEL"], 5⟩,
    ⟨.ofOp .optimize [.word "x"], 6⟩, ⟨.ofOp .jump [.target 0], 8⟩,
    ⟨.ofOp .jump [.target 0], 9⟩, ⟨.ofOp .print [], 10⟩]

/-- The sample source keeps its program, and seven of its ten lines. -/
theorem crowded_withoutMacros :
    ofSourceLines .standard crowded = .ok crowdedProgram ∧
      SourceLine.withoutMacros crowded =
        [⟨4, ["here", "LABEL", "top"]⟩, ⟨5, ["WRITE", "a", "LABEL"]⟩, ⟨6, ["quick", "DO", "x"]⟩,
          ⟨7, ["LABEL", "print"]⟩, ⟨8, ["perhaps", "JUMP", "top"]⟩, ⟨9, ["JUMP", "top"]⟩,
          ⟨10, ["PRINT"]⟩] ∧
      ∃ resolution, Symbols.resolve (SourceLine.withoutMacros crowded) = .ok resolution ∧
        resolution.symbols.macros = [] ∧
        assemble .standard resolution.symbols (SourceLine.withoutMacros crowded) =
          .ok crowdedProgram := by
  have assembled : ofSourceLines .standard crowded = .ok crowdedProgram := by
    decide +kernel
  exact ⟨assembled, by decide +kernel, ofSourceLines_withoutMacros assembled⟩

end Assembly
end CommandMachine
