import CommandMachine.Proofs.Linking
namespace CommandMachine

/-!
# Lines that stand for each other

Both passes read one line after the other.  If the first pass does the same with two
lines, whatever it has read before, and the second pass makes the same of both, then
one line may be put in the place of the other, and the source keeps its program or its
error.  Two rules of the notation are of this kind.  A modifier in front of a keyword or
a plain mnemonic is a remark that may be left out, and what stands behind the name of a
macro is not looked at.

The second rule has a gap.  The first pass decides what a line is before any macro is
known.  It takes the name of a macro for a modifier if a keyword stands behind it, and
such a line is a declaration and no call.
-/

/-! ## Replacing lines -/

namespace SourceLine

/-- The first pass does the same with both lines. -/
def ReadAlike (left right : SourceLine) : Prop :=
  ∀ state : Resolution, state.readLine left = state.readLine right

/-- The second pass makes the same of both lines. -/
def MadeAlike (aliases : Aliases) (symbols : Symbols) (left right : SourceLine) : Prop :=
  Assembly.code aliases symbols [left] = Assembly.code aliases symbols [right]

section Alike

variable {aliases : Aliases} {symbols : Symbols} {number : Nat} {left right : List String}

theorem readAlike_of_declaration {kind : SymbolKind} {rest : List String}
    (first : classify left = .declaration kind rest)
    (second : classify right = .declaration kind rest) :
    ReadAlike ⟨number, left⟩ ⟨number, right⟩ := by
  intro state
  simp only [Resolution.readLine, SourceLine.kind, first, second]

theorem readAlike_of_command (first : classify left = .command left)
    (second : classify right = .command right) : ReadAlike ⟨number, left⟩ ⟨number, right⟩ := by
  intro state
  simp only [Resolution.readLine, SourceLine.kind, first, second]

theorem code_of_declaration {kind : SymbolKind} {rest : List String}
    (declaration : classify left = .declaration kind rest) :
    Assembly.code aliases symbols [⟨number, left⟩] = .ok [] := by
  simp only [Assembly.code, SourceLine.kind, declaration]

theorem code_of_command (command : classify left = .command left) :
    Assembly.code aliases symbols [⟨number, left⟩] =
      (Instruction.ofTokens aliases symbols number left).map fun instruction =>
        [⟨instruction, number⟩] := by
  simp only [Assembly.code, SourceLine.kind, command]
  cases Instruction.ofTokens aliases symbols number left <;> rfl

theorem madeAlike_of_command (first : classify left = .command left)
    (second : classify right = .command right)
    (same : Instruction.ofTokens aliases symbols number left =
      Instruction.ofTokens aliases symbols number right) :
    MadeAlike aliases symbols ⟨number, left⟩ ⟨number, right⟩ := by
  rw [MadeAlike, code_of_command first, code_of_command second, same]

end Alike
end SourceLine

theorem Resolution.readLines_congr {lines others : List SourceLine}
    (alike : List.Forall₂ SourceLine.ReadAlike lines others) (state : Resolution) :
    state.readLines lines = state.readLines others := by
  induction alike generalizing state with
  | nil => rfl
  | cons head _ ih =>
      unfold readLines
      rw [head state]
      split
      · rfl
      · exact ih _

namespace Assembly

variable {aliases : Aliases} {symbols : Symbols}

theorem code_congr {lines others : List SourceLine}
    (alike : List.Forall₂ (SourceLine.MadeAlike aliases symbols) lines others) :
    code aliases symbols lines = code aliases symbols others := by
  induction alike with
  | nil => rfl
  | @cons line other lines others head _ ih =>
      change code aliases symbols ([line] ++ lines) = code aliases symbols ([other] ++ others)
      rw [code_append_eq, code_append_eq, head, ih]

/-- Lines may be replaced by lines that are read alike and made alike.  The symbols under
which they are made alike are those of the whole source. -/
theorem ofSourceLines_congr {lines others : List SourceLine}
    (read : List.Forall₂ SourceLine.ReadAlike lines others)
    (made : ∀ resolution, Symbols.resolve lines = .ok resolution →
      List.Forall₂ (SourceLine.MadeAlike aliases resolution.symbols) lines others) :
    ofSourceLines aliases lines = ofSourceLines aliases others := by
  have resolved : Symbols.resolve lines = Symbols.resolve others :=
    Resolution.readLines_congr read Resolution.start
  unfold ofSourceLines
  rw [← resolved]
  cases found : Symbols.resolve lines with
  | error error => rfl
  | ok resolution =>
      change assemble aliases resolution.symbols lines = assemble aliases resolution.symbols others
      rw [assemble, assemble, code_congr (made resolution found)]

/-- One line between others may be replaced. -/
theorem ofSourceLines_replace {before after : List SourceLine} {line other : SourceLine}
    (read : line.ReadAlike other)
    (made : ∀ resolution, Symbols.resolve (before ++ line :: after) = .ok resolution →
      line.MadeAlike aliases resolution.symbols other) :
    ofSourceLines aliases (before ++ line :: after) =
      ofSourceLines aliases (before ++ other :: after) := by
  apply ofSourceLines_congr
  · refine List.rel_append ?_ (.cons read ?_)
    · exact List.forall₂_same.mpr fun _ _ _ => rfl
    · exact List.forall₂_same.mpr fun _ _ _ => rfl
  · intro resolution resolved
    refine List.rel_append ?_ (.cons (made resolution resolved) ?_)
    · exact List.forall₂_same.mpr fun _ _ => rfl
    · exact List.forall₂_same.mpr fun _ _ => rfl

end Assembly

/-! ## Modifiers that are remarks -/

/-- A modifier in front of a word changes nothing: it is no command and no keyword, and
behind it stands a keyword or a mnemonic that neither dispatches nor names a macro. -/
structure Remark (aliases : Aliases) (lines : List SourceLine) (modifier word : String) : Prop where
  mnemonic : Op.isMnemonic modifier = false
  keyword : SymbolKind.ofKeyword? modifier = none
  undeclared : Undeclared lines .macroBody modifier
  before : (SymbolKind.ofKeyword? word).isSome = true ∨
    Op.isMnemonic word = true ∧ aliases.isDispatchWord word = false ∧
      Undeclared lines .macroBody word

/-- A line of the source is kept, or a remark in front of it is deleted. -/
inductive Shortened (aliases : Aliases) (lines : List SourceLine) :
    SourceLine → SourceLine → Prop where
  | kept (line : SourceLine) : Shortened aliases lines line line
  | cut {number : Nat} {modifier word : String} {rest : List String}
      (remark : Remark aliases lines modifier word) :
      Shortened aliases lines ⟨number, modifier :: word :: rest⟩ ⟨number, word :: rest⟩

section Remarks

variable {aliases : Aliases} {lines : List SourceLine} {modifier word : String}

/-- Without a remark a line is still the same declaration, or still a command. -/
theorem Remark.classify_cases (remark : Remark aliases lines modifier word) (rest : List String) :
    (∃ kind, SourceLine.classify (modifier :: word :: rest) = .declaration kind rest ∧
        SourceLine.classify (word :: rest) = .declaration kind rest) ∨
      Op.isMnemonic word = true ∧ aliases.isDispatchWord word = false ∧
        Undeclared lines .macroBody word ∧
        SourceLine.classify (modifier :: word :: rest) = .command (modifier :: word :: rest) ∧
        SourceLine.classify (word :: rest) = .command (word :: rest) := by
  cases keyword : SymbolKind.ofKeyword? word with
  | some kind =>
      refine Or.inl ⟨kind, ?_, ?_⟩
      · simp [SourceLine.classify, remark.keyword, remark.mnemonic, keyword]
      · simp [SourceLine.classify, keyword]
  | none =>
      rcases remark.before with declares | ⟨mnemonic, plain, undeclared⟩
      · rw [keyword] at declares
        cases declares
      · exact Or.inr ⟨mnemonic, plain, undeclared,
          SourceLine.classify_of_modifier remark.keyword keyword,
          SourceLine.classify_of_mnemonic keyword mnemonic⟩

/-- A mnemonic that is neither a macro nor a dispatch word gives the same instruction, or the
same error, with a modifier and without. -/
theorem Instruction.ofTokens_of_modifier {symbols : Symbols}
    (unknown : (Op.isMnemonic modifier || symbols.isMacro modifier) = false)
    (mnemonic : Op.isMnemonic word = true) (plain : aliases.isDispatchWord word = false)
    (ordinary : symbols.macroBody? word = none) (line : Nat) (rest : List String) :
    ofTokens aliases symbols line (modifier :: word :: rest) =
      ofTokens aliases symbols line (word :: rest) := by
  have modified : Command.split line symbols (modifier :: word :: rest) =
      .ok ⟨some modifier, word, rest⟩ := by
    simp [Command.split, unknown]
  have bare : Command.split line symbols (word :: rest) = .ok ⟨none, word, rest⟩ := by
    simp [Command.split, mnemonic]
  have expand (modifier : Option String) :
      Command.expand line symbols ⟨modifier, word, rest⟩ = .ok ⟨modifier, word, rest⟩ := by
    simp [Command.expand, ordinary]
  have op (modifier : Option String) :
      Command.op line aliases ⟨modifier, word, rest⟩ = Command.op line aliases ⟨none, word, rest⟩ := by
    simp [Command.op, Command.op?, plain]
  simp only [ofTokens, modified, bare, Except.bind, expand, op (some modifier)]

theorem Shortened.readAlike {line short : SourceLine}
    (shortened : Shortened aliases lines line short) : line.ReadAlike short := by
  cases shortened with
  | kept => exact fun _ => rfl
  | @cut number modifier word rest remark =>
      rcases remark.classify_cases rest with ⟨kind, long, short⟩ | ⟨-, -, -, long, short⟩
      · exact SourceLine.readAlike_of_declaration long short
      · exact SourceLine.readAlike_of_command long short

theorem Shortened.madeAlike {resolution : Resolution}
    (resolved : Symbols.resolve lines = .ok resolution) {line short : SourceLine}
    (shortened : Shortened aliases lines line short) :
    line.MadeAlike aliases resolution.symbols short := by
  cases shortened with
  | kept => rfl
  | @cut number modifier word rest remark =>
      rcases remark.classify_cases rest with
        ⟨kind, long, short⟩ | ⟨mnemonic, plain, ordinary, long, short⟩
      · rw [SourceLine.MadeAlike, SourceLine.code_of_declaration long,
          SourceLine.code_of_declaration short]
      · have unknown : (Op.isMnemonic modifier || resolution.symbols.isMacro modifier) = false := by
          rw [Bool.or_eq_false_iff, ← Bool.not_eq_true (resolution.symbols.isMacro modifier),
            Command.isMacro_iff resolved, not_not]
          exact ⟨remark.mnemonic, remark.undeclared⟩
        exact SourceLine.madeAlike_of_command long short
          (Instruction.ofTokens_of_modifier unknown mnemonic plain
            ((Symbols.macroBody?_eq_none resolved word).mpr ordinary) number rest)

/-- **Modifiers are remarks unless they dispatch.**  From any lines of a source, the
modifiers in front of keywords and plain mnemonics may be deleted.  The program stays the
same, down to the lines of its instructions, and so does the error if there is one. -/
theorem Assembly.ofSourceLines_shortened {short : List SourceLine}
    (shortened : List.Forall₂ (Shortened aliases lines) lines short) :
    ofSourceLines aliases short = ofSourceLines aliases lines := by
  symm
  apply ofSourceLines_congr
  · exact shortened.imp fun _ _ => Shortened.readAlike
  · intro resolution resolved
    exact shortened.imp fun _ _ => Shortened.madeAlike resolved

end Remarks

instance (line : SourceLine) (kind : SymbolKind) (name : String) :
    Decidable (line.Declares kind name) :=
  decidable_of_iff (line.declaration? = some (kind, name)) SourceLine.declaration?_eq_some

instance (lines : List SourceLine) (kind : SymbolKind) (name : String) :
    Decidable (Undeclared lines kind name) :=
  inferInstanceAs (Decidable (∀ line ∈ lines, ¬ line.Declares kind name))

instance (aliases : Aliases) (lines : List SourceLine) (modifier word : String) :
    Decidable (Remark aliases lines modifier word) :=
  decidable_of_iff (Op.isMnemonic modifier = false ∧ SymbolKind.ofKeyword? modifier = none ∧
      Undeclared lines .macroBody modifier ∧ ((SymbolKind.ofKeyword? word).isSome = true ∨
        Op.isMnemonic word = true ∧ aliases.isDispatchWord word = false ∧
          Undeclared lines .macroBody word))
    ⟨fun parts => ⟨parts.1, parts.2.1, parts.2.2.1, parts.2.2.2⟩,
      fun remark => ⟨remark.mnemonic, remark.keyword, remark.undeclared, remark.before⟩⟩

namespace Assembly

/-- Modifiers in front of declarations, of plain commands, of a macro and of a dispatch
word. -/
def annotated : List SourceLine :=
  [⟨1, ["note", "macro", "go", "DO", "x"]⟩, ⟨2, ["perhaps", "LABEL", "top"]⟩,
    ⟨4, ["quick", "write", "a", "1"]⟩, ⟨5, ["quick", "go"]⟩, ⟨6, ["soft", "RUN"]⟩,
    ⟨9, ["soft", "JUMP", "top"]⟩]

def annotatedProgram : Program where
  code := [⟨.ofOp .write [.register "a", .literal (.integer 1)], 4⟩,
    ⟨.ofOp .optimize [.word "x"], 5⟩, ⟨.ofOp .sift [], 6⟩, ⟨.ofOp .jump [.target 0], 9⟩]

/-- Of its six modifiers the sample source can spare four. -/
theorem annotated_shortened :
    Remark .standard annotated "quick" "write" ∧ ¬ Remark .standard annotated "quick" "go" ∧
      ofSourceLines .standard annotated = .ok annotatedProgram ∧
      ofSourceLines .standard
        [⟨1, ["macro", "go", "DO", "x"]⟩, ⟨2, ["LABEL", "top"]⟩, ⟨4, ["write", "a", "1"]⟩,
          ⟨5, ["quick", "go"]⟩, ⟨6, ["soft", "RUN"]⟩, ⟨9, ["JUMP", "top"]⟩] =
        .ok annotatedProgram := by
  have assembled : ofSourceLines .standard annotated = .ok annotatedProgram := by decide +kernel
  refine ⟨by decide +kernel, by decide +kernel, assembled, ?_⟩
  rw [← assembled]
  apply ofSourceLines_shortened
  refine .cons (.cut ?_) (.cons (.cut ?_) (.cons (.cut ?_) (.cons (.kept _) (.cons (.kept _)
    (.cons (.cut ?_) .nil)))))
  all_goals decide +kernel

end Assembly

/-! ## Calls of macros -/

namespace SourceLine

/-- The name of a macro, no mnemonic itself, is taken for the modifier of a declaration
because a keyword stands behind it. -/
def TakenForModifier (name : String) (arguments : List String) : Prop :=
  Op.isMnemonic name = false ∧
    ∃ word rest, arguments = word :: rest ∧ (SymbolKind.ofKeyword? word).isSome = true

theorem classify_of_takenForModifier {name : String} {arguments : List String}
    (keyword : SymbolKind.ofKeyword? name = none) (taken : TakenForModifier name arguments) :
    ∃ kind rest, classify (name :: arguments) = .declaration kind rest := by
  rcases taken with ⟨mnemonic, word, rest, rfl, second⟩
  rcases Option.isSome_iff_exists.mp second with ⟨kind, found⟩
  exact ⟨kind, rest, by simp [classify, keyword, mnemonic, found]⟩

theorem classify_of_not_takenForModifier {name : String} {arguments : List String}
    (keyword : SymbolKind.ofKeyword? name = none) (free : ¬ TakenForModifier name arguments) :
    classify (name :: arguments) = .command (name :: arguments) := by
  by_cases mnemonic : Op.isMnemonic name = true
  · exact classify_of_mnemonic keyword mnemonic
  · cases arguments with
    | nil => simp [classify, keyword, mnemonic]
    | cons word rest =>
        apply classify_of_modifier keyword
        by_contra second
        refine free ⟨Bool.eq_false_iff.mpr mnemonic, word, rest, rfl, ?_⟩
        rw [Option.isSome_iff_ne_none]
        exact second

end SourceLine

/-- A macro that is replaced by its body, where the body does not begin with a macro. -/
theorem Command.expand_of_macro {symbols : Symbols} {line : Nat} {modifier : Option String}
    {name : String} {arguments body : List String} {expanded : Command}
    (declared : symbols.macroBody? name = some body)
    (expand : Command.expand line symbols ⟨modifier, name, arguments⟩ = .ok expanded) :
    ∃ inner rest, body = inner :: rest ∧ symbols.macroBody? inner = none ∧
      SymbolKind.ofKeyword? inner = none ∧ expanded = ⟨modifier, inner, rest⟩ := by
  simp only [Command.expand, declared] at expand
  cases body with
  | nil => cases expand
  | cons inner rest =>
      dsimp only at expand
      split at expand
      · cases expand
      · rename_i ordinary
        split at expand
        · cases expand
        · rename_i keyword
          cases expand
          exact ⟨inner, rest, rfl, by simpa [Symbols.isMacro] using ordinary,
            by simpa using keyword, rfl⟩

namespace Instruction

variable {aliases : Aliases} {symbols : Symbols} {name : String} {body : List String}

/-- What is made of a call depends on the macro only, and not on what stands behind its
name. -/
theorem ofTokens_of_macro (declared : symbols.macroBody? name = some body) (line : Nat)
    (arguments others : List String) :
    ofTokens aliases symbols line (name :: arguments) =
      ofTokens aliases symbols line (name :: others) := by
  have split (words : List String) :
      Command.split line symbols (name :: words) = .ok ⟨none, name, words⟩ := by
    simp [Command.split, Symbols.isMacro, declared]
  have expand : Command.expand line symbols ⟨none, name, arguments⟩ =
      Command.expand line symbols ⟨none, name, others⟩ := by
    simp only [Command.expand, declared]
    cases body <;> rfl
  simp only [ofTokens, split, Except.bind, expand]

/-- A call that becomes an instruction becomes what is made of the body of the macro on a
line of its own. -/
theorem ofTokens_body (declared : symbols.macroBody? name = some body) {line : Nat}
    {arguments : List String} {instruction : Instruction}
    (made : ofTokens aliases symbols line (name :: arguments) = .ok instruction) :
    SourceLine.classify body = .command body ∧
      ofTokens aliases symbols line body = .ok instruction := by
  rcases ofTokens_eq_ok made with
    ⟨command, expanded, op, operands, split, expand, operation, read, rfl⟩
  have call : command = ⟨none, name, arguments⟩ := by
    simpa [Command.split, Symbols.isMacro, declared, eq_comm] using split
  subst call
  rcases Command.expand_of_macro declared expand with ⟨inner, rest, rfl, ordinary, keyword, rfl⟩
  have mnemonic := Command.isMnemonic_of_op? operation rfl
  have bare : Command.split line symbols (inner :: rest) = .ok ⟨none, inner, rest⟩ := by
    simp [Command.split, mnemonic]
  have plain : Command.expand line symbols ⟨none, inner, rest⟩ = .ok ⟨none, inner, rest⟩ := by
    simp [Command.expand, ordinary]
  refine ⟨SourceLine.classify_of_mnemonic keyword mnemonic, ?_⟩
  simp only [ofTokens, split, expand, Except.bind] at made
  simp only [ofTokens, bare, plain, Except.bind]
  exact made

end Instruction

namespace Assembly

/-- What a line between others contributes to a program: the instructions `own`, which stand
between those of the lines before it and those of the lines behind it. -/
structure Contributes (aliases : Aliases) (symbols : Symbols) (program : Program)
    (before : List SourceLine) (line : SourceLine) (after : List SourceLine)
    (own : List PlacedInstruction) : Prop where
  of_line : code aliases symbols [line] = .ok own
  between : ∃ front back, code aliases symbols before = .ok front ∧
    code aliases symbols after = .ok back ∧ program.code = front ++ own ++ back

theorem contributes_of_code {aliases : Aliases} {symbols : Symbols} {program : Program}
    {before after : List SourceLine} {line : SourceLine}
    (assembled : code aliases symbols (before ++ line :: after) = .ok program.code) :
    ∃ own, Contributes aliases symbols program before line after own := by
  rw [← List.singleton_append, code_append_eq] at assembled
  rcases bind_eq_ok.mp assembled with ⟨front, codedFront, assembled⟩
  rw [code_append_eq] at assembled
  rcases map_eq_ok.mp assembled with ⟨later, codedLater, whole⟩
  rcases bind_eq_ok.mp codedLater with ⟨own, codedOwn, codedLater⟩
  rcases map_eq_ok.mp codedLater with ⟨back, codedBack, rfl⟩
  refine ⟨own, codedOwn, front, back, codedFront, codedBack, ?_⟩
  rw [← whole, List.append_assoc]

/-- What comes of a line that begins with the name of a macro. -/
inductive Addressed (aliases : Aliases) (symbols : Symbols) (program : Program)
    (before : List SourceLine) (number : Nat) (name : String) (arguments : List String)
    (after : List SourceLine) (body : List String) : Prop where
  /-- The line is a call.  It becomes the one instruction that the body becomes on a line of
  its own, and any other words behind the name would do as well. -/
  | called {instruction : Instruction}
      (free : ¬ SourceLine.TakenForModifier name arguments)
      (contributes : Contributes aliases symbols program before ⟨number, name :: arguments⟩ after
        [⟨instruction, number⟩])
      (made : code aliases symbols [⟨number, body⟩] = .ok [⟨instruction, number⟩])
      (ignored : ∀ others, ¬ SourceLine.TakenForModifier name others →
        ofSourceLines aliases (before ++ ⟨number, name :: others⟩ :: after) = .ok program)
  /-- The line is a declaration and becomes nothing. -/
  | taken (taken : SourceLine.TakenForModifier name arguments)
      (contributes : Contributes aliases symbols program before ⟨number, name :: arguments⟩ after [])

theorem addressed_of_code {aliases : Aliases} {resolution : Resolution} {program : Program}
    {before after : List SourceLine} {number : Nat} {name : String} {arguments body : List String}
    (resolved : Symbols.resolve (before ++ ⟨number, name :: arguments⟩ :: after) = .ok resolution)
    (assembled : code aliases resolution.symbols
      (before ++ ⟨number, name :: arguments⟩ :: after) = .ok program.code)
    (declared : resolution.symbols.macroBody? name = some body)
    (keyword : SymbolKind.ofKeyword? name = none) :
    Addressed aliases resolution.symbols program before number name arguments after body := by
  rcases contributes_of_code assembled with ⟨own, contributes⟩
  have ownCode := contributes.of_line
  by_cases taken : SourceLine.TakenForModifier name arguments
  · rcases SourceLine.classify_of_takenForModifier keyword taken with ⟨kind, rest, declaration⟩
    rw [SourceLine.code_of_declaration declaration] at ownCode
    cases ownCode
    exact .taken taken contributes
  · have command := SourceLine.classify_of_not_takenForModifier keyword taken
    rw [SourceLine.code_of_command command] at ownCode
    rcases map_eq_ok.mp ownCode with ⟨instruction, made, rfl⟩
    rcases Instruction.ofTokens_body declared made with ⟨bodyCommand, bodyMade⟩
    refine .called taken contributes ?_ ?_
    · rw [SourceLine.code_of_command bodyCommand, bodyMade]
      rfl
    · intro others free
      have otherCommand := SourceLine.classify_of_not_takenForModifier keyword free
      rw [← ofSourceLines_replace (SourceLine.readAlike_of_command command otherCommand)]
      · exact bind_eq_ok.mpr ⟨resolution, resolved, map_eq_ok.mpr ⟨_, assembled, rfl⟩⟩
      · intro found same
        rw [resolved] at same
        cases same
        exact SourceLine.madeAlike_of_command command otherCommand
          (Instruction.ofTokens_of_macro declared number arguments others)

/-- **The name of a macro in first place is the command**, unless it is taken for a modifier.
In a source that compiles, each line that begins with the name of a macro, which is no
keyword, becomes exactly the one instruction that the body of the macro becomes, and the
words behind the name do not matter.  The exception is a name that is no mnemonic with a
keyword behind it: that line is a declaration and becomes no instruction. -/
theorem compile_addresses_macros {aliases : Aliases} {lines : List String} {program : Program}
    (compiled : compile aliases lines = .ok program) :
    ∃ sourceLines resolution, SourceLine.scanAll lines = .ok sourceLines ∧
      Symbols.resolve sourceLines = .ok resolution ∧
      ∀ before number name arguments after,
        sourceLines = before ++ ⟨number, name :: arguments⟩ :: after →
        ¬ Undeclared sourceLines .macroBody name → SymbolKind.ofKeyword? name = none →
        ∃ body place, Declared sourceLines .macroBody name body place ∧
          Addressed aliases resolution.symbols program before number name arguments after body := by
  rcases compile_eq_ok compiled with ⟨sourceLines, resolution, scanned, resolved, assembled⟩
  refine ⟨sourceLines, resolution, scanned, resolved, ?_⟩
  rintro before number name arguments after rfl known keyword
  cases found : resolution.symbols.macroBody? name with
  | none => exact absurd ((Symbols.macroBody?_eq_none resolved name).mp found) known
  | some body =>
      rcases (Symbols.macroBody?_eq_some resolved name body).mp found with ⟨place, declared⟩
      exact ⟨body, place, declared, addressed_of_code resolved assembled found keyword⟩

/-- A macro named like a mnemonic and another one that is not.  Both are called with a
keyword behind the name, the latter also without. -/
def errands : List String :=
  ["MACRO print WRITE a 1", "MACRO go JUMP top", "print label x", "go label top", "go now 5",
    "END"]

def errandsProgram : Program where
  code := [⟨.ofOp .write [.register "a", .literal (.integer 1)], 3⟩,
    ⟨.ofOp .jump [.target 1], 5⟩, ⟨.ofOp .halt [], 6⟩]

def errandsLines : List SourceLine :=
  [⟨1, ["MACRO", "print", "WRITE", "a", "1"]⟩, ⟨2, ["MACRO", "go", "JUMP", "top"]⟩,
    ⟨3, ["print", "label", "x"]⟩, ⟨4, ["go", "label", "top"]⟩, ⟨5, ["go", "now", "5"]⟩,
    ⟨6, ["END"]⟩]

/-- The third and the fifth line of the sample source are calls. -/
theorem errands_addressed :
    compile .standard errands = .ok errandsProgram ∧
      ∃ resolution, Symbols.resolve errandsLines = .ok resolution ∧
        (¬ SourceLine.TakenForModifier "print" ["label", "x"] ∧
          ∃ body, Addressed .standard resolution.symbols errandsProgram (errandsLines.take 2) 3
            "print" ["label", "x"] (errandsLines.drop 3) body) ∧
        ¬ SourceLine.TakenForModifier "go" ["now", "5"] ∧
          ∃ body, Addressed .standard resolution.symbols errandsProgram (errandsLines.take 4) 5
            "go" ["now", "5"] (errandsLines.drop 5) body := by
  have compiled : compile .standard errands = .ok errandsProgram := by decide +kernel
  have scanned : SourceLine.scanAll errands = .ok errandsLines := by decide +kernel
  rcases compile_addresses_macros compiled with ⟨sourceLines, resolution, found, resolved, each⟩
  rw [scanned] at found
  cases found
  rcases each (errandsLines.take 2) 3 "print" ["label", "x"] (errandsLines.drop 3) rfl
    (by decide +kernel) (by decide +kernel) with ⟨printBody, -, -, printed⟩
  rcases each (errandsLines.take 4) 5 "go" ["now", "5"] (errandsLines.drop 5) rfl
    (by decide +kernel) (by decide +kernel) with ⟨goBody, -, -, gone⟩
  refine ⟨compiled, resolution, resolved, ⟨?_, printBody, printed⟩, ?_, goBody, gone⟩
  · rintro ⟨mnemonic, -⟩
    exact absurd mnemonic (by decide +kernel)
  · rintro ⟨-, word, rest, same, keyword⟩
    cases same
    exact absurd keyword (by decide +kernel)

/-- The second line begins with the name of a macro, but it declares a label. -/
def unheard : List String :=
  ["MACRO go PRINT", "go LABEL x"]

/-- So the macro is not called, and no instruction comes of the line. -/
theorem unheard_not_called :
    compile .standard unheard = .ok ⟨[]⟩ ∧
      ∃ sourceLines resolution before line, SourceLine.scanAll unheard = .ok sourceLines ∧
        Symbols.resolve sourceLines = .ok resolution ∧ sourceLines = before ++ line :: [] ∧
        line = ⟨2, ["go", "LABEL", "x"]⟩ ∧ ¬ Undeclared sourceLines .macroBody "go" ∧
        SymbolKind.ofKeyword? "go" = none ∧
        ¬ ∃ instruction, Contributes .standard resolution.symbols ⟨[]⟩ before line []
          [⟨instruction, line.number⟩] := by
  have compiled : compile .standard unheard = .ok ⟨[]⟩ := by decide +kernel
  have scanned : SourceLine.scanAll unheard =
      .ok [⟨1, ["MACRO", "go", "PRINT"]⟩, ⟨2, ["go", "LABEL", "x"]⟩] := by
    decide +kernel
  rcases compile_eq_ok compiled with ⟨sourceLines, resolution, found, resolved, -⟩
  rw [scanned] at found
  cases found
  refine ⟨compiled, _, resolution, [⟨1, ["MACRO", "go", "PRINT"]⟩], ⟨2, ["go", "LABEL", "x"]⟩,
    scanned, resolved, rfl, rfl, by decide +kernel, by decide +kernel, ?_⟩
  rintro ⟨instruction, contributes⟩
  rcases contributes.between with ⟨front, back, -, -, whole⟩
  simp at whole

end Assembly
end CommandMachine
