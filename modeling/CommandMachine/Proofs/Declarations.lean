import CommandMachine.Source.Symbols
import Mathlib.Data.List.Basic
namespace CommandMachine

/-!
# What lines declare

The first pass walks over the lines with a counter and three tables.  This module
says what lines declare without such a walk: a name is declared by exactly one
line, and its place is the number of commands in front of that line.  The tables
of the first pass are then shown to hold exactly these facts, for every prefix of
the source, so that later modules never look at the walk again.
-/

namespace SourceLine

/-- Whether a line gives a command and so takes a place in the program. -/
def isCommand (line : SourceLine) : Bool :=
  match line.kind with
  | .command _ => true
  | .declaration _ _ => false

/-- A line declares a name of a kind, whatever stands behind the name. -/
def Declares (line : SourceLine) (kind : SymbolKind) (name : String) : Prop :=
  ∃ body, line.kind = .declaration kind (name :: body)

theorem isCommand_of_command {line : SourceLine} {tokens : List String}
    (command : line.kind = .command tokens) : line.isCommand = true := by
  simp only [isCommand, command]

theorem isCommand_of_declaration {line : SourceLine} {kind : SymbolKind}
    {rest : List String} (declaration : line.kind = .declaration kind rest) :
    line.isCommand = false := by
  simp only [isCommand, declaration]

theorem not_declares_of_command {line : SourceLine} {tokens : List String}
    (command : line.kind = .command tokens) (kind : SymbolKind) (name : String) :
    ¬ line.Declares kind name := by
  rintro ⟨body, declaration⟩
  rw [command] at declaration
  cases declaration

theorem declares_iff_of_declaration {line : SourceLine} {kind : SymbolKind} {name : String}
    {body : List String} (declaration : line.kind = .declaration kind (name :: body))
    (otherKind : SymbolKind) (otherName : String) :
    line.Declares otherKind otherName ↔ otherKind = kind ∧ otherName = name := by
  constructor
  · rintro ⟨otherBody, same⟩
    rw [declaration] at same
    cases same
    exact ⟨rfl, rfl⟩
  · rintro ⟨rfl, rfl⟩
    exact ⟨body, declaration⟩

end SourceLine

/-- No line declares the name. -/
def Undeclared (lines : List SourceLine) (kind : SymbolKind) (name : String) : Prop :=
  ∀ line ∈ lines, ¬ line.Declares kind name

/-- One line declares the name, with the words `body` behind it and `place` commands in
front of the line, and no other line does. -/
def Declared (lines : List SourceLine) (kind : SymbolKind) (name : String)
    (body : List String) (place : Nat) : Prop :=
  ∃ before line after, lines = before ++ line :: after ∧
    line.kind = .declaration kind (name :: body) ∧
    before.countP SourceLine.isCommand = place ∧
    Undeclared (before ++ after) kind name

section Prefixes

variable {lines : List SourceLine} {line : SourceLine} {kind : SymbolKind} {name : String}

theorem undeclared_concat :
    Undeclared (lines ++ [line]) kind name ↔
      Undeclared lines kind name ∧ ¬ line.Declares kind name := by
  constructor
  · intro undeclared
    refine ⟨fun other member => undeclared other (List.mem_append_left _ member), ?_⟩
    exact undeclared line (List.mem_append_right _ (List.mem_singleton.mpr rfl))
  · rintro ⟨undeclared, silent⟩ other member
    rcases List.mem_append.mp member with earlier | last
    · exact undeclared other earlier
    · rw [List.mem_singleton.mp last]
      exact silent

/-- A line that does not declare the name leaves its declaration where it is. -/
theorem declared_concat_of_not_declares (silent : ¬ line.Declares kind name)
    (body : List String) (place : Nat) :
    Declared (lines ++ [line]) kind name body place ↔ Declared lines kind name body place := by
  constructor
  · rintro ⟨before, declaring, after, split, declaration, counted, others⟩
    -- The declaring line is not the last one, so the last one can be cut off.
    rcases List.eq_nil_or_concat after with rfl | ⟨rest, last, rfl⟩
    · rcases List.append_inj' split rfl with ⟨-, same⟩
      cases same
      exact absurd ⟨body, declaration⟩ silent
    · rw [List.concat_eq_append, ← List.cons_append, ← List.append_assoc] at split
      rcases List.append_inj' split rfl with ⟨shorter, -⟩
      refine ⟨before, declaring, rest, shorter, declaration, counted, ?_⟩
      rw [List.concat_eq_append, ← List.append_assoc] at others
      exact (undeclared_concat.mp others).1
  · rintro ⟨before, declaring, after, rfl, declaration, counted, others⟩
    refine ⟨before, declaring, after ++ [line], by simp, declaration, counted, ?_⟩
    rw [← List.append_assoc]
    exact undeclared_concat.mpr ⟨others, silent⟩

/-- A first declaration of a name is its only one. -/
theorem declared_concat_of_declaration {body : List String}
    (declaration : line.kind = .declaration kind (name :: body))
    (fresh : Undeclared lines kind name) (otherBody : List String) (place : Nat) :
    Declared (lines ++ [line]) kind name otherBody place ↔
      otherBody = body ∧ place = lines.countP SourceLine.isCommand := by
  constructor
  · rintro ⟨before, declaring, after, split, declared, counted, others⟩
    rcases List.eq_nil_or_concat after with rfl | ⟨rest, last, rfl⟩
    · rcases List.append_inj' split rfl with ⟨rfl, same⟩
      cases same
      rw [declaration] at declared
      cases declared
      exact ⟨rfl, counted.symm⟩
    · rw [List.concat_eq_append, ← List.cons_append, ← List.append_assoc] at split
      rcases List.append_inj' split rfl with ⟨rfl, -⟩
      exact absurd ⟨otherBody, declared⟩ (fresh declaring (by simp))
  · rintro ⟨rfl, rfl⟩
    exact ⟨lines, line, [], rfl, declaration, rfl, by simpa using fresh⟩

theorem Declared.place_le {body : List String} {place : Nat}
    (declared : Declared lines kind name body place) :
    place ≤ lines.countP SourceLine.isCommand := by
  rcases declared with ⟨before, declaring, after, rfl, -, rfl, -⟩
  rw [List.countP_append]
  exact Nat.le_add_right _ _

end Prefixes

/-! ## The tables of the first pass -/

/-- What a name stands for: a place in the program, or the words of a macro. -/
inductive Meaning where
  | place (counter : Nat)
  | words (body : List String)
deriving DecidableEq, Repr

/-- What a declaration makes its name stand for. -/
def Meaning.ofDeclaration (kind : SymbolKind) (body : List String) (place : Nat) : Meaning :=
  match kind with
  | .label => .place place
  | .function => .place place
  | .macroBody => .words body

/-- What a name stands for, by the table of its kind. -/
def Symbols.meaning? (symbols : Symbols) (kind : SymbolKind) (name : String) : Option Meaning :=
  match kind with
  | .label => (symbols.label? name).map .place
  | .function => (symbols.function? name).map .place
  | .macroBody => (symbols.macroBody? name).map .words

namespace Resolution

theorem declaredOn?_define (state : Resolution) (kind : SymbolKind) (name : String)
    (body : List String) (otherKind : SymbolKind) (otherName : String) :
    (state.define kind name body).declaredOn? otherKind otherName =
      state.declaredOn? otherKind otherName := by
  cases kind <;> rfl

theorem declaredOn?_remember (state : Resolution) (kind : SymbolKind) (name : String)
    (line : Nat) (otherKind : SymbolKind) (otherName : String) :
    (state.remember kind name line).declaredOn? otherKind otherName = none ↔
      state.declaredOn? otherKind otherName = none ∧
        ¬ (otherKind = kind ∧ otherName = name) := by
  simp only [declaredOn?, remember, List.lookup_append, Option.or_eq_none_iff]
  refine and_congr_right fun _ => ?_
  by_cases same : otherKind = kind ∧ otherName = name
  · rcases same with ⟨rfl, rfl⟩
    simp
  · have different : ((otherKind, otherName) == (kind, name)) = false := by
      simpa [Prod.ext_iff] using same
    simp [List.lookup_cons, different, same]

/-- A table gains the new name behind all it holds, and the other tables stay. -/
theorem meaning?_define (state : Resolution) (kind : SymbolKind) (name : String)
    (body : List String) (otherKind : SymbolKind) (otherName : String) :
    (state.define kind name body).symbols.meaning? otherKind otherName =
      (state.symbols.meaning? otherKind otherName).or
        (if otherKind = kind ∧ otherName = name then
          some (.ofDeclaration kind body state.counter) else none) := by
  by_cases same : otherName = name
  · subst same
    cases kind <;> cases otherKind <;>
      simp [define, Symbols.meaning?, Symbols.label?, Symbols.function?, Symbols.macroBody?,
        List.lookup_append, Meaning.ofDeclaration]
  · have different : (otherName == name) = false := by simpa using same
    cases kind <;> cases otherKind <;>
      simp [define, Symbols.meaning?, Symbols.label?, Symbols.function?, Symbols.macroBody?,
        List.lookup_append, List.lookup_cons, different, same]

/-- What one line does to the first pass, if it does not end it. -/
theorem readLine_cases {state next : Resolution} {line : SourceLine}
    (read : state.readLine line = .ok next) :
    (∃ tokens, line.kind = .command tokens ∧
        next = { state with counter := state.counter + 1 }) ∨
      ∃ kind name body, line.kind = .declaration kind (name :: body) ∧
        state.declaredOn? kind name = none ∧ bodyError? kind name body = none ∧
        next = (state.remember kind name line.number).define kind name body := by
  unfold readLine at read
  cases shape : line.kind with
  | command tokens =>
      simp only [shape, Except.ok.injEq] at read
      exact Or.inl ⟨tokens, rfl, read.symm⟩
  | declaration kind rest =>
      simp only [shape] at read
      cases rest with
      | nil => cases read
      | cons name body =>
          simp only [declare] at read
          cases seen : state.declaredOn? kind name with
          | some first => simp [seen] at read
          | none =>
              cases wrong : bodyError? kind name body with
              | some reason => simp [seen, wrong] at read
              | none =>
                  simp only [seen, wrong, Except.ok.injEq] at read
                  exact Or.inr ⟨kind, name, body, rfl, seen, wrong, read.symm⟩

/-- The first pass knows exactly what the lines it has read declare. -/
structure Reflects (state : Resolution) (lines : List SourceLine) : Prop where
  counter_eq : state.counter = lines.countP SourceLine.isCommand
  declaredOn_none : ∀ kind name,
    state.declaredOn? kind name = none ↔ Undeclared lines kind name
  meaning_none : ∀ kind name,
    state.symbols.meaning? kind name = none ↔ Undeclared lines kind name
  meaning_some : ∀ kind name meaning,
    state.symbols.meaning? kind name = some meaning ↔
      ∃ body place, Declared lines kind name body place ∧
        meaning = .ofDeclaration kind body place

theorem reflects_start : Reflects start [] where
  counter_eq := rfl
  declaredOn_none kind name := by
    simp [start, declaredOn?, Undeclared]
  meaning_none kind name := by
    cases kind <;> simp [start, Symbols.empty, Symbols.meaning?, Symbols.label?,
      Symbols.function?, Symbols.macroBody?, Undeclared]
  meaning_some kind name meaning := by
    cases kind <;> simp [start, Symbols.empty, Symbols.meaning?, Symbols.label?,
      Symbols.function?, Symbols.macroBody?, Declared]

theorem Reflects.command {state : Resolution} {lines : List SourceLine}
    (reflects : state.Reflects lines) {line : SourceLine} {tokens : List String}
    (command : line.kind = .command tokens) :
    Reflects { state with counter := state.counter + 1 } (lines ++ [line]) := by
  have silent := SourceLine.not_declares_of_command command
  have undeclared (kind : SymbolKind) (name : String) :
      Undeclared (lines ++ [line]) kind name ↔ Undeclared lines kind name := by
    rw [undeclared_concat, and_iff_left (silent kind name)]
  exact {
    counter_eq := by
      simp [reflects.counter_eq, SourceLine.isCommand_of_command command]
    declaredOn_none := fun kind name =>
      (reflects.declaredOn_none kind name).trans (undeclared kind name).symm
    meaning_none := fun kind name =>
      (reflects.meaning_none kind name).trans (undeclared kind name).symm
    meaning_some := fun kind name meaning => by
      simp only [declared_concat_of_not_declares (silent kind name)]
      exact reflects.meaning_some kind name meaning }

theorem Reflects.declaration {state : Resolution} {lines : List SourceLine}
    (reflects : state.Reflects lines) {line : SourceLine} {kind : SymbolKind} {name : String}
    {body : List String} (declaration : line.kind = .declaration kind (name :: body))
    (unseen : state.declaredOn? kind name = none) :
    Reflects ((state.remember kind name line.number).define kind name body)
      (lines ++ [line]) := by
  have declares := SourceLine.declares_iff_of_declaration declaration
  have fresh := (reflects.declaredOn_none kind name).mp unseen
  have symbols : (state.remember kind name line.number).symbols = state.symbols := rfl
  have counter : (state.remember kind name line.number).counter = state.counter := rfl
  refine ⟨?_, fun otherKind otherName => ?_, fun otherKind otherName => ?_,
    fun otherKind otherName meaning => ?_⟩
  · have kept : ((state.remember kind name line.number).define kind name body).counter =
        state.counter := by
      cases kind <;> rfl
    simp [kept, reflects.counter_eq, SourceLine.isCommand_of_declaration declaration]
  · rw [declaredOn?_define, declaredOn?_remember, undeclared_concat,
      reflects.declaredOn_none, declares]
  · rw [meaning?_define, symbols, counter, Option.or_eq_none_iff, undeclared_concat,
      reflects.meaning_none, declares]
    simp
  · rw [meaning?_define, symbols, counter]
    by_cases same : otherKind = kind ∧ otherName = name
    · rcases same with ⟨rfl, rfl⟩
      rw [(reflects.meaning_none otherKind otherName).mpr fresh, reflects.counter_eq]
      simp only [declared_concat_of_declaration declaration fresh]
      constructor
      · intro found
        refine ⟨body, _, ⟨rfl, rfl⟩, ?_⟩
        simpa using found.symm
      · rintro ⟨_, _, ⟨rfl, rfl⟩, rfl⟩
        simp
    · have silent : ¬ line.Declares otherKind otherName := by
        rw [declares]
        exact same
      simp only [declared_concat_of_not_declares silent, if_neg same, Option.or_none]
      exact reflects.meaning_some otherKind otherName meaning

theorem Reflects.readLine {state next : Resolution} {lines : List SourceLine}
    (reflects : state.Reflects lines) {line : SourceLine}
    (read : state.readLine line = .ok next) : next.Reflects (lines ++ [line]) := by
  rcases readLine_cases read with
    ⟨tokens, command, rfl⟩ | ⟨kind, name, body, declaration, unseen, -, rfl⟩
  · exact reflects.command command
  · exact reflects.declaration declaration unseen

theorem Reflects.readLines {state final : Resolution} {lines rest : List SourceLine}
    (reflects : state.Reflects lines) (read : state.readLines rest = .ok final) :
    final.Reflects (lines ++ rest) := by
  induction rest generalizing state lines with
  | nil =>
      cases read
      simpa using reflects
  | cons line later ih =>
      unfold Resolution.readLines at read
      cases first : state.readLine line with
      | error error => simp [first] at read
      | ok next =>
          simp only [first] at read
          simpa using ih (reflects.readLine first) read

end Resolution

/-! ## What the finished tables say -/

namespace Symbols

variable {lines : List SourceLine} {resolution : Resolution}

theorem resolve_reflects (resolved : resolve lines = .ok resolution) :
    resolution.Reflects lines := by
  simpa using Resolution.reflects_start.readLines resolved

theorem meaning?_eq_none (resolved : resolve lines = .ok resolution) (kind : SymbolKind)
    (name : String) :
    resolution.symbols.meaning? kind name = none ↔ Undeclared lines kind name :=
  (resolve_reflects resolved).meaning_none kind name

theorem label?_eq_some (resolved : resolve lines = .ok resolution) (name : String)
    (place : Nat) :
    resolution.symbols.label? name = some place ↔
      ∃ body, Declared lines .label name body place := by
  have found := (resolve_reflects resolved).meaning_some .label name (.place place)
  simpa [meaning?, Meaning.ofDeclaration] using found

theorem label?_eq_none (resolved : resolve lines = .ok resolution) (name : String) :
    resolution.symbols.label? name = none ↔ Undeclared lines .label name := by
  simpa [meaning?] using meaning?_eq_none resolved .label name

theorem function?_eq_some (resolved : resolve lines = .ok resolution) (name : String)
    (place : Nat) :
    resolution.symbols.function? name = some place ↔
      ∃ body, Declared lines .function name body place := by
  have found := (resolve_reflects resolved).meaning_some .function name (.place place)
  simpa [meaning?, Meaning.ofDeclaration] using found

theorem macroBody?_eq_some (resolved : resolve lines = .ok resolution) (name : String)
    (body : List String) :
    resolution.symbols.macroBody? name = some body ↔
      ∃ place, Declared lines .macroBody name body place := by
  have found := (resolve_reflects resolved).meaning_some .macroBody name (.words body)
  simpa [meaning?, Meaning.ofDeclaration, exists_comm] using found

theorem macroBody?_eq_none (resolved : resolve lines = .ok resolution) (name : String) :
    resolution.symbols.macroBody? name = none ↔ Undeclared lines .macroBody name := by
  simpa [meaning?] using meaning?_eq_none resolved .macroBody name

end Symbols
end CommandMachine
