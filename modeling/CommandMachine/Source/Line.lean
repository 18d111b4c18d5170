import CommandMachine.Source.Error
import CommandMachine.Source.Token
namespace CommandMachine

/-!
Source lines.  Blank lines and comments are passed over; every other line either
declares a name or gives one command.
-/

/-- The words of a line, with the number of the line counted from one. -/
structure SourceLine where
  number : Nat
  tokens : List String
deriving DecidableEq, Repr

inductive LineKind where
  /-- A declaration, with all that follows its keyword. -/
  | declaration (kind : SymbolKind) (rest : List String)
  /-- A command, with all its words.  It becomes one instruction. -/
  | command (tokens : List String)
deriving DecidableEq, Repr

/-- The keywords of declarations, in any mixture of upper and lower case. -/
def SymbolKind.ofKeyword? (word : String) : Option SymbolKind :=
  let keyword := Text.upper word
  if keyword == "LABEL" then some .label
  else if keyword == "FUNC" then some .function
  else if keyword == "MACRO" then some .macroBody
  else none

namespace SourceLine

/-- Whether a line, without the blanks in front, has no words to read. -/
def isSkipped : List Char → Bool
  | [] => true
  | first :: _ => first == '#'

/-- Reads a line.  There is nothing to read in a blank line or a comment. -/
def scan (number : Nat) (line : String) : Except CompileError (Option SourceLine) :=
  let text := Text.trimStart line.toList
  if isSkipped text then .ok none
  else
    match (Scanner.ofLine text).words with
    | (words, none) => .ok (some ⟨number, words.map String.ofList⟩)
    | (_, some column) => .error (.malformed number (.unterminatedText column))

/-- Reads lines whose numbers begin with `number`.  The first line that cannot be
read decides. -/
def scanFrom (number : Nat) : List String → Except CompileError (List SourceLine)
  | [] => .ok []
  | line :: rest =>
    match scan number line with
    | .error error => .error error
    | .ok none => scanFrom (number + 1) rest
    | .ok (some words) => (scanFrom (number + 1) rest).map (words :: ·)

def scanAll (lines : List String) : Except CompileError (List SourceLine) :=
  scanFrom 1 lines

/-- What the words of a line are for.  A modifier may stand in front of a
declaration, but a mnemonic in first place is never taken for a modifier. -/
def classify : List String → LineKind
  | [] => .command []
  | first :: rest =>
    match SymbolKind.ofKeyword? first with
    | some kind => .declaration kind rest
    | none =>
      if Op.isMnemonic first then .command (first :: rest)
      else
        match rest with
        | [] => .command [first]
        | second :: later =>
          match SymbolKind.ofKeyword? second with
          | some kind => .declaration kind later
          | none => .command (first :: rest)

def kind (line : SourceLine) : LineKind :=
  classify line.tokens

end SourceLine
end CommandMachine
