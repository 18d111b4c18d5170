import CommandMachine.Opcode
namespace CommandMachine

/-!
Why source text is not a program.  Every error names the line it was found on,
counted from one.
-/

/-- The three kinds of names a program can declare. -/
inductive SymbolKind where
  | label
  | function
  | macroBody
deriving DecidableEq, Repr

/-- The word for a kind of names. -/
def SymbolKind.name : SymbolKind → String
  | .label => "label"
  | .function => "function"
  | .macroBody => "macro"

/-- The operands that an operation asks for. -/
inductive Expectation where
  | registerName
  | target
  | optionalCount
deriving DecidableEq, Repr

def Expectation.name : Expectation → String
  | .registerName => "a register name"
  | .target => "a target"
  | .optionalCount => "at most one count"

/-- Ways in which a line can be badly formed. -/
inductive Malformation where
  | unterminatedText (column : Nat)
  | missingName
  | unexpectedTokens (kind : SymbolKind) (name : String)
  | emptyMacro (name : String)
  | emptyCommand
  | macroDeclaration (name : String)
  | wrongOperands (op : Op) (expected : Expectation) (found : Nat)
  | badCount (op : Op)
  | outOfRange (word : String)
  | notARegister (word : String)
deriving DecidableEq, Repr

def Malformation.message : Malformation → String
  | .unterminatedText column => "unterminated text starting at column " ++ toString column
  | .missingName => "declaration without a name"
  | .unexpectedTokens kind name =>
    "unexpected tokens after " ++ kind.name ++ " '" ++ name ++ "'"
  | .emptyMacro name => "macro '" ++ name ++ "' has an empty body"
  | .emptyCommand => "empty command"
  | .macroDeclaration name => "macro '" ++ name ++ "' expands to a declaration"
  | .wrongOperands op expected found =>
    op.mnemonic ++ " expects " ++ expected.name ++ ", got " ++ toString found ++ " operand(s)"
  | .badCount op => op.mnemonic ++ " count must be a non-negative integer"
  | .outOfRange word => "numeric literal '" ++ word ++ "' is out of range"
  | .notARegister word => "expected a register name, found '" ++ word ++ "'"

/-- Why source text is not a program. -/
inductive CompileError where
  | unknownMnemonic (line : Nat) (command : String)
  | unresolvedSymbol (line : Nat) (kind : SymbolKind) (name : String)
  | duplicateSymbol (line first : Nat) (kind : SymbolKind) (name : String)
  | recursiveMacro (line : Nat) (name inner : String)
  | malformed (line : Nat) (reason : Malformation)
deriving DecidableEq, Repr

namespace CompileError

/-- The line on which the error was found. -/
def line : CompileError → Nat
  | .unknownMnemonic line _ => line
  | .unresolvedSymbol line _ _ => line
  | .duplicateSymbol line _ _ _ => line
  | .recursiveMacro line _ _ => line
  | .malformed line _ => line

/-- What is wrong, apart from the line. -/
def reason : CompileError → String
  | .unknownMnemonic _ command => "unknown mnemonic '" ++ command ++ "'"
  | .unresolvedSymbol _ kind name => "unresolved " ++ kind.name ++ " '" ++ name ++ "'"
  | .duplicateSymbol _ first kind name =>
    "duplicate " ++ kind.name ++ " '" ++ name ++ "', first declared on line " ++ toString first
  | .recursiveMacro _ name inner =>
    "macro '" ++ name ++ "' expands to macro '" ++ inner ++ "'"
  | .malformed _ reason => reason.message

def message (error : CompileError) : String :=
  "line " ++ toString error.line ++ ": " ++ error.reason

end CompileError
end CommandMachine
