import CommandMachine.Aliases
import CommandMachine.Notice
import CommandMachine.Source.Symbols
import CommandMachine.Text.Lines
namespace CommandMachine

/-!
From source lines to a program.  The symbols are collected first, then every
command line becomes one instruction: its command word is found behind an
optional modifier, a macro is replaced by its body, and the operation decides how
the remaining words are read.  Either the whole source becomes a program or the
first error is given.
-/

structure Command where
  modifier : Option String
  command : String
  arguments : List String
deriving DecidableEq, Repr

namespace Command

/-- Finds the command word.  A mnemonic or a macro in first place is the command
itself; any other word in first place is a modifier. -/
def split (line : Nat) (symbols : Symbols) : List String → Except CompileError Command
  | [] => .error (.malformed line .emptyCommand)
  | first :: rest =>
    if Op.isMnemonic first || symbols.isMacro first then .ok ⟨none, first, rest⟩
    else
      match rest with
      | [] => .error (.unknownMnemonic line first)
      | command :: arguments => .ok ⟨some first, command, arguments⟩

/-- Replaces a macro by its body.  The arguments of a macro are dropped and its
modifier is kept.  A body begins neither with a macro nor with a declaration. -/
def expand (line : Nat) (symbols : Symbols) (command : Command) :
    Except CompileError Command :=
  match symbols.macroBody? command.command with
  | none => .ok command
  | some [] => .error (.malformed line (.emptyMacro command.command))
  | some (inner :: arguments) =>
    if symbols.isMacro inner then .error (.recursiveMacro line command.command inner)
    else if (SymbolKind.ofKeyword? inner).isSome then
      .error (.malformed line (.macroDeclaration command.command))
    else .ok ⟨command.modifier, inner, arguments⟩

/-- The operation of a command.  Behind a dispatch word the modifier decides. -/
def op? (aliases : Aliases) (command : Command) : Option Op :=
  if aliases.isDispatchWord command.command then command.modifier.bind aliases.find?
  else Op.ofMnemonic? command.command

/-- The operation of a command, or the error that there is none. -/
def op (line : Nat) (aliases : Aliases) (command : Command) : Except CompileError Op :=
  match command.op? aliases with
  | some op => .ok op
  | none => .error (.unknownMnemonic line command.command)

end Command

namespace Operand

/-- Whether a word can be the name of a register: it is no literal and looks like
none. -/
def isRegisterName (word : String) : Bool :=
  (Literal.read? word).isNone && !Literal.isNumeric word.toList &&
    !(word.toList.head?.any Literal.isQuote)

def ofRegisterName (line : Nat) (word : String) : Except CompileError Operand :=
  if isRegisterName word then .ok (.register word)
  else .error (.malformed line (.notARegister word))

/-- Reads a single word as a value: a literal, or a register to copy from. -/
def ofValueWord (line : Nat) (word : String) : Except CompileError Operand :=
  match Literal.read? word with
  | some value => .ok (.literal value)
  | none =>
    if Literal.isNumeric word.toList then .error (.malformed line (.outOfRange word))
    else ofRegisterName line word

/-- Reads the words of a value: zero if there is none, and one text if there are
several. -/
def ofValueWords (line : Nat) : List String → Except CompileError Operand
  | [] => .ok (.literal (.integer 0))
  | [single] => ofValueWord line single
  | words => .ok (.literal (.text (" ".intercalate words)))

/-- The kind of symbol that an operation refers to, as errors name it. -/
def targetKind (op : Op) : SymbolKind :=
  if op = .call then .function else .label

/-- The place that a symbol stands for.  An engine starts at a label, or at a
function if there is no such label. -/
def target? (op : Op) (symbols : Symbols) (name : String) : Option Nat :=
  match op with
  | .call => symbols.function? name
  | .thread => (symbols.label? name).or (symbols.function? name)
  | _ => symbols.label? name

/-- Reads a symbol that stands for a place. -/
def ofTarget (line : Nat) (op : Op) (symbols : Symbols) (name : String) :
    Except CompileError Operand :=
  match target? op symbols name with
  | some counter => .ok (.target counter)
  | none => .error (.unresolvedSymbol line (targetKind op) name)

/-- Reads a count, which is a number of thirty-two bits. -/
def ofCount (line : Nat) (op : Op) (word : String) : Except CompileError Operand :=
  match Text.readUnsigned? UInt32.size word.toList with
  | some count => .ok (.literal (.integer (Int64.ofNat count)))
  | none => .error (.malformed line (.badCount op))

def ofArguments (line : Nat) (op : Op) (symbols : Symbols) (arguments : List String) :
    Except CompileError (List Operand) :=
  let wrong (expected : Expectation) : Except CompileError (List Operand) :=
    .error (.malformed line (.wrongOperands op expected arguments.length))
  match op.shape with
  | .bare => .ok (arguments.map .word)
  | .register =>
    match arguments with
    | [name] => (ofRegisterName line name).map fun register => [register]
    | _ => wrong .registerName
  | .assign =>
    match arguments with
    | [] => wrong .registerName
    | name :: words =>
      (ofValueWords line words).bind fun value =>
        (ofRegisterName line name).map fun register => [register, value]
  | .target =>
    match arguments with
    | [name] => (ofTarget line op symbols name).map fun target => [target]
    | _ => wrong .target
  | .count =>
    match arguments with
    | [] => .ok []
    | [single] => (ofCount line op single).map fun count => [count]
    | _ => wrong .optionalCount

end Operand

namespace Instruction

def ofTokens (aliases : Aliases) (symbols : Symbols) (line : Nat) (tokens : List String) :
    Except CompileError Instruction :=
  (Command.split line symbols tokens).bind fun command =>
    (command.expand line symbols).bind fun expanded =>
      (expanded.op line aliases).bind fun op =>
        (Operand.ofArguments line op symbols expanded.arguments).map fun operands =>
          Instruction.ofOp op operands

end Instruction

namespace Assembly

def code (aliases : Aliases) (symbols : Symbols) :
    List SourceLine → Except CompileError (List PlacedInstruction)
  | [] => .ok []
  | line :: rest =>
    match line.kind with
    | .declaration _ _ => code aliases symbols rest
    | .command tokens =>
      match Instruction.ofTokens aliases symbols line.number tokens with
      | .error error => .error error
      | .ok instruction =>
        (code aliases symbols rest).map (⟨instruction, line.number⟩ :: ·)

/-- The program that lines stand for, given the symbols. -/
def assemble (aliases : Aliases) (symbols : Symbols) (lines : List SourceLine) :
    Except CompileError Program :=
  (code aliases symbols lines).map Program.mk

def ofSourceLines (aliases : Aliases) (lines : List SourceLine) :
    Except CompileError Program :=
  (Symbols.resolve lines).bind fun resolution => assemble aliases resolution.symbols lines

/-- The program that a list of lines of text stands for. -/
def compile (aliases : Aliases) (lines : List String) : Except CompileError Program :=
  (SourceLine.scanAll lines).bind (ofSourceLines aliases)

/-- The notice that a macro was given arguments, which it does not take. -/
def expansionNotices (symbols : Symbols) (line : Nat) (tokens : List String) : List Notice :=
  match Command.split line symbols tokens with
  | .error _ => []
  | .ok command =>
    match command.expand line symbols with
    | .error _ => []
    | .ok _ =>
      if symbols.isMacro command.command && !command.arguments.isEmpty then
        [.ignoredArguments line command.command]
      else []

/-- What is told while lines are assembled, beginning with the instruction at
`counter`.  Nothing is told after an error. -/
def noticesFrom (aliases : Aliases) (symbols : Symbols) (counter : Nat) :
    List SourceLine → List Notice
  | [] => [.compiled counter]
  | line :: rest =>
    match line.kind with
    | .declaration _ _ => noticesFrom aliases symbols counter rest
    | .command tokens =>
      expansionNotices symbols line.number tokens ++
        match Instruction.ofTokens aliases symbols line.number tokens with
        | .error _ => []
        | .ok instruction =>
          .assembled line.number counter instruction ::
            noticesFrom aliases symbols (counter + 1) rest

/-- What is told while symbols are collected. -/
def resolutionNotices (lines : List SourceLine) : List Notice :=
  match Symbols.resolve lines with
  | .error _ => []
  | .ok resolution =>
    [.resolved resolution.symbols.labels.length resolution.symbols.functions.length
      resolution.symbols.macros.length resolution.counter]

/-- What is told while lines are turned into a program. -/
def sourceNotices (aliases : Aliases) (lines : List SourceLine) : List Notice :=
  match Symbols.resolve lines with
  | .error _ => []
  | .ok resolution =>
    resolutionNotices lines ++ noticesFrom aliases resolution.symbols 0 lines

/-- What is told while lines of text are turned into a program. -/
def notices (aliases : Aliases) (lines : List String) : List Notice :=
  match SourceLine.scanAll lines with
  | .error _ => []
  | .ok sourceLines => sourceNotices aliases sourceLines

end Assembly
end CommandMachine
