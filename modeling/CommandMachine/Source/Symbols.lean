import CommandMachine.Source.Line
namespace CommandMachine

/-!
Symbols.  Labels and functions stand for the place of the next command, macros
for the words of their body.  Each of the three kinds has names of its own, and
no name is declared twice in one kind.
-/

/-- The names a program declares, in the order of their declarations. -/
structure Symbols where
  labels : List (String × Nat)
  functions : List (String × Nat)
  macros : List (String × List String)
deriving DecidableEq, Repr

namespace Symbols

/-- No names. -/
def empty : Symbols :=
  ⟨[], [], []⟩

def label? (symbols : Symbols) (name : String) : Option Nat :=
  symbols.labels.lookup name

def function? (symbols : Symbols) (name : String) : Option Nat :=
  symbols.functions.lookup name

def macroBody? (symbols : Symbols) (name : String) : Option (List String) :=
  symbols.macros.lookup name

/-- Whether a word is the name of a macro. -/
def isMacro (symbols : Symbols) (word : String) : Bool :=
  (symbols.macroBody? word).isSome

end Symbols

/-- The collection of symbols: what has been declared so far and on which lines, and
how many commands have gone by. -/
structure Resolution where
  symbols : Symbols
  declared : List ((SymbolKind × String) × Nat)
  counter : Nat
deriving DecidableEq, Repr

namespace Resolution

/-- Nothing has been read. -/
def start : Resolution :=
  ⟨.empty, [], 0⟩

/-- The line on which a name was declared. -/
def declaredOn? (state : Resolution) (kind : SymbolKind) (name : String) : Option Nat :=
  state.declared.lookup (kind, name)

def remember (state : Resolution) (kind : SymbolKind) (name : String) (line : Nat) :
    Resolution :=
  { state with declared := state.declared ++ [((kind, name), line)] }

/-- Adds a label or function at the present place, or a macro with its body. -/
def define (state : Resolution) (kind : SymbolKind) (name : String) (body : List String) :
    Resolution :=
  let symbols := state.symbols
  match kind with
  | .label =>
    { state with symbols := { symbols with labels := symbols.labels ++ [(name, state.counter)] } }
  | .function =>
    { state with
      symbols := { symbols with functions := symbols.functions ++ [(name, state.counter)] } }
  | .macroBody =>
    { state with symbols := { symbols with macros := symbols.macros ++ [(name, body)] } }

/-- What is wrong with the words behind the name of a declaration. -/
def bodyError? (kind : SymbolKind) (name : String) (body : List String) :
    Option Malformation :=
  match kind with
  | .macroBody => if body.isEmpty then some (.emptyMacro name) else none
  | _ => if body.isEmpty then none else some (.unexpectedTokens kind name)

/-- Reads a declaration.  A name declared before is refused before its body is
looked at. -/
def declare (state : Resolution) (line : Nat) (kind : SymbolKind) :
    List String → Except CompileError Resolution
  | [] => .error (.malformed line .missingName)
  | name :: body =>
    match state.declaredOn? kind name with
    | some first => .error (.duplicateSymbol line first kind name)
    | none =>
      match bodyError? kind name body with
      | some reason => .error (.malformed line reason)
      | none => .ok ((state.remember kind name line).define kind name body)

/-- Reads one line.  Commands move the place on, declarations do not. -/
def readLine (state : Resolution) (line : SourceLine) : Except CompileError Resolution :=
  match line.kind with
  | .command _ => .ok { state with counter := state.counter + 1 }
  | .declaration kind rest => state.declare line.number kind rest

/-- Reads lines one after the other.  The first error decides. -/
def readLines (state : Resolution) : List SourceLine → Except CompileError Resolution
  | [] => .ok state
  | line :: rest =>
    match state.readLine line with
    | .error error => .error error
    | .ok next => next.readLines rest

end Resolution

/-- The symbols that lines declare, with all that was counted on the way. -/
def Symbols.resolve (lines : List SourceLine) : Except CompileError Resolution :=
  Resolution.start.readLines lines

end CommandMachine
