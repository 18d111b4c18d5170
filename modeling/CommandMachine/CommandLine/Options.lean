import CommandMachine.Decimal.Reader
import CommandMachine.Settings
namespace CommandMachine
namespace CommandLine

/-!
Arguments of the command line.  Options stand anywhere among the file names; each
may be given once.  The value of an option is the next argument, unless that
begins with a dash, or stands behind an equals sign.  After two dashes everything
is a file name.
-/

/-- Options without a value. -/
inductive Switch where
  | dumpBytecode
  | sharedThreads
deriving DecidableEq, Repr

inductive Parameter where
  | stackSize
  | returnStackSize
  | pageSize
  | pingProbability
  | pingRetries
  | pauseMs
  | seed
  | maxSteps
deriving DecidableEq, Repr

structure Options where
  files : List String := []
  dumpBytecode : Bool := false
  sharedThreads : Bool := false
  stackSize : Option Nat := none
  returnStackSize : Option Nat := none
  pageSize : Option Nat := none
  pingProbability : Option Float := none
  pingRetries : Option Nat := none
  pauseMs : Option Nat := none
  seed : Option Nat := none
  maxSteps : Option Nat := none

inductive Invocation where
  /-- Run files. -/
  | run (options : Options)
  /-- Print the version. -/
  | version
  /-- Print how to use the program. -/
  | help
  /-- The arguments make no sense. -/
  | invalid

def Switch.ofName? (name : String) : Option Switch :=
  match name with
  | "dump-bytecode" => some .dumpBytecode
  | "shared-threads" => some .sharedThreads
  | _ => none

def Parameter.ofName? (name : String) : Option Parameter :=
  match name with
  | "stack-size" => some .stackSize
  | "return-stack-size" => some .returnStackSize
  | "page-size" => some .pageSize
  | "ping-probability" => some .pingProbability
  | "ping-retries" => some .pingRetries
  | "pause-ms" => some .pauseMs
  | "seed" => some .seed
  | "max-steps" => some .maxSteps
  | _ => none

namespace Options

/-- Turns a switch on, unless it is on. -/
def turnOn? (options : Options) : Switch → Option Options
  | .dumpBytecode =>
    if options.dumpBytecode then none else some { options with dumpBytecode := true }
  | .sharedThreads =>
    if options.sharedThreads then none else some { options with sharedThreads := true }

/-- A value for an option that has none. -/
def once? {α : Type} (present : Option α) (value : Option α) : Option α :=
  match present with
  | some _ => none
  | none => value

def readWord? (text : String) : Option Nat :=
  Text.readUnsigned? UInt64.size text.toList

/-- Sets a parameter, unless it is set or the text is no value of it. -/
def set? (options : Options) (parameter : Parameter) (text : String) : Option Options :=
  match parameter with
  | .stackSize => (once? options.stackSize (readWord? text)).map fun value =>
    { options with stackSize := some value }
  | .returnStackSize => (once? options.returnStackSize (readWord? text)).map fun value =>
    { options with returnStackSize := some value }
  | .pageSize => (once? options.pageSize (readWord? text)).map fun value =>
    { options with pageSize := some value }
  | .pingProbability => (once? options.pingProbability (Decimal.read? text)).map fun value =>
    { options with pingProbability := some value }
  | .pingRetries =>
    (once? options.pingRetries (Text.readUnsigned? UInt32.size text.toList)).map fun value =>
      { options with pingRetries := some value }
  | .pauseMs => (once? options.pauseMs (readWord? text)).map fun value =>
    { options with pauseMs := some value }
  | .seed => (once? options.seed (readWord? text)).map fun value =>
    { options with seed := some value }
  | .maxSteps => (once? options.maxSteps (readWord? text)).map fun value =>
    { options with maxSteps := some value }

/-- Adds a file.  A file has a name. -/
def addFile? (options : Options) (name : String) : Option Options :=
  if name.isEmpty then none else some { options with files := options.files ++ [name] }

/-- The settings that the user asks for. -/
def overrides (options : Options) : Overrides where
  stackSize := options.stackSize
  returnStackSize := options.returnStackSize
  pageSize := options.pageSize
  pingProbability := options.pingProbability
  pingRetries := options.pingRetries
  pause := options.pauseMs.map (1000 * ·)
  isolation := if options.sharedThreads then some .shared else none
  seed := options.seed.map UInt64.ofNat
  maxSteps := options.maxSteps

end Options

def readFiles (options : Options) : List String → Invocation
  | [] => if options.files.isEmpty then .invalid else .run options
  | name :: rest =>
    match options.addFile? name with
    | some next => readFiles next rest
    | none => .invalid

inductive Argument where
  /-- Two dashes. -/
  | endOfOptions
  | switch (switch : Switch)
  | parameter (parameter : Parameter) (value : Option String)
  | version
  | help
  | file (name : String)
  | unknown
deriving DecidableEq, Repr

namespace Argument

/-- The name and the value of a long option, which are divided by the first equals
sign. -/
def splitLong (text : List Char) : String × Option String :=
  let name := String.ofList (text.takeWhile (· != '='))
  match text.dropWhile (· != '=') with
  | [] => (name, none)
  | _ :: value => (name, some (String.ofList value))

/-- Reads an option without a value. -/
def ofPlainName (name : String) : Argument :=
  match Switch.ofName? name with
  | some found => .switch found
  | none =>
    if name == "version" then .version
    else if name == "help" then .help
    else .unknown

def ofLong (text : List Char) : Argument :=
  let (name, value) := splitLong text
  match Parameter.ofName? name, value with
  | some found, _ => .parameter found value
  | none, none => ofPlainName name
  | none, some _ => .unknown

/-- Reads what stands behind one dash.  Its first letter decides. -/
def ofShort : List Char → Argument
  | 'V' :: _ => .version
  | 'h' :: _ => .help
  | _ => .unknown

/-- Reads an argument.  A single dash is a file name. -/
def ofText (text : String) : Argument :=
  match text.toList with
  | ['-', '-'] => .endOfOptions
  | '-' :: '-' :: long => ofLong long
  | '-' :: letter :: letters => ofShort (letter :: letters)
  | _ => .file text

end Argument

/-- Whether an argument can be the value of the option in front of it. -/
def isValue (text : String) : Bool :=
  match text.toList with
  | '-' :: _ :: _ => false
  | _ => true

/-- Reads the arguments one after the other.  The first one that makes no sense, or
that asks for the version or for help, decides.  `pending` is the option whose
value comes next. -/
def readFrom (options : Options) (pending : Option Parameter) : List String → Invocation
  | [] => if pending.isSome || options.files.isEmpty then .invalid else .run options
  | text :: rest =>
    match pending with
    | some parameter =>
      match (options.set? parameter text).filter fun _ => isValue text with
      | some next => readFrom next none rest
      | none => .invalid
    | none =>
      match Argument.ofText text with
      | .endOfOptions => readFiles options rest
      | .version => .version
      | .help => .help
      | .unknown => .invalid
      | .parameter parameter none => readFrom options (some parameter) rest
      | .parameter parameter (some value) =>
        match options.set? parameter value with
        | some next => readFrom next none rest
        | none => .invalid
      | .switch switch =>
        match options.turnOn? switch with
        | some next => readFrom next none rest
        | none => .invalid
      | .file name =>
        match options.addFile? name with
        | some next => readFrom next none rest
        | none => .invalid

/-- Reads the arguments of the command line. -/
def read (arguments : List String) : Invocation :=
  readFrom {} none arguments

end CommandLine
end CommandMachine
