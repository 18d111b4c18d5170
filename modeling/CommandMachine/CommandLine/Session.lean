import CommandMachine.CommandLine.Folder
import CommandMachine.CommandLine.Options
import CommandMachine.Run
import CommandMachine.Source.Assembly
namespace CommandMachine
namespace CommandLine

/-!
What the command line does: each file is compiled and run, or listed, in the order
of the arguments.  A file that cannot be read or compiled ends the session, and so
does a main engine that breaks down; a fault at run time only spoils its exit status.
-/

/-- The text that a session writes, and its exit status so far. -/
structure Console where
  output : String := ""
  errors : String := ""
  exit : UInt32 := 0
deriving DecidableEq

namespace Console

def write (console : Console) (text : String) : Console :=
  { console with output := console.output ++ text }

/-- Writes a line of errors and spoils the exit status. -/
def complain (console : Console) (text : String) : Console :=
  { console with errors := console.errors ++ text ++ "\n", exit := 1 }

end Console

def versionText : String := "clv 0.1.0\n"

def helpText : String :=
  "Usage: clv [OPTIONS] <FILES>...\n\n" ++
  "Arguments:\n" ++
  "  <FILES>...  The .clv files to execute\n\n" ++
  "Options:\n" ++
  "      --dump-bytecode\n" ++
  "          Dump the disassembled bytecode for the inputs\n" ++
  "      --stack-size <STACK_SIZE>\n" ++
  "          Evaluation stack capacity\n" ++
  "      --return-stack-size <RETURN_STACK_SIZE>\n" ++
  "          Call stack depth limit\n" ++
  "      --page-size <PAGE_SIZE>\n" ++
  "          Memory manager page size in slots\n" ++
  "      --ping-probability <PING_PROBABILITY>\n" ++
  "          Probability that a PING signals a transient fault\n" ++
  "      --ping-retries <PING_RETRIES>\n" ++
  "          PING retries before the fault becomes fatal\n" ++
  "      --pause-ms <PAUSE_MS>\n" ++
  "          PAUSE duration in milliseconds\n" ++
  "      --seed <SEED>\n" ++
  "          Seed for PING fault injection\n" ++
  "      --shared-threads\n" ++
  "          Spawned threads share registers and memory\n" ++
  "      --max-steps <MAX_STEPS>\n" ++
  "          Fault an engine after this many instructions\n" ++
  "  -h, --help\n" ++
  "          Print help\n" ++
  "  -V, --version\n" ++
  "          Print version\n"

/-- A printed value.  Values of other engines than the main one are marked. -/
def printedLine (origin : ThreadId) (value : Value) : String :=
  if origin = .initial then value.render ++ "\n"
  else "[" ++ origin.render ++ "] " ++ value.render ++ "\n"

def printedText (run : Run) : String :=
  String.join (run.reports.filterMap fun entry =>
    match entry.2 with
    | .event (.printed value) => some (printedLine entry.1 value)
    | _ => none)

/-- A fault with the place in the source where it arose. -/
def faultLine (file : String) (program : Program) (thread : ThreadId) (fault : Fault) :
    String :=
  let place := match program.lineOf? fault.counter with
    | some line => ":" ++ toString line
    | none => ""
  "Error executing " ++ file ++ place ++ " (" ++ thread.render ++ "): " ++ fault.message

/-- Runs a program and writes what it prints and its faults.  `limit` bounds the
number of turns.  The session ends with the main engine if that breaks down. -/
def runProgram (settings : Settings) (entropy : UInt64) (limit : Nat) (file : String)
    (program : Program) (console : Console) : Except Console Console :=
  let run := (Run.create ⟨program, settings⟩ .standard .never false
    (settings.faultSource entropy)).execute limit
  let printed := console.write (printedText run)
  if run.mainCrashed then .error { printed with exit := 101 }
  else
    .ok (run.result.faults.foldl
      (fun console fault => console.complain (faultLine file program fault.1 fault.2)) printed)

/-- Compiles the text of a file and runs or lists the program.  There is no console
for the next file if the text is not a program. -/
def processText (options : Options) (entropy : UInt64) (limit : Nat) (file text : String)
    (console : Console) : Except Console Console :=
  match Assembly.compile .standard (Text.lines text) with
  | .error error =>
    .error (console.complain ("Error compiling " ++ file ++ ": " ++ error.message))
  | .ok program =>
    if options.dumpBytecode then
      .ok (console.write ("== " ++ file ++ " ==\n" ++ program.listing))
    else
      runProgram (.ofOverrides options.overrides) entropy limit file program console

def processFile (options : Options) (entropy : UInt64) (limit : Nat) (file : String)
    (contents : Except ReadError String) (console : Console) : Except Console Console :=
  match contents with
  | .error error =>
    .error (console.complain ("Error reading file '" ++ file ++ "': " ++ error.message))
  | .ok text => processText options entropy limit file text console

def processFiles (options : Options) (read : String → Except ReadError String)
    (entropy : UInt64) (limit : Nat) (console : Console) : List String → Console
  | [] => console
  | file :: rest =>
    match processFile options entropy limit file (read file) console with
    | .error last => last
    | .ok next => processFiles options read entropy limit next rest

/-- A whole session.  Arguments that make no sense have exit status two. -/
def session (read : String → Except ReadError String) (entropy : UInt64) (limit : Nat)
    (arguments : List String) : Console :=
  match CommandLine.read arguments with
  | .version => { output := versionText }
  | .help => { output := helpText }
  | .invalid => { errors := helpText, exit := 2 }
  | .run options => processFiles options read entropy limit {} options.files

end CommandLine
end CommandMachine
