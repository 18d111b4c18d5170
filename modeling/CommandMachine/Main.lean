import CommandMachine.CommandLine.Session
namespace CommandMachine
namespace CommandLine

/-!
The command line program: it reads the files named in its arguments, leaves the
work to `session`, and writes what the session gives.
-/

/-- The largest number of turns that a run is given. -/
def turnLimit : Nat := Nat.pow 2 62

/-- The reason for which the operating system did not give us a file. -/
def readErrorOf : IO.Error → ReadError
  | .noFileOrDirectory _ _ _ => .missing
  | .noSuchThing _ _ _ => .missing
  | .inappropriateType _ _ _ => .isDirectory
  | .permissionDenied _ _ _ => .other "Permission denied (os error 13)"
  | error => .other (toString error)

def readFile (name : String) : IO (Except ReadError String) := do
  try
    return decode (← IO.FS.readBinFile name)
  catch error =>
    return .error (readErrorOf error)

/-- Reads the files that will be asked for. -/
def readAll (names : List String) : IO (List (String × Except ReadError String)) :=
  names.mapM fun name => do return (name, ← readFile name)

/-- The names of the files in the arguments. -/
def filesOf (arguments : List String) : List String :=
  match CommandLine.read arguments with
  | .run options => options.files
  | _ => []

end CommandLine
end CommandMachine

open CommandMachine CommandLine in
def main (arguments : List String) : IO UInt32 := do
  let contents ← readAll (filesOf arguments)
  let entropy ← IO.rand 0 (Nat.pow 2 62)
  let read (name : String) := (contents.lookup name).getD (.error .missing)
  let console := session read (UInt64.ofNat entropy) turnLimit arguments
  IO.print console.output
  IO.eprint console.errors
  return console.exit
