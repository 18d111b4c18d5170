namespace CommandMachine
namespace CommandLine

/-!
Files by name.  A folder is a flat collection of named contents; a path is
resolved in it as an operating system would do, and the ways in which reading can
fail have the operating system's texts.
-/

/-- Why a file cannot be read. -/
inductive ReadError where
  | missing
  | isDirectory
  | notADirectory
  | notText
  | other (text : String)
deriving DecidableEq, Repr

def ReadError.message : ReadError → String
  | .missing => "No such file or directory (os error 2)"
  | .isDirectory => "Is a directory (os error 21)"
  | .notADirectory => "Not a directory (os error 20)"
  | .notText => "stream did not contain valid UTF-8"
  | .other text => text

/-- The contents of a file as text. -/
def decode (bytes : ByteArray) : Except ReadError String :=
  match String.fromUTF8? bytes with
  | some text => .ok text
  | none => .error .notText

structure Folder where
  files : List (String × ByteArray)

namespace Folder

/-- The names in a path.  A single dot and two slashes in a row name nothing. -/
def components (path : String) : List String :=
  (path.splitOn "/").filter fun part => part ≠ "" && part ≠ "."

/-- Whether a path insists on a directory. -/
def endsInDirectory (path : String) : Bool :=
  match (path.splitOn "/").getLast? with
  | some last => path.contains '/' && (last == "" || last == ".")
  | none => false

/-- Whether the names of a path lead through the name of a file. -/
def passesFile (folder : Folder) (parts : List String) : Bool :=
  (List.range parts.length).any fun count =>
    (folder.files.lookup ("/".intercalate (parts.take count))).isSome

/-- Whether the names of a path lead to a directory on the way to some file. -/
def isFolder (folder : Folder) (parts : List String) : Bool :=
  folder.files.any fun file => parts.isPrefixOf (components file.1) && parts ≠ components file.1

def read (folder : Folder) (path : String) : Except ReadError String :=
  let parts := components path
  if path.isEmpty then .error .missing
  else if parts.isEmpty || parts.all (· == "..") then .error .isDirectory
  else if path.startsWith "/" then .error .missing
  else
    match folder.files.lookup ("/".intercalate parts) with
    | some bytes => if endsInDirectory path then .error .notADirectory else decode bytes
    | none =>
      if folder.isFolder parts then .error .isDirectory
      else if folder.passesFile parts then .error .notADirectory
      else .error .missing

end Folder
end CommandLine
end CommandMachine
