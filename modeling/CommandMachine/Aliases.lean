import CommandMachine.Opcode
namespace CommandMachine

/-!
Aliases.  A modifier in front of a dispatch word selects an operation, as in
`quick DO`.  In front of any other command a modifier is a remark.
-/

/-- Which operation a modifier selects, and behind which words it does so. -/
structure Aliases where
  modifiers : List (String × Op)
  dispatchWords : List String
deriving DecidableEq, Repr

namespace Aliases

/-- No modifier selects anything. -/
def empty : Aliases :=
  ⟨[], []⟩

/-- Adds a modifier.  A later meaning of the same modifier replaces the earlier
one. -/
def withModifier (aliases : Aliases) (modifier : String) (op : Op) : Aliases :=
  { aliases with modifiers := (Text.lower modifier, op) :: aliases.modifiers }

def withDispatchWord (aliases : Aliases) (word : String) : Aliases :=
  { aliases with dispatchWords := Text.upper word :: aliases.dispatchWords }

/-- Whether a command is a dispatch word. -/
def isDispatchWord (aliases : Aliases) (command : String) : Bool :=
  aliases.dispatchWords.contains (Text.upper command)

def find? (aliases : Aliases) (modifier : String) : Option Op :=
  aliases.modifiers.lookup (Text.lower modifier)

/-- The aliases that every program may use. -/
def standard : Aliases :=
  empty
    |>.withModifier "quick" .optimize
    |>.withModifier "auto" .ping
    |>.withModifier "active" .flowCmp
    |>.withModifier "soft" .sift
    |>.withModifier "high_load" .release
    |>.withDispatchWord "DO"
    |>.withDispatchWord "RUN"

end Aliases
end CommandMachine
