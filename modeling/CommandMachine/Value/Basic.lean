import CommandMachine.Decimal.Positional
namespace CommandMachine

/-!
The values a program computes with.  A register that was created and never
written holds `unset`, which is not the same as a written zero: sweeping removes
the one and keeps the other.
-/

/-- The address of a memory slot.  The generation tells the present use of the
slot from earlier ones. -/
structure Handle where
  page : UInt32
  slot : UInt32
  generation : UInt32
deriving DecidableEq, Repr

/-- A handle as it is shown to the user. -/
def Handle.render (handle : Handle) : String :=
  "@" ++ toString handle.page.toNat ++ ":" ++ toString handle.slot.toNat ++
    "#" ++ toString handle.generation.toNat

inductive Value where
  | unset
  | integer (number : Int64)
  | float (number : Float)
  | text (content : String)
  | handle (address : Handle)
deriving DecidableEq

namespace Value

instance : Inhabited Value := ⟨.unset⟩

/-- The kind of a value, which messages name. -/
inductive Kind where
  | unset
  | integer
  | float
  | text
  | handle
deriving DecidableEq, Repr

/-- The word for a kind of values. -/
def Kind.name : Kind → String
  | .unset => "unset"
  | .integer => "integer"
  | .float => "float"
  | .text => "text"
  | .handle => "handle"

def Kind.all : List Kind :=
  [.unset, .integer, .float, .text, .handle]

theorem Kind.mem_all (kind : Kind) : kind ∈ Kind.all := by
  cases kind <;> simp [Kind.all]

def kind : Value → Kind
  | .unset => .unset
  | .integer _ => .integer
  | .float _ => .float
  | .text _ => .text
  | .handle _ => .handle

/-- Whether the value is that of a register never written. -/
def isUnset : Value → Bool
  | .unset => true
  | _ => false

/-- The value a program sees where it finds this one: nothing written reads as
zero. -/
def orZero : Value → Value
  | .unset => .integer 0
  | value => value

/-- Whether a value counts as zero in a conditional jump.  Text and handles have
no answer. -/
def isZero? : Value → Option Bool
  | .unset => some true
  | .integer number => some (number == 0)
  | .float number => some (number == 0.0)
  | .text _ => none
  | .handle _ => none

/-- The comparison of values.  Values of different kinds differ, and floats compare
as numbers do: the two zeros are the same and what is not a number differs from
itself. -/
def same : Value → Value → Bool
  | .unset, .unset => true
  | .integer left, .integer right => left == right
  | .float left, .float right => left == right
  | .text left, .text right => left == right
  | .handle left, .handle right => left == right
  | _, _ => false

def render : Value → String
  | .unset => "unset"
  | .integer number => toString number.toInt
  | .float number => Decimal.render number
  | .text content => content
  | .handle address => address.render

@[simp] theorem orZero_ne_unset (value : Value) : value.orZero ≠ .unset := by
  cases value <;> simp [orZero]

@[simp] theorem isUnset_iff {value : Value} : value.isUnset = true ↔ value = .unset := by
  cases value <;> simp [isUnset]

theorem orZero_of_ne_unset {value : Value} (written : value ≠ .unset) :
    value.orZero = value := by
  cases value <;> simp_all [orZero]

end Value
end CommandMachine
