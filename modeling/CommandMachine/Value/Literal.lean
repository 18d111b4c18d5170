import CommandMachine.Decimal.Reader
import CommandMachine.Value.Basic
namespace CommandMachine
namespace Literal

/-!
Literals are words that stand for a value of their own: text in quotes, integers
and floats.  A word of digits that is too large for an integer is not a float
either, so no literal changes its kind without notice.
-/

def isQuote (character : Char) : Bool :=
  character == '"' || character == '\''

def isSign (character : Char) : Bool :=
  character == '-' || character == '+'

/-- The text between the quotes of a word that begins and ends with the same quote
character. -/
def unquote? : List Char → Option (List Char)
  | quote :: rest =>
    if isQuote quote && rest.getLast? == some quote then some rest.dropLast else none
  | [] => none

/-- A word without the signs in front of it. -/
def unsigned (word : List Char) : List Char :=
  word.dropWhile isSign

/-- Whether a word begins like a number: with a digit, after any signs. -/
def isNumeric (word : List Char) : Bool :=
  match unsigned word with
  | first :: _ => Text.isDigit first
  | [] => false

/-- An integer of sixty-four bits, if the number is in their range. -/
def toInteger? (number : Int) : Option Int64 :=
  if Int64.minValue.toInt ≤ number ∧ number ≤ Int64.maxValue.toInt then
    some (Int64.ofInt number)
  else none

/-- Reads an integer: at most one sign, then digits. -/
def readInteger? : List Char → Option Int64
  | '-' :: digits => (Text.readNat? digits).bind fun number => toInteger? (-(number : Int))
  | '+' :: digits => (Text.readNat? digits).bind fun number => toInteger? number
  | digits => (Text.readNat? digits).bind fun number => toInteger? number

/-- Reads a float that is not an infinity. -/
def readFloat? (word : String) : Option Float :=
  (Decimal.read? word).filter Decimal.isFinite

/-- The value of a word that begins like a number. -/
def readNumber? (word : String) : Option Value :=
  match readInteger? word.toList with
  | some number => some (.integer number)
  | none =>
    if (unsigned word.toList).all Text.isDigit then none
    else (readFloat? word).map .float

/-- The value of a literal, and nothing for any other word. -/
def read? (word : String) : Option Value :=
  match unquote? word.toList with
  | some content => some (.text (String.ofList content))
  | none => if isNumeric word.toList then readNumber? word else none

end Literal
end CommandMachine
