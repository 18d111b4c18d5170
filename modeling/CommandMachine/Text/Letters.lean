namespace CommandMachine
namespace Text

/-!
Words are compared without regard to the case of the twenty-six ASCII letters.
All other characters, accented letters included, stand only for themselves.
-/

/-- The word with its ASCII letters in upper case. -/
def upper (word : String) : String :=
  String.ofList (word.toList.map Char.toUpper)

/-- The word with its ASCII letters in lower case. -/
def lower (word : String) : String :=
  String.ofList (word.toList.map Char.toLower)

/-- Whether two words differ at most in the case of ASCII letters. -/
def sameLetters (left right : String) : Bool :=
  upper left == upper right

def isDigit (character : Char) : Bool :=
  '0' ≤ character && character ≤ '9'

def digitValue (digit : Char) : Nat :=
  digit.toNat - '0'.toNat

/-- The number that a row of digits stands for, most significant digit first. -/
def digitsValue (digits : List Char) : Nat :=
  digits.foldl (fun value digit => 10 * value + digitValue digit) 0

/-- Reads a row of digits with nothing else in it. -/
def readNat? (digits : List Char) : Option Nat :=
  if !digits.isEmpty && digits.all isDigit then some (digitsValue digits) else none

/-- Reads an unsigned number below `bound`, in front of which one plus sign may
stand. -/
def readUnsigned? (bound : Nat) (word : List Char) : Option Nat :=
  let digits := match word with
    | '+' :: rest => rest
    | _ => word
  (readNat? digits).filter (· < bound)

end Text
end CommandMachine
