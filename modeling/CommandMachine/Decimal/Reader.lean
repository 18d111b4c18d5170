import CommandMachine.Decimal.Binary
import CommandMachine.Text.Letters
namespace CommandMachine
namespace Decimal

/-!
Reading a double.  After an optional sign stands either a number, that is digits
with an optional point among, before or after them and an optional power of ten,
or one of the names of infinity and of the value that is not a number.  The
result is the double nearest to the number written.
-/

/-- An unsigned decimal as it is written: the digits before and after the point,
and the power of ten. -/
structure Written where
  whole : List Char
  places : List Char
  power : Int
deriving DecidableEq, Repr

/-- Reads the power of ten behind the digits: nothing at all, or the letter `e`, an
optional sign and digits. -/
def readPower? : List Char → Option Int
  | [] => some 0
  | letter :: rest =>
    if letter == 'e' || letter == 'E' then
      match rest with
      | '-' :: digits => (Text.readNat? digits).map fun power => -(power : Int)
      | '+' :: digits => (Text.readNat? digits).map Int.ofNat
      | digits => (Text.readNat? digits).map Int.ofNat
    else none

/-- Reads an unsigned decimal.  At least one digit has to stand before the power
of ten. -/
def readWritten? (word : List Char) : Option Written :=
  let whole := word.takeWhile Text.isDigit
  let rest := word.dropWhile Text.isDigit
  let behindPoint := match rest with
    | '.' :: behind => behind
    | _ => []
  let places := behindPoint.takeWhile Text.isDigit
  let tail := match rest with
    | '.' :: behind => behind.dropWhile Text.isDigit
    | _ => rest
  if whole.isEmpty && places.isEmpty then none
  else (readPower? tail).map fun power => ⟨whole, places, power⟩

/-- The double nearest to a written decimal.  Far outside the range of doubles the
result is infinity or zero, whatever the digits are. -/
def Written.toFloat (written : Written) : Float :=
  let digits := Text.digitsValue (written.whole ++ written.places)
  let power := written.power - written.places.length
  let width : Int := (Nat.toDigits 10 digits).length
  if digits = 0 then 0.0
  else if 400 < power + width then Float.ofBits 0x7ff0000000000000
  else if power + width < -400 then 0.0
  else Float.ofScientific digits (power < 0) power.natAbs

/-- The doubles that are written as a name. -/
def readName? (word : List Char) : Option Float :=
  let name := word.map Char.toLower
  if name == "inf".toList || name == "infinity".toList then
    some (Float.ofBits 0x7ff0000000000000)
  else if name == "nan".toList then some (Float.ofBits 0x7ff8000000000000)
  else none

/-- Reads a double without its sign. -/
def readUnsigned? (word : List Char) : Option Float :=
  (readName? word).or ((readWritten? word).map Written.toFloat)

def read? (word : String) : Option Float :=
  match word.toList with
  | '-' :: rest => (readUnsigned? rest).map Neg.neg
  | '+' :: rest => readUnsigned? rest
  | rest => readUnsigned? rest

end Decimal
end CommandMachine
