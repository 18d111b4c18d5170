namespace CommandMachine
namespace Decimal

/-!
A finite double is a sign, a whole number `m` below `2 ^ 53` and a power of two.
This module takes the three parts out of the sixty-four bits and puts them back,
so that questions about doubles become questions about whole numbers.
-/

/-- The size of a finite double: `mantissa * 2 ^ exponent`, where the exponent is
at least `-1074`. -/
structure Binary where
  mantissa : Nat
  exponent : Int
deriving DecidableEq, Repr

/-- What the sixty-four bits of a double stand for, apart from the sign. -/
inductive Magnitude where
  | notANumber
  | infinite
  | finite (size : Binary)
deriving DecidableEq, Repr

def isNegative (number : Float) : Bool :=
  number.toBits >>> 63 == 1

/-- The size of a double, whatever its sign. -/
def magnitude (number : Float) : Magnitude :=
  let bits : Nat := number.toBits.toNat
  let field : Nat := bits / Nat.pow 2 52 % Nat.pow 2 11
  let fraction : Nat := bits % Nat.pow 2 52
  if field = 2047 then
    if fraction = 0 then .infinite else .notANumber
  else if field = 0 then .finite ⟨fraction, -1074⟩
  else .finite ⟨Nat.pow 2 52 + fraction, (field : Int) - 1075⟩

/-- Whether a double is a number and not an infinity. -/
def isFinite (number : Float) : Bool :=
  match magnitude number with
  | .finite _ => true
  | _ => false

/-- The bits of a size that fits a double exactly.  The mantissa is moved so that
its leading bit stands at position fifty-two, or as far as the least exponent
allows. -/
def Binary.bits (size : Binary) : Nat :=
  if size.mantissa = 0 then 0
  else
    let width := size.mantissa.log2
    let exponent := max (size.exponent + width - 52) (-1074)
    let mantissa :=
      if size.exponent ≤ exponent then size.mantissa / Nat.pow 2 (exponent - size.exponent).toNat
      else size.mantissa * Nat.pow 2 (size.exponent - exponent).toNat
    if mantissa < Nat.pow 2 52 then mantissa
    else (exponent + 1075).toNat * Nat.pow 2 52 + (mantissa - Nat.pow 2 52)

/-- The double of a given sign and size.  The size has to fit a double exactly. -/
def ofBinary (negative : Bool) (size : Binary) : Float :=
  let sign := if negative then Nat.pow 2 63 else 0
  Float.ofBits (UInt64.ofNat (sign + size.bits))

/-- The remainder of two sizes, which is a whole multiple of the smaller power of
two that occurs in them. -/
def Binary.remainder (left right : Binary) : Binary :=
  let exponent := min left.exponent right.exponent
  let scaled (size : Binary) := size.mantissa * Nat.pow 2 (size.exponent - exponent).toNat
  ⟨scaled left % scaled right, exponent⟩

/-- The remainder of the division that rounds towards zero.  It is computed
without rounding and has the sign of the dividend. -/
def remainder (left right : Float) : Float :=
  match magnitude left, magnitude right with
  | .finite size, .finite divisor =>
    if divisor.mantissa = 0 then Float.ofBits 0x7ff8000000000000
    else ofBinary (isNegative left) (size.remainder divisor)
  | .finite _, .infinite => left
  | _, _ => Float.ofBits 0x7ff8000000000000

end Decimal
end CommandMachine
