import CommandMachine.Decimal.Shortest
namespace CommandMachine
namespace Decimal

/-!
Doubles in positional notation: the shortest digits, filled up with zeros to the
decimal point, however far that is.  There is no exponent and no point after a
whole number.
-/

/-- The digits of a decimal with the zeros that its exponent asks for. -/
def Scientific.positional (decimal : Scientific) : String :=
  let digits := Nat.toDigits 10 decimal.digits
  let zeros (count : Nat) := List.replicate count '0'
  if 0 ≤ decimal.exponent then
    String.ofList (digits ++ zeros decimal.exponent.toNat)
  else
    let places := (-decimal.exponent).toNat
    if places < digits.length then
      let whole := digits.length - places
      String.ofList (digits.take whole ++ '.' :: digits.drop whole)
    else
      String.ofList ('0' :: '.' :: (zeros (places - digits.length) ++ digits))

/-- A decimal without zeros at its end. -/
def Scientific.trim : Nat → Scientific → Scientific
  | 0, decimal => decimal
  | steps + 1, decimal =>
    if decimal.digits ≠ 0 && decimal.digits % 10 == 0 then
      Scientific.trim steps ⟨decimal.digits / 10, decimal.exponent + 1⟩
    else decimal

/-- A double in positional notation.  Zero keeps its sign, and a value that is not
a number has none. -/
def render (number : Float) : String :=
  let sign := if isNegative number then "-" else ""
  match magnitude number with
  | .notANumber => "NaN"
  | .infinite => sign ++ "inf"
  | .finite size =>
    if size.mantissa = 0 then sign ++ "0"
    else sign ++ (size.shortest.trim 17).positional

end Decimal
end CommandMachine
