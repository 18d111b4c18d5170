import CommandMachine.Decimal.Binary
namespace CommandMachine
namespace Decimal

/-!
The shortest decimal that names a double.  A decimal names the double nearest to
it, so each double owns an interval of reals: up to half way to each neighbour,
the ends included when its mantissa is even.  Of all decimals in the interval
the ones with the fewest digits are taken, of these the one nearest to the
double, and of two equally near ones the greater.
-/

/-- A decimal: `digits * 10 ^ exponent`. -/
structure Scientific where
  digits : Nat
  exponent : Int
deriving DecidableEq, Repr

/-- The reals that round to one double, as whole numbers over one denominator. -/
structure Interval where
  low : Nat
  value : Nat
  high : Nat
  denominator : Nat
  closed : Bool
deriving DecidableEq, Repr

/-- The interval that a size owns.  Below a power of two the neighbour is only
half as far away, unless the size is among the least of all. -/
def Binary.interval (size : Binary) : Interval :=
  let up := Nat.pow 2 size.exponent.toNat
  let below := if size.mantissa = Nat.pow 2 52 && -1074 < size.exponent then 1 else 2
  { low := (4 * size.mantissa - below) * up
    value := 4 * size.mantissa * up
    high := (4 * size.mantissa + 2) * up
    denominator := 4 * Nat.pow 2 (-size.exponent).toNat
    closed := size.mantissa % 2 == 0 }

/-- Whether `digits * 10 ^ exponent` lies in the interval. -/
def Interval.holds (interval : Interval) (decimal : Scientific) : Bool :=
  let up := decimal.digits * Nat.pow 10 decimal.exponent.toNat * interval.denominator
  let down := Nat.pow 10 (-decimal.exponent).toNat
  if interval.closed then interval.low * down ≤ up && up ≤ interval.high * down
  else interval.low * down < up && up < interval.high * down

/-- How many decimal digits a number has. -/
def digitCount (number : Nat) : Nat :=
  (Nat.toDigits 10 number).length

/-- The position of the leading digit: the greatest `e` with `10 ^ e` at most the
value of the interval. -/
def Interval.leading (interval : Interval) : Int :=
  if interval.denominator ≤ interval.value then
    (digitCount (interval.value / interval.denominator) : Int) - 1
  else
    let quotient := (interval.denominator + interval.value - 1) / interval.value
    Int.negOfNat (digitCount (quotient - 1))

/-- The value of the interval in units of `10 ^ exponent`, rounded down, with what
is left over and the size of one unit. -/
def Interval.units (interval : Interval) (exponent : Int) : Nat × Nat × Nat :=
  let up := interval.value * Nat.pow 10 (-exponent).toNat
  let unit := interval.denominator * Nat.pow 10 exponent.toNat
  (up / unit, up % unit, unit)

/-- The decimal of at most `count` digits that names the value of the interval, if
there is one.  Only the two neighbours of the value need a look. -/
def Interval.ofDigits? (interval : Interval) (count : Nat) : Option Scientific :=
  let exponent := interval.leading - count + 1
  let (floor, rest, unit) := interval.units exponent
  let lower : Scientific := ⟨floor, exponent⟩
  let upper : Scientific := ⟨floor + 1, exponent⟩
  let nearer := if unit ≤ 2 * rest then upper else lower
  let farther := if unit ≤ 2 * rest then lower else upper
  if interval.holds nearer then some nearer
  else if interval.holds farther then some farther
  else none

/-- The first decimal found with `count`, `count + 1`, … digits, `tries` times. -/
def Interval.search (interval : Interval) : (tries count : Nat) → Option Scientific
  | 0, _ => none
  | tries + 1, count => (interval.ofDigits? count).or (interval.search tries (count + 1))

/-- The shortest decimal of a size above zero.  Seventeen digits are always
enough. -/
def Binary.shortest (size : Binary) : Scientific :=
  (size.interval.search 17 1).getD ⟨0, 0⟩

end Decimal
end CommandMachine
