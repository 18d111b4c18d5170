import CommandMachine.Value.Literal
namespace CommandMachine
namespace Arithmetic

/-!
The five operations on numbers.  Integers are computed exactly and have to fit
sixty-four bits again; as soon as one operand is a float both are.  Division
rounds towards zero, and the remainder has the sign of the dividend.
-/

inductive Operation where
  | add
  | sub
  | mul
  | div
  | mod
deriving DecidableEq, Repr

inductive Failure where
  | divisionByZero
  | overflow
  | mismatch (left right : Value.Kind)
deriving DecidableEq, Repr

def Operation.divides : Operation → Bool
  | .div => true
  | .mod => true
  | _ => false

/-- The result over all integers.  The remainder is asked for only where the
quotient fits, which is why it stands beside the quotient in `integers`. -/
def Operation.exact (operation : Operation) (left right : Int) : Int :=
  match operation with
  | .add => left + right
  | .sub => left - right
  | .mul => left * right
  | .div => left.tdiv right
  | .mod => left.tmod right

/-- The integer that has to fit sixty-four bits for the operation to succeed: the
result, and for the remainder the quotient that belongs to it. -/
def Operation.bounded (operation : Operation) (left right : Int) : Int :=
  match operation with
  | .mod => left.tdiv right
  | _ => operation.exact left right

def integers (operation : Operation) (left right : Int64) : Except Failure Int64 :=
  if operation.divides && right == 0 then .error .divisionByZero
  else
    match Literal.toInteger? (operation.bounded left.toInt right.toInt) with
    | none => .error .overflow
    | some _ => .ok (Int64.ofInt (operation.exact left.toInt right.toInt))

/-- An operation on floats.  Only a division by zero fails. -/
def floats (operation : Operation) (left right : Float) : Except Failure Float :=
  if operation.divides && right == 0.0 then .error .divisionByZero
  else
    match operation with
    | .add => .ok (left + right)
    | .sub => .ok (left - right)
    | .mul => .ok (left * right)
    | .div => .ok (left / right)
    | .mod => .ok (Decimal.remainder left right)

def apply (operation : Operation) : Value → Value → Except Failure Value
  | .integer left, .integer right => (integers operation left right).map .integer
  | .integer left, .float right => (floats operation left.toFloat right).map .float
  | .float left, .integer right => (floats operation left right.toFloat).map .float
  | .float left, .float right => (floats operation left right).map .float
  | left, right => .error (.mismatch left.kind right.kind)

end Arithmetic
end CommandMachine
