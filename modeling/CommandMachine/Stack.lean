import CommandMachine.Value.Basic
namespace CommandMachine

/-!
The two stacks of an engine.  The evaluation stack is a window on the most
recent values: when it is full, a new value pushes the oldest one out, and the
stack counts what it lost in this way.  The call stack holds return addresses
and refuses to grow beyond its limit.
-/

/-- The evaluation stack, most recent value first. -/
structure EvaluationStack where
  items : List Value
  capacity : Nat
  evicted : Nat
deriving DecidableEq

namespace EvaluationStack

/-- The capacity where none is asked for. -/
def defaultCapacity : Nat := 256

/-- An empty stack, which has room for at least one value. -/
def ofCapacity (capacity : Nat) : EvaluationStack :=
  ⟨[], max capacity 1, 0⟩

def depth (stack : EvaluationStack) : Nat :=
  stack.items.length

/-- The values, oldest first. -/
def toList (stack : EvaluationStack) : List Value :=
  stack.items.reverse

/-- Whether the next value pushes one out. -/
def isFull (stack : EvaluationStack) : Bool :=
  stack.depth == stack.capacity

/-- The value that the next push pushes out. -/
def overflow? (stack : EvaluationStack) : Option Value :=
  if stack.isFull then stack.items.getLast? else none

/-- Puts a value on top.  A full stack loses its oldest value. -/
def push (stack : EvaluationStack) (value : Value) : EvaluationStack :=
  if stack.isFull then
    { stack with items := value :: stack.items.dropLast, evicted := stack.evicted + 1 }
  else { stack with items := value :: stack.items }

def peek? (stack : EvaluationStack) : Option Value :=
  stack.items.head?

def pop? (stack : EvaluationStack) : Option (Value × EvaluationStack) :=
  match stack.items with
  | [] => none
  | value :: rest => some (value, { stack with items := rest })

/-- How many values lie outside the window. -/
def excess (stack : EvaluationStack) (window : Nat) : Nat :=
  stack.depth - min window stack.capacity

/-- Keeps the most recent values, as many as the window has places. -/
def compact (stack : EvaluationStack) (window : Nat) : EvaluationStack :=
  { stack with
    items := stack.items.take (min window stack.capacity)
    evicted := stack.evicted + stack.excess window }

/-- The values that compare equal to none of those kept before them.  `kept` are
the values kept so far. -/
def distinct (kept : List Value) : List Value → List Value
  | [] => []
  | value :: rest =>
    if kept.any fun earlier => earlier.same value then distinct kept rest
    else value :: distinct (kept ++ [value]) rest

/-- Keeps the first of equal values, counted from the oldest on. -/
def dedup (stack : EvaluationStack) : EvaluationStack :=
  { stack with items := (distinct [] stack.toList).reverse }

def clear (stack : EvaluationStack) : EvaluationStack :=
  { stack with items := [] }

end EvaluationStack

/-- The call stack, most recent return address first. -/
structure CallStack where
  frames : List Nat
  limit : Nat
deriving DecidableEq, Repr

namespace CallStack

/-- The limit where none is asked for. -/
def defaultLimit : Nat := 1024

def ofLimit (limit : Nat) : CallStack :=
  ⟨[], limit⟩

/-- How many calls have not returned. -/
def depth (calls : CallStack) : Nat :=
  calls.frames.length

/-- Adds a return address, unless the limit is reached. -/
def push? (calls : CallStack) (address : Nat) : Option CallStack :=
  if calls.depth < calls.limit then some { calls with frames := address :: calls.frames }
  else none

def pop? (calls : CallStack) : Option (Nat × CallStack) :=
  match calls.frames with
  | [] => none
  | address :: rest => some (address, { calls with frames := rest })

end CallStack
end CommandMachine
