import CommandMachine.Value.Basic
namespace CommandMachine

/-!
Named registers, kept in the order in which they were created.  Every creation
takes a number from a counter that only grows, so a register that is swept and
created again is told apart from its earlier self.
-/

structure Register where
  id : Nat
  name : String
  value : Value
deriving DecidableEq

structure RegisterFile where
  entries : List Register
  nextId : Nat
deriving DecidableEq

namespace RegisterFile

/-- No registers. -/
def empty : RegisterFile :=
  ⟨[], 0⟩

def get? (registers : RegisterFile) (name : String) : Option Register :=
  registers.entries.find? fun register => register.name == name

/-- Whether there is a register of the given name. -/
def contains (registers : RegisterFile) (name : String) : Bool :=
  (registers.get? name).isSome

/-- Creates a register that holds nothing, unless it exists. -/
def allocate (registers : RegisterFile) (name : String) : RegisterFile :=
  if registers.contains name then registers
  else
    { entries := registers.entries ++ [⟨registers.nextId, name, .unset⟩]
      nextId := registers.nextId + 1 }

/-- The number of a register, or the number it will get when it is created. -/
def idOf (registers : RegisterFile) (name : String) : Nat :=
  match registers.get? name with
  | some register => register.id
  | none => registers.nextId

/-- Sets the value of the register of the given name. -/
def set (registers : RegisterFile) (name : String) (value : Value) : RegisterFile :=
  { registers with
    entries := registers.entries.map fun register =>
      if register.name == name then { register with value } else register }

/-- Creates the register if it does not exist, and sets its value. -/
def write (registers : RegisterFile) (name : String) (value : Value) : RegisterFile :=
  (registers.allocate name).set name value

/-- The value of a register.  A register that does not exist holds nothing. -/
def read (registers : RegisterFile) (name : String) : Value :=
  match registers.get? name with
  | some register => register.value
  | none => .unset

/-- The names of the registers that hold nothing. -/
def unwritten (registers : RegisterFile) : List String :=
  (registers.entries.filter fun register => register.value.isUnset).map Register.name

def sweep (registers : RegisterFile) : RegisterFile :=
  { registers with
    entries := registers.entries.filter fun register => !register.value.isUnset }

/-- Names and values in the order of creation. -/
def snapshot (registers : RegisterFile) : List (String × Value) :=
  registers.entries.map fun register => (register.name, register.value)

def size (registers : RegisterFile) : Nat :=
  registers.entries.length

end RegisterFile
end CommandMachine
