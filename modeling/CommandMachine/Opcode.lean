import CommandMachine.Text.Letters
namespace CommandMachine

/-!
The instruction set: twenty-eight operations, each with a code byte, a mnemonic
and a rule for its operands.  The code bytes are part of the instruction format.
-/

inductive Op where
  /-- Drop repeated values from the stack. -/
  | optimize
  /-- Create a register that holds nothing. -/
  | allocReg
  /-- Keep only the most recent values of the stack. -/
  | flowCmp
  /-- Empty the stack. -/
  | release
  /-- Check for a passing fault. -/
  | ping
  /-- Remove the registers that hold nothing. -/
  | sift
  /-- Ask the inference backend. -/
  | infer
  /-- Wait for a moment. -/
  | pause
  /-- Set a register. -/
  | write
  /-- Push the value of a register. -/
  | read
  | add
  | sub
  | mul
  | div
  | mod
  /-- Go on elsewhere. -/
  | jump
  /-- Go on elsewhere if the value on top is zero. -/
  | jumpZero
  /-- Go on elsewhere if the value on top is not zero. -/
  | jumpNonzero
  /-- Print the value on top. -/
  | print
  /-- Call a function. -/
  | call
  /-- Return from a function. -/
  | ret
  /-- Start another engine and push its number. -/
  | thread
  /-- Wait for the engine whose number is on top. -/
  | join
  /-- Move the value on top into memory and push its handle. -/
  | alloc
  /-- Give a memory slot back. -/
  | free
  /-- Push the value of a memory slot. -/
  | load
  /-- Replace the value of a memory slot. -/
  | store
  /-- Stop. -/
  | halt
deriving DecidableEq, Repr

/-- What operands an operation takes in source text. -/
inductive Shape where
  /-- Any words. -/
  | bare
  /-- One register name. -/
  | register
  /-- A register name and the words of a value. -/
  | assign
  /-- One symbol that stands for a place in the program. -/
  | target
  /-- At most one count. -/
  | count
deriving DecidableEq, Repr

namespace Op

/-- All operations, in the order of their codes. -/
def all : List Op :=
  [.optimize, .allocReg, .flowCmp, .release, .ping, .sift, .infer, .pause, .write, .read,
   .add, .sub, .mul, .div, .mod, .jump, .jumpZero, .jumpNonzero, .print, .call, .ret,
   .thread, .join, .alloc, .free, .load, .store, .halt]

def code : Op → UInt8
  | .optimize => 0x01
  | .allocReg => 0x03
  | .flowCmp => 0x05
  | .release => 0x06
  | .ping => 0x07
  | .sift => 0x08
  | .infer => 0x09
  | .pause => 0x0b
  | .write => 0x10
  | .read => 0x11
  | .add => 0x12
  | .sub => 0x13
  | .mul => 0x14
  | .div => 0x15
  | .mod => 0x16
  | .jump => 0x17
  | .jumpZero => 0x18
  | .jumpNonzero => 0x19
  | .print => 0x1a
  | .call => 0x21
  | .ret => 0x22
  | .thread => 0x26
  | .join => 0x27
  | .alloc => 0x28
  | .free => 0x2c
  | .load => 0x2d
  | .store => 0x2e
  | .halt => 0xff

/-- The word for an operation in source text and in messages. -/
def mnemonic : Op → String
  | .optimize => "OPTIMIZE"
  | .allocReg => "ALLOCREG"
  | .flowCmp => "FLOWCMP"
  | .release => "RELEASE"
  | .ping => "PING"
  | .sift => "SIFT"
  | .infer => "INFER"
  | .pause => "PAUSE"
  | .write => "WRITE"
  | .read => "READ"
  | .add => "ADD"
  | .sub => "SUB"
  | .mul => "MUL"
  | .div => "DIV"
  | .mod => "MOD"
  | .jump => "JUMP"
  | .jumpZero => "JZ"
  | .jumpNonzero => "JNZ"
  | .print => "PRINT"
  | .call => "CALL"
  | .ret => "RET"
  | .thread => "THREAD"
  | .join => "JOIN"
  | .alloc => "ALLOC"
  | .free => "FREE"
  | .load => "LOAD"
  | .store => "STORE"
  | .halt => "END"

def shape : Op → Shape
  | .allocReg => .register
  | .read => .register
  | .write => .assign
  | .jump => .target
  | .jumpZero => .target
  | .jumpNonzero => .target
  | .call => .target
  | .thread => .target
  | .flowCmp => .count
  | _ => .bare

def ofCode? (byte : UInt8) : Option Op :=
  all.find? fun op => op.code == byte

/-- The operation of a mnemonic, in any mixture of upper and lower case. -/
def ofMnemonic? (word : String) : Option Op :=
  all.find? fun op => op.mnemonic == Text.upper word

def isMnemonic (word : String) : Bool :=
  (ofMnemonic? word).isSome

theorem mem_all (op : Op) : op ∈ all := by
  cases op <;> decide

theorem ofCode?_code (op : Op) : ofCode? op.code = some op := by
  cases op <;> decide

end Op
end CommandMachine
