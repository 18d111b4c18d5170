import CommandMachine.Opcode
import CommandMachine.Text.Quoted
import CommandMachine.Value.Basic
namespace CommandMachine

/-!
Programs: instructions with the source line each of them comes from.  The
instruction at position `i` runs at program counter `i`.
-/

inductive Operand where
  /-- A value. -/
  | literal (value : Value)
  /-- A register, by name. -/
  | register (name : String)
  /-- A place in the program. -/
  | target (counter : Nat)
  /-- A word that the operation itself makes sense of. -/
  | word (content : String)
deriving DecidableEq

def Operand.render : Operand → String
  | .literal (.text content) => Text.quoted content
  | .literal value => value.render
  | .register name => "%" ++ name
  | .target counter => "->" ++ toString counter
  | .word content => content

/-- A code byte with its operands.  The byte need not belong to an operation. -/
structure Instruction where
  opcode : UInt8
  operands : List Operand
deriving DecidableEq

namespace Instruction

def ofOp (op : Op) (operands : List Operand) : Instruction :=
  ⟨op.code, operands⟩

def op? (instruction : Instruction) : Option Op :=
  Op.ofCode? instruction.opcode

def render (instruction : Instruction) : String :=
  let mnemonic := match instruction.op? with
    | some op => op.mnemonic
    | none => "???"
  "0x" ++ Text.hexByte instruction.opcode ++ " " ++ Text.alignLeft 8 mnemonic ++
    String.join (instruction.operands.map fun operand => " " ++ operand.render)

@[simp] theorem op?_ofOp (op : Op) (operands : List Operand) :
    (ofOp op operands).op? = some op :=
  Op.ofCode?_code op

end Instruction

/-- An instruction and the number of the line it comes from. -/
structure PlacedInstruction where
  instruction : Instruction
  line : Nat
deriving DecidableEq

structure Program where
  code : List PlacedInstruction
deriving DecidableEq

namespace Program

def size (program : Program) : Nat :=
  program.code.length

/-- The instructions without their lines. -/
def instructions (program : Program) : List Instruction :=
  program.code.map PlacedInstruction.instruction

def lines (program : Program) : List Nat :=
  program.code.map PlacedInstruction.line

def get? (program : Program) (counter : Nat) : Option Instruction :=
  (program.code[counter]?).map PlacedInstruction.instruction

/-- The source line of the instruction at a program counter. -/
def lineOf? (program : Program) (counter : Nat) : Option Nat :=
  (program.code[counter]?).map PlacedInstruction.line

def listingLine (counter : Nat) (placed : PlacedInstruction) : String :=
  Text.alignRight 4 (toString counter) ++ "  L" ++ Text.alignLeft 4 (toString placed.line) ++
    " " ++ placed.instruction.render ++ "\n"

/-- The program in words, an instruction on each line. -/
def listing (program : Program) : String :=
  String.join (program.code.mapIdx listingLine)

end Program
end CommandMachine
