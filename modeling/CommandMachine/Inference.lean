import CommandMachine.Text.Letters
import CommandMachine.Value.Basic
namespace CommandMachine

/-!
Inference backends.  The machine hands a backend some words and gets one value
back.  A backend that breaks down gives nothing, and the engine that asked breaks
down with it.
-/

abbrev Inference := String → Option Value

namespace Inference

def register : String := "inference_result"

/-- The backend where none is asked for. -/
def standard : Inference :=
  fun payload => some (.text ("inference result based on " ++ payload))

def echo : Inference :=
  fun payload => some (.text payload)

/-- Gives the words back in upper case. -/
def uppercase : Inference :=
  fun payload => some (.text (Text.upper payload))

/-- Gives the number of bytes of the words. -/
def byteLength : Inference :=
  fun payload => some (.integer (Int64.ofNat payload.utf8ByteSize))

def constant (value : Value) : Inference :=
  fun _ => some value

def broken : Inference :=
  fun _ => none

end Inference
end CommandMachine
