namespace CommandMachine
namespace Text

/-!
Listings are set in columns: a cell is filled up with spaces on one side and
never cut.
-/

/-- The text moved to the right edge of a column. -/
def alignRight (width : Nat) (text : String) : String :=
  String.ofList (List.replicate (width - text.length) ' ') ++ text

/-- The text at the left edge of a column. -/
def alignLeft (width : Nat) (text : String) : String :=
  text ++ String.ofList (List.replicate (width - text.length) ' ')

def hex (number : Nat) : String :=
  String.ofList (Nat.toDigits 16 number)

def hexByte (byte : UInt8) : String :=
  String.ofList [Nat.digitChar (byte.toNat / 16), Nat.digitChar (byte.toNat % 16)]

end Text
end CommandMachine
