namespace CommandMachine
namespace Text

/-!
White space comes in two sizes.  A *gap* separates the words of a line and is
one of five ASCII characters.  A *blank* may stand in front of a line and is any
of the twenty-five characters that carry the Unicode property `White_Space`.
Every gap is a blank, so a line that starts with a gap also starts with a blank.
-/

/-- The characters that separate words: space, tab, line feed, form feed and
carriage return. -/
def isGap (character : Char) : Bool :=
  character == ' ' || character == '\t' || character == '\n' ||
    character == '\x0c' || character == '\r'

/-- The ranges of code points that carry the Unicode property `White_Space`. -/
def blankRanges : List (Nat × Nat) :=
  [(0x9, 0xd), (0x20, 0x20), (0x85, 0x85), (0xa0, 0xa0), (0x1680, 0x1680),
   (0x2000, 0x200a), (0x2028, 0x2029), (0x202f, 0x202f), (0x205f, 0x205f),
   (0x3000, 0x3000)]

/-- The characters that may be dropped from the front of a line. -/
def isBlank (character : Char) : Bool :=
  blankRanges.any fun range => range.1 ≤ character.toNat && character.toNat ≤ range.2

/-- A line without the blanks in front of it. -/
def trimStart (line : List Char) : List Char :=
  line.dropWhile isBlank

theorem isBlank_of_isGap {character : Char} (gap : isGap character = true) :
    isBlank character = true := by
  simp only [isGap, Bool.or_eq_true, beq_iff_eq] at gap
  rcases gap with (((rfl | rfl) | rfl) | rfl) | rfl <;> decide

example : (blankRanges.map fun range => range.2 + 1 - range.1).sum = 25 := by decide

end Text
end CommandMachine
