import CommandMachine.Text.Blank
import CommandMachine.Value.Literal
namespace CommandMachine

/-!
Words of a line.  A word that begins with a quote runs to the next quote of the
same kind and keeps both quotes; any other word runs to the next gap, and quotes
inside it mean nothing.  Positions are counted in bytes of UTF-8.
-/

/-- A line that is being read: what is left of it, and how many bytes stand in
front of that. -/
structure Scanner where
  rest : List Char
  offset : Nat
deriving DecidableEq, Repr

/-- The outcome of looking for the next word. -/
inductive Scan where
  /-- The line is at its end. -/
  | finished (scanner : Scanner)
  /-- A word. -/
  | word (word : List Char) (scanner : Scanner)
  /-- A quote without a partner, at a column counted from one. -/
  | unterminated (column : Nat) (scanner : Scanner)
deriving DecidableEq, Repr

namespace Scanner

/-- The number of bytes that characters take. -/
def byteWidth (characters : List Char) : Nat :=
  characters.foldr (fun character width => character.utf8Size + width) 0

/-- A line that has not been looked at. -/
def ofLine (line : List Char) : Scanner :=
  ⟨line, 0⟩

/-- Whether the whole line has been read. -/
def isDone (scanner : Scanner) : Bool :=
  scanner.rest.isEmpty

/-- Goes on while the characters satisfy `keep`. -/
def skipWhile (scanner : Scanner) (keep : Char → Bool) : Scanner :=
  ⟨scanner.rest.dropWhile keep, scanner.offset + byteWidth (scanner.rest.takeWhile keep)⟩

def skipGaps (scanner : Scanner) : Scanner :=
  scanner.skipWhile Text.isGap

/-- Reads a quoted word whose opening quote has been seen at `offset`. -/
def quotedWord (quote : Char) (rest : List Char) (offset : Nat) : Scan :=
  let content := rest.takeWhile (· != quote)
  let inside := offset + quote.utf8Size + byteWidth content
  match rest.dropWhile (· != quote) with
  | [] => .unterminated (offset + 1) ⟨[], inside⟩
  | closing :: behind =>
    .word (quote :: (content ++ [closing])) ⟨behind, inside + closing.utf8Size⟩

/-- Reads a word at whose first character the scanner stands. -/
def plainWord (scanner : Scanner) : Scan :=
  .word (scanner.rest.takeWhile fun character => !Text.isGap character)
    (scanner.skipWhile fun character => !Text.isGap character)

def next (scanner : Scanner) : Scan :=
  let start := scanner.skipGaps
  match start.rest with
  | [] => .finished start
  | first :: rest =>
    if Literal.isQuote first then quotedWord first rest start.offset else start.plainWord

theorem length_dropWhile_le (keep : Char → Bool) (characters : List Char) :
    (characters.dropWhile keep).length ≤ characters.length :=
  (List.dropWhile_suffix keep).length_le

theorem quotedWord_shorter {quote : Char} {rest word : List Char} {offset : Nat}
    {after : Scanner} (read : quotedWord quote rest offset = .word word after) :
    after.rest.length < rest.length + 1 := by
  unfold quotedWord at read
  have shorter := length_dropWhile_le (· != quote) rest
  cases found : rest.dropWhile (· != quote) with
  | nil => simp [found] at read
  | cons closing behind =>
    simp only [found, Scan.word.injEq] at read
    rw [found] at shorter
    rw [← read.2]
    change behind.length < rest.length + 1
    simp only [List.length_cons] at shorter
    omega

/-- Every word takes something off the line, so a line has finitely many words. -/
theorem next_shorter {scanner after : Scanner} {word : List Char}
    (read : scanner.next = .word word after) :
    after.rest.length < scanner.rest.length := by
  unfold next at read
  have shorter := length_dropWhile_le Text.isGap scanner.rest
  cases found : scanner.skipGaps.rest with
  | nil => simp [found] at read
  | cons first rest =>
    have boundary : Text.isGap first = false := by
      have kept := List.head?_dropWhile_not Text.isGap scanner.rest
      change scanner.rest.dropWhile Text.isGap = first :: rest at found
      rw [found] at kept
      simpa using kept
    have fits : rest.length + 1 ≤ scanner.rest.length := by
      change scanner.rest.dropWhile Text.isGap = first :: rest at found
      rw [found] at shorter
      simpa using shorter
    simp only [found] at read
    by_cases quote : Literal.isQuote first = true
    · rw [if_pos quote] at read
      have := quotedWord_shorter read
      omega
    · rw [if_neg quote] at read
      simp only [plainWord, skipWhile, Scan.word.injEq] at read
      rw [← read.2, found]
      simp only [List.dropWhile_cons, boundary, Bool.not_false, if_true]
      have := length_dropWhile_le (fun character => !Text.isGap character) rest
      omega

/-- All words up to the end of the line or to a quote without a partner, whose
column is then given. -/
def words (scanner : Scanner) : List (List Char) × Option Nat :=
  match _read : scanner.next with
  | .finished _ => ([], none)
  | .unterminated column _ => ([], some column)
  | .word word after =>
    let (later, failure) := after.words
    (word :: later, failure)
termination_by scanner.rest.length
decreasing_by exact next_shorter _read

end Scanner
end CommandMachine
