import CommandMachine.Proofs.Bytes
import Mathlib.Order.Bounds.Basic
namespace CommandMachine
namespace SourceLine

open Scanner

/-!
# Where text without an end begins

A source cannot be read if one of its lines has a quote without a partner.  The error gives the
number of the first such line, and a column.  This module says where in a line the quote stands,
counted in bytes of the line as it was given, and compares the column with that place.

Lines are trimmed before their words are looked for, and the column is counted from the first
character that is left.  So the column is the place of the quote only in a line that begins
with no blank; otherwise it is too small by the bytes of the blanks in front.
-/

/-! ## One line -/

/-- The blanks in front of a line. -/
def indentation (line : String) : List Char :=
  line.toList.takeWhile Text.isBlank

/-- There is something to read, and neither a blank nor a remark comes first. -/
def BeginsText (text : List Char) : Prop :=
  ∃ first rest, text = first :: rest ∧ Text.isBlank first = false ∧ first ≠ '#'

/-- Behind blanks and complete words, a quote that has no partner stands at a place of the line.
The place is counted in bytes from one, and the blanks count. -/
def OpensAt (line : String) (place : Nat) : Prop :=
  ∃ blanks parts text, (∀ character ∈ blanks, Text.isBlank character = true) ∧
    BeginsText (spaced parts ++ text) ∧ (∀ part ∈ parts, SpacedWord.IsParted part) ∧
    IsUnclosed text ∧ line.toList = blanks ++ (spaced parts ++ text) ∧
    place = byteWidth (blanks ++ spaced parts) + 1

theorem indentation_append_trimStart (line : String) :
    indentation line ++ Text.trimStart line.toList = line.toList :=
  List.takeWhile_append_dropWhile

/-- The blanks of a line are those in front of its text. -/
theorem indentation_eq {line : String} {blanks text : List Char}
    (isBlank : ∀ character ∈ blanks, Text.isBlank character = true) (begins : BeginsText text)
    (split : line.toList = blanks ++ text) :
    indentation line = blanks ∧ Text.trimStart line.toList = text := by
  rcases begins with ⟨first, rest, rfl, solid, -⟩
  rw [indentation, Text.trimStart, split]
  refine span_of_all isBlank fun next later same => ?_
  cases same
  exact solid

theorem isSkipped_eq_false_iff (line : String) :
    isSkipped (Text.trimStart line.toList) = false ↔ BeginsText (Text.trimStart line.toList) := by
  cases text : Text.trimStart line.toList with
  | nil => simp [isSkipped, BeginsText]
  | cons first rest =>
      have solid : Text.isBlank first = false := dropWhile_stops text
      simp [isSkipped, BeginsText, solid]

/-- In a text that begins with no blank there are no gaps in front of the first word. -/
theorem lead_eq_nil {lead behind : List Char}
    (gaps : ∀ character ∈ lead, Text.isGap character = true) (begins : BeginsText (lead ++ behind)) :
    lead = [] := by
  cases lead with
  | nil => rfl
  | cons first rest =>
      rcases begins with ⟨_, _, same, solid, -⟩
      cases same
      rw [Text.isBlank_of_isGap (gaps first List.mem_cons_self)] at solid
      cases solid

/-- The quote at which a trimmed line breaks off, in the line as it was given. -/
theorem opensAt_of_breaksOff {line : String} {words : List (List Char)} {column : Nat}
    (begins : BeginsText (Text.trimStart line.toList))
    (breaks : BreaksOff (Text.trimStart line.toList) words column) :
    OpensAt line (byteWidth (indentation line) + column) := by
  rcases breaks with ⟨lead, parts, text, gaps, parted, unclosed, cut, -, rfl⟩
  rw [cut, List.append_assoc] at begins
  have none := lead_eq_nil gaps begins
  subst none
  refine ⟨indentation line, parts, text, takeWhile_all _ _, begins, parted, unclosed, ?_, ?_⟩
  · rw [← indentation_append_trimStart line, cut]
    rfl
  · rw [List.nil_append, byteWidth_append, Nat.add_assoc]

/-- A line is refused for a quote without a partner, and for nothing else. -/
theorem opensAt_of_scan {number : Nat} {line : String} {error : CompileError}
    (failed : scan number line = .error error) :
    ∃ column, error = .malformed number (.unterminatedText column) ∧
      OpensAt line (byteWidth (indentation line) + column) := by
  unfold scan at failed
  dsimp only at failed
  cases skipped : isSkipped (Text.trimStart line.toList) with
  | true => simp [skipped] at failed
  | false =>
      have begins := (isSkipped_eq_false_iff line).mp skipped
      rcases read : (ofLine (Text.trimStart line.toList)).words with ⟨words, _ | column⟩
      · simp [skipped, read] at failed
      · simp only [skipped, read, Bool.false_eq_true, if_false, Except.error.injEq] at failed
        refine ⟨column, failed.symm, ?_⟩
        exact opensAt_of_breaksOff begins ((words_eq_iff_breaksOff _ _ _).mp read)

theorem scan_of_opensAt {line : String} {place : Nat} (opens : OpensAt line place) (number : Nat) :
    ∃ column, place = byteWidth (indentation line) + column ∧
      scan number line = .error (.malformed number (.unterminatedText column)) := by
  rcases opens with ⟨blanks, parts, text, isBlank, begins, parted, unclosed, split, rfl⟩
  rcases indentation_eq isBlank begins split with ⟨indented, trimmed⟩
  have skipped := (isSkipped_eq_false_iff line).mpr (trimmed ▸ begins)
  rw [trimmed] at skipped
  have breaks : BreaksOff (spaced parts ++ text) (parts.map SpacedWord.word)
      (byteWidth (spaced parts) + 1) :=
    ⟨[], parts, text, by simp, parted, unclosed, rfl, rfl, rfl⟩
  refine ⟨byteWidth (spaced parts) + 1, ?_, ?_⟩
  · rw [indented, byteWidth_append, Nat.add_assoc]
  · unfold scan
    simp only [trimmed, skipped, words_of_breaksOff breaks, Bool.false_eq_true, if_false]

/-- A line has at most one quote that starts a text without an end. -/
theorem OpensAt.unique {line : String} {left right : Nat} (first : OpensAt line left)
    (second : OpensAt line right) : left = right := by
  rcases scan_of_opensAt first 0 with ⟨column, rfl, read⟩
  rcases scan_of_opensAt second 0 with ⟨other, rfl, again⟩
  rw [read] at again
  cases again
  rfl

/-- The byte at the place is a quote. -/
theorem OpensAt.byte {line : String} {place : Nat} (opens : OpensAt line place) :
    ∃ quote, Literal.isQuoteByte quote = true ∧ (Text.bytes line)[place - 1]? = some quote := by
  rcases opens with ⟨blanks, parts, _, -, -, -, ⟨quote, content, quotes, -, rfl⟩, split, rfl⟩
  have stands : Stands line (blanks ++ spaced parts)
      ⟨quote :: content, byteWidth (blanks ++ spaced parts)⟩ :=
    ⟨by rw [split, List.append_assoc], rfl⟩
  rcases stands.exists_byte with ⟨byte, member, found⟩
  exact ⟨byte, (Text.uniform_isQuoteByte quote byte member).trans quotes, found⟩

/-- Without trimming, the words of the line would break off at this very place, as long as the
blanks in front are gaps. -/
theorem OpensAt.words {line : String} {place : Nat} (opens : OpensAt line place)
    (gaps : ∀ character ∈ indentation line, Text.isGap character = true) :
    (ofLine line.toList).words.2 = some place := by
  rcases opens with ⟨blanks, parts, text, isBlank, begins, parted, unclosed, split, rfl⟩
  rw [(indentation_eq isBlank begins split).1] at gaps
  have breaks : BreaksOff line.toList (parts.map SpacedWord.word)
      (byteWidth (blanks ++ spaced parts) + 1) :=
    ⟨blanks, parts, text, gaps, parted, unclosed, by rw [split, List.append_assoc], rfl, rfl⟩
  rw [words_of_breaksOff breaks]

/-! ## All lines -/

/-- A quote that has no partner stands at a place of the line with this number.  Lines are counted
from one. -/
def OpensOn (lines : List String) (number place : Nat) : Prop :=
  ∃ line, 0 < number ∧ lines[number - 1]? = some line ∧ OpensAt line place

/-- The number is that of the first line that has a quote without a partner. -/
def IsFirst (lines : List String) (number : Nat) : Prop :=
  IsLeast {number | ∃ place, OpensOn lines number place} number

/-- The error gives the first line that has a quote without a partner, and the place of the quote
in that line. -/
def Pinpoints (lines : List String) (error : CompileError) : Prop :=
  ∃ number place, IsFirst lines number ∧ OpensOn lines number place ∧
    error = .malformed number (.unterminatedText place)

theorem scanFrom_of_ok {first : Nat} {line : String} {rest : List String}
    {result : Option SourceLine} {error : CompileError} (read : scan first line = .ok result)
    (failed : scanFrom first (line :: rest) = .error error) :
    scanFrom (first + 1) rest = .error error := by
  rw [scanFrom, read] at failed
  cases result with
  | none => exact failed
  | some found =>
      cases later : scanFrom (first + 1) rest with
      | error cause =>
          rw [later] at failed
          cases failed
          rfl
      | ok lines =>
          rw [later] at failed
          cases failed

theorem not_opensAt_of_ok {number : Nat} {line : String} {result : Option SourceLine}
    (read : scan number line = .ok result) (place : Nat) : ¬ OpensAt line place := by
  intro opens
  rcases scan_of_opensAt opens number with ⟨column, -, failed⟩
  cases read.symm.trans failed

/-- The line that makes reading fail is the first one that cannot be read. -/
theorem scanFrom_error {first : Nat} {lines : List String} {error : CompileError}
    (failed : scanFrom first lines = .error error) :
    ∃ index line, lines[index]? = some line ∧ scan (first + index) line = .error error ∧
      ∀ earlier < index, ∀ other, lines[earlier]? = some other → ∀ place, ¬ OpensAt other place := by
  induction lines generalizing first with
  | nil => cases failed
  | cons line rest ih =>
      cases read : scan first line with
      | error cause =>
          rw [scanFrom, read] at failed
          cases failed
          exact ⟨0, line, rfl, read, fun earlier before => absurd before (Nat.not_lt_zero _)⟩
      | ok result =>
          rcases ih (scanFrom_of_ok read failed) with ⟨index, found, stands, refused, readable⟩
          refine ⟨index + 1, found, stands, ?_, fun earlier before other listed => ?_⟩
          · rw [← refused, Nat.add_assoc, Nat.add_comm 1]
          · cases earlier with
            | zero =>
                cases listed
                exact not_opensAt_of_ok read
            | succ earlier => exact readable earlier (Nat.lt_of_succ_lt_succ before) other listed

theorem isFirst_of_index {lines : List String} {index place : Nat} {line : String}
    (found : lines[index]? = some line) (opens : OpensAt line place)
    (readable : ∀ earlier < index, ∀ other, lines[earlier]? = some other →
      ∀ place, ¬ OpensAt other place) : IsFirst lines (index + 1) := by
  refine ⟨⟨place, line, Nat.succ_pos index, found, opens⟩, ?_⟩
  rintro number ⟨elsewhere, other, positive, listed, opened⟩
  by_contra below
  exact readable (number - 1) (by omega) other listed elsewhere opened

theorem byteWidth_eq_zero_iff (characters : List Char) :
    byteWidth characters = 0 ↔ characters = [] := by
  cases characters with
  | nil => simp [byteWidth]
  | cons first rest =>
      have positive := first.utf8Size_pos
      change first.utf8Size + byteWidth rest = 0 ↔ _
      simp only [reduceCtorEq, iff_false]
      omega

/-- The column is the place of the quote if no blank has been trimmed off, and only then. -/
theorem pinpoints_iff {lines : List String} {number column : Nat} {line : String}
    (first : IsFirst lines number) (positive : 0 < number)
    (found : lines[number - 1]? = some line)
    (opens : OpensAt line (byteWidth (indentation line) + column)) :
    Pinpoints lines (.malformed number (.unterminatedText column)) ↔ indentation line = [] := by
  constructor
  · rintro ⟨_, _, -, ⟨other, -, listed, there⟩, same⟩
    cases same
    rw [found] at listed
    cases listed
    have width := opens.unique there
    exact (byteWidth_eq_zero_iff _).mp (by omega)
  · intro flush
    rw [flush, show byteWidth [] = 0 from rfl, Nat.zero_add] at opens
    exact ⟨number, column, first, ⟨line, positive, found, opens⟩, rfl⟩

/-- **Where reading a source fails.**  The error gives the number of the first line that has a
quote without a partner.  Its column and the bytes of the blanks in front of that line give
together the place of the quote, at which the line has the byte of a quote.  So the column is
the place of the quote in the line as it was given if and only if no blank stands in front of the
line. -/
theorem scanAll_locates {lines : List String} {error : CompileError}
    (failed : scanAll lines = .error error) :
    ∃ number line place column, IsFirst lines number ∧ lines[number - 1]? = some line ∧
      OpensOn lines number place ∧
      (∃ quote, Literal.isQuoteByte quote = true ∧ (Text.bytes line)[place - 1]? = some quote) ∧
      error = .malformed number (.unterminatedText column) ∧
      error.reason = "unterminated text starting at column " ++ toString column ∧
      place = byteWidth (indentation line) + column ∧
      (Pinpoints lines error ↔ indentation line = []) := by
  rcases scanFrom_error failed with ⟨index, line, found, refused, readable⟩
  rcases opensAt_of_scan refused with ⟨column, rfl, opens⟩
  rw [Nat.add_comm 1 index]
  have first := isFirst_of_index found opens readable
  exact ⟨index + 1, line, _, column, first, found, ⟨line, Nat.succ_pos index, found, opens⟩,
    opens.byte, rfl, rfl, rfl, pinpoints_iff first (Nat.succ_pos index) found opens⟩

/-- A remark, a line that can be read, and one that has a quote too few behind longer
characters. -/
def halfQuoted : List String :=
  ["# it's", "WRITE é 'ü\"'", "PRINT é'' \"ö' x", " 'late"]

/-- The third line begins with no blank, so the column is the place of its quote. -/
theorem halfQuoted_located :
    scanAll halfQuoted = .error (.malformed 3 (.unterminatedText 12)) ∧
      IsFirst halfQuoted 3 ∧ OpensOn halfQuoted 3 12 ∧
      Pinpoints halfQuoted (.malformed 3 (.unterminatedText 12)) := by
  have failed : scanAll halfQuoted = .error (.malformed 3 (.unterminatedText 12)) := by
    decide +kernel
  rcases scanAll_locates failed with
    ⟨number, line, place, column, first, found, opens, -, same, -, sum, exactly⟩
  cases same
  cases found
  have flush : indentation "PRINT é'' \"ö' x" = [] := by decide +kernel
  rw [flush] at sum
  cases sum
  exact ⟨failed, first, opens, exactly.mpr flush⟩

/-- A line with two blanks in front of its quote. -/
def indented : List String :=
  ["  'col"]

/-- The quote is the third byte of the line, but the error gives column one. -/
theorem indented_not_pinpointed :
    scanAll indented = .error (.malformed 1 (.unterminatedText 1)) ∧ IsFirst indented 1 ∧
      OpensOn indented 1 3 ∧ ¬ Pinpoints indented (.malformed 1 (.unterminatedText 1)) := by
  have refused : scan 1 "  'col" = .error (.malformed 1 (.unterminatedText 1)) := by
    decide +kernel
  have blanks : indentation "  'col" = [' ', ' '] := by decide +kernel
  rcases opensAt_of_scan refused with ⟨column, same, opens⟩
  cases same
  have first : IsFirst indented 1 := isFirst_of_index rfl opens (by simp)
  have off := pinpoints_iff first Nat.one_pos rfl opens
  rw [blanks] at opens off
  refine ⟨by decide +kernel, first, ⟨_, Nat.one_pos, rfl, opens⟩, fun right => ?_⟩
  cases off.mp right

end SourceLine
end CommandMachine
