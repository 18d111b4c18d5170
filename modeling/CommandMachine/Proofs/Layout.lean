import CommandMachine.Proofs.Renumbering
import Mathlib.Order.Monotone.Basic
namespace CommandMachine

/-!
# The layout of a source

A source may be laid out in many ways: lines may be blank or hold a remark, and a line
may have white space in front of it and behind it.  None of this matters to the program.
A new layout moves the lines of a source to other numbers, in the same order, and compiling
it gives the same program or the same error with these numbers.

The two kinds of white space have different places.  In front of a line any blank may
stand, because the line is trimmed before its words are looked for.  Behind a line only the
gaps between words may stand, because any other blank would belong to the last word.
-/

/-! ## White space behind a line -/

/-- Characters behind a row of characters are not looked at if the row is left before its
end, or if they are not wanted. -/
theorem span_append {keep : Char → Bool} {characters trail : List Char}
    (stops : characters.dropWhile keep ≠ [] ∨ trail.takeWhile keep = []) :
    (characters ++ trail).takeWhile keep = characters.takeWhile keep ∧
      (characters ++ trail).dropWhile keep = characters.dropWhile keep ++ trail := by
  induction characters with
  | nil =>
      have unwanted : trail.takeWhile keep = [] := stops.resolve_left fun left => left rfl
      have whole : trail.takeWhile keep ++ trail.dropWhile keep = trail :=
        List.takeWhile_append_dropWhile
      rw [unwanted] at whole
      exact ⟨unwanted, whole⟩
  | cons first rest ih =>
      by_cases wanted : keep first = true
      · rw [List.dropWhile_cons_of_pos wanted] at stops
        rcases ih stops with ⟨taken, dropped⟩
        simp [wanted, taken, dropped]
      · simp [wanted]

theorem dropWhile_of_all {keep : Char → Bool} {characters : List Char}
    (all : ∀ character ∈ characters, keep character = true) : characters.dropWhile keep = [] := by
  rw [← List.append_nil characters, List.dropWhile_append_of_pos all]
  rfl

theorem takeWhile_of_none {keep : Char → Bool} {characters : List Char}
    (none : ∀ character ∈ characters, keep character = false) :
    characters.takeWhile keep = [] := by
  cases characters with
  | nil => rfl
  | cons first rest => simp [none first List.mem_cons_self]

theorem Text.ne_quote_of_isGap {character quote : Char} (gap : isGap character = true)
    (quotes : Literal.isQuote quote = true) : (character != quote) = true := by
  rw [bne_iff_ne]
  rintro rfl
  simp only [Literal.isQuote, Bool.or_eq_true, beq_iff_eq] at quotes
  rcases quotes with rfl | rfl <;> simp [isGap] at gap

namespace Scanner

/-- The scanner of a line with more behind it. -/
def followed (scanner : Scanner) (trail : List Char) : Scanner :=
  { scanner with rest := scanner.rest ++ trail }

/-- The same word, or the same end of the words, with and without `trail` behind the line. -/
inductive Agree (trail : List Char) : Scan → Scan → Prop where
  | finished (before after : Scanner) : Agree trail (.finished before) (.finished after)
  | unterminated (column : Nat) (before after : Scanner) :
      Agree trail (.unterminated column before) (.unterminated column after)
  | word (word : List Char) (after : Scanner) :
      Agree trail (.word word after) (.word word (after.followed trail))

section Gaps

variable {trail : List Char}

theorem skipWhile_followed {scanner : Scanner} {keep : Char → Bool}
    (stops : scanner.rest.dropWhile keep ≠ [] ∨ trail.takeWhile keep = []) :
    (scanner.followed trail).skipWhile keep = (scanner.skipWhile keep).followed trail := by
  rcases span_append stops with ⟨taken, dropped⟩
  simp only [skipWhile, followed, taken, dropped]

theorem quotedWord_agree (gaps : ∀ character ∈ trail, Text.isGap character = true) {quote : Char}
    (quotes : Literal.isQuote quote = true) (rest : List Char) (offset : Nat) :
    Agree trail (quotedWord quote rest offset) (quotedWord quote (rest ++ trail) offset) := by
  unfold quotedWord
  dsimp only
  cases closed : rest.dropWhile (· != quote) with
  | nil =>
      have inside : trail.dropWhile (· != quote) = [] :=
        dropWhile_of_all fun character member => Text.ne_quote_of_isGap (gaps character member) quotes
      have unclosed : (rest ++ trail).dropWhile (· != quote) = [] := by
        simp [List.dropWhile_append, closed, inside]
      rw [unclosed]
      exact .unterminated _ _ _
  | cons closing behind =>
      have stops : rest.dropWhile (· != quote) ≠ [] ∨ trail.takeWhile (· != quote) = [] := by
        simp [closed]
      rcases span_append stops with ⟨taken, dropped⟩
      rw [taken, dropped, closed]
      exact .word _ _

theorem plainWord_agree (gaps : ∀ character ∈ trail, Text.isGap character = true)
    (scanner : Scanner) : Agree trail scanner.plainWord (scanner.followed trail).plainWord := by
  have unwanted : trail.takeWhile (fun character => !Text.isGap character) = [] :=
    takeWhile_of_none fun character member => by simp [gaps character member]
  unfold plainWord
  rw [skipWhile_followed (Or.inr unwanted), followed, (span_append (Or.inr unwanted)).1]
  exact .word _ _

/-- The next word is the same with gaps behind the line. -/
theorem next_agree (gaps : ∀ character ∈ trail, Text.isGap character = true)
    (scanner : Scanner) : Agree trail scanner.next (scanner.followed trail).next := by
  unfold next
  dsimp only
  cases found : scanner.skipGaps.rest with
  | nil =>
      have none : (scanner.followed trail).skipGaps.rest = [] := by
        change scanner.rest.dropWhile Text.isGap = [] at found
        change (scanner.rest ++ trail).dropWhile Text.isGap = []
        simp [List.dropWhile_append, found, dropWhile_of_all gaps]
      rw [none]
      exact .finished _ _
  | cons first rest =>
      have stops : scanner.rest.dropWhile Text.isGap ≠ [] := by
        change scanner.rest.dropWhile Text.isGap = first :: rest at found
        simp [found]
      have same : (scanner.followed trail).skipGaps = scanner.skipGaps.followed trail :=
        skipWhile_followed (Or.inl stops)
      have longer : (scanner.skipGaps.followed trail).rest = first :: (rest ++ trail) := by
        rw [followed, found, List.cons_append]
      rw [same, longer]
      by_cases quotes : Literal.isQuote first = true
      · simp only [if_pos quotes]
        exact quotedWord_agree gaps quotes rest _
      · simp only [if_neg quotes]
        exact plainWord_agree gaps scanner.skipGaps

theorem words_of_finished {scanner after : Scanner} (read : scanner.next = .finished after) :
    scanner.words = ([], none) := by
  rw [words]
  split <;> simp_all

theorem words_of_unterminated {scanner after : Scanner} {column : Nat}
    (read : scanner.next = .unterminated column after) : scanner.words = ([], some column) := by
  rw [words]
  split <;> simp_all

theorem words_of_word {scanner after : Scanner} {word : List Char}
    (read : scanner.next = .word word after) :
    scanner.words = (word :: after.words.1, after.words.2) := by
  rw [words]
  split <;> simp_all

theorem words_of_agree {scanner other : Scanner} (agree : Agree trail scanner.next other.next)
    (later : ∀ word after, scanner.next = .word word after →
      (after.followed trail).words = after.words) : other.words = scanner.words := by
  generalize read : scanner.next = found at agree later
  generalize reread : other.next = again at agree
  cases agree with
  | finished => rw [words_of_finished read, words_of_finished reread]
  | unterminated column => rw [words_of_unterminated read, words_of_unterminated reread]
  | word word after => rw [words_of_word read, words_of_word reread, later word after rfl]

/-- Gaps behind a line do not change its words, and a quote without a partner is found at
the same column. -/
theorem words_followed (gaps : ∀ character ∈ trail, Text.isGap character = true)
    (scanner : Scanner) : (scanner.followed trail).words = scanner.words :=
  words_of_agree (next_agree gaps scanner) fun _ after read =>
    have := next_shorter read
    words_followed gaps after
termination_by scanner.rest.length

end Gaps
end Scanner

/-! ## One line -/

namespace SourceLine

/-- A line that is blank, or whose first character that is not blank begins a remark. -/
def IsIdle (line : String) : Prop :=
  (∀ character ∈ line.toList, Text.isBlank character = true) ∨
    ∃ blanks remark, line.toList = blanks ++ '#' :: remark ∧
      ∀ character ∈ blanks, Text.isBlank character = true

theorem scan_of_isIdle {line : String} (idle : IsIdle line) (number : Nat) :
    scan number line = .ok none := by
  have skipped : isSkipped (Text.trimStart line.toList) = true := by
    unfold Text.trimStart
    rcases idle with blank | ⟨blanks, remark, split, blank⟩
    · rw [dropWhile_of_all blank]
      rfl
    · rw [split, List.dropWhile_append_of_pos blank]
      rfl
  simp only [scan, skipped, if_true]

/-- White space around a line does not change what is read from it. -/
theorem scan_surrounded {lead trail : String}
    (blanks : ∀ character ∈ lead.toList, Text.isBlank character = true)
    (gaps : ∀ character ∈ trail.toList, Text.isGap character = true) (number : Nat)
    (line : String) : scan number (lead ++ line ++ trail) = scan number line := by
  have trimmed : Text.trimStart (lead ++ line ++ trail).toList =
      (line.toList ++ trail.toList).dropWhile Text.isBlank := by
    rw [String.toList_append, String.toList_append, List.append_assoc]
    exact List.dropWhile_append_of_pos blanks
  unfold scan
  dsimp only
  rw [trimmed]
  cases left : Text.trimStart line.toList with
  | nil =>
      have blank : trail.toList.dropWhile Text.isBlank = [] :=
        dropWhile_of_all fun character member => Text.isBlank_of_isGap (gaps character member)
      have none : (line.toList ++ trail.toList).dropWhile Text.isBlank = [] := by
        change line.toList.dropWhile Text.isBlank = [] at left
        simp [List.dropWhile_append, left, blank]
      rw [none]
  | cons first rest =>
      have stops : line.toList.dropWhile Text.isBlank ≠ [] := by
        change line.toList.dropWhile Text.isBlank = first :: rest at left
        simp [left]
      have longer : (line.toList ++ trail.toList).dropWhile Text.isBlank =
          (first :: rest) ++ trail.toList :=
        (span_append (Or.inl stops)).2.trans (congrArg (· ++ trail.toList) left)
      have words : (Scanner.ofLine ((first :: rest) ++ trail.toList)).words =
          (Scanner.ofLine (first :: rest)).words :=
        Scanner.words_followed gaps (Scanner.ofLine (first :: rest))
      rw [longer, words]
      rfl

end SourceLine

/-! ## The whole source -/

/-- A way to lay out the lines `old` as the lines `new`. -/
inductive Layout : List String → List String → Type where
  | done : Layout [] []
  /-- A line with nothing to read is inserted. -/
  | insert {old new : List String} (line : String) (idle : SourceLine.IsIdle line)
      (rest : Layout old new) : Layout old (line :: new)
  /-- A line is kept, with white space around it. -/
  | keep {old new : List String} (line lead trail : String)
      (blanks : ∀ character ∈ lead.toList, Text.isBlank character = true)
      (gaps : ∀ character ∈ trail.toList, Text.isGap character = true)
      (rest : Layout old new) : Layout (line :: old) ((lead ++ line ++ trail) :: new)

namespace Layout

variable {old new : List String}

/-- Where a line comes to stand.  Lines are counted from zero here. -/
def position {old new : List String} : Layout old new → Nat → Nat
  | .done, index => index
  | .insert _ _ rest, index => rest.position index + 1
  | .keep _ _ _ _ _ _, 0 => 0
  | .keep _ _ _ _ _ rest, index + 1 => rest.position index + 1

/-- The new number of a line.  Numbers begin with one. -/
def number (layout : Layout old new) : Nat → Nat
  | 0 => 0
  | index + 1 => layout.position index + 1

theorem position_lt (layout : Layout old new) (index : Nat) :
    layout.position index < layout.position (index + 1) := by
  induction layout generalizing index with
  | done => exact Nat.lt_succ_self index
  | insert _ _ rest ih => exact Nat.succ_lt_succ (ih index)
  | keep _ _ _ _ _ rest ih =>
      cases index with
      | zero => exact Nat.succ_pos _
      | succ index => exact Nat.succ_lt_succ (ih index)

theorem number_strictMono (layout : Layout old new) : StrictMono layout.number := by
  apply strictMono_nat_of_lt_succ
  intro number
  cases number with
  | zero => exact Nat.succ_pos _
  | succ index => exact Nat.succ_lt_succ (layout.position_lt index)

/-- A line and the same line with white space around it. -/
def Surrounds (line wider : String) : Prop :=
  ∃ lead trail, wider = lead ++ line ++ trail ∧
    (∀ character ∈ lead.toList, Text.isBlank character = true) ∧
    ∀ character ∈ trail.toList, Text.isGap character = true

/-- Every line stands where the layout says. -/
theorem getElem?_position (layout : Layout old new) {index : Nat} {line : String}
    (found : old[index]? = some line) :
    ∃ wider, new[layout.position index]? = some wider ∧ Surrounds line wider := by
  induction layout generalizing index with
  | done => cases found
  | insert _ _ rest ih => exact ih found
  | keep line lead trail blanks gaps rest ih =>
      cases index with
      | zero =>
          cases found
          exact ⟨_, rfl, lead, trail, rfl, blanks, gaps⟩
      | succ index => exact ih found

open CompileError SourceLine

/-- Reading the new lines gives the old ones with new numbers.  The numbers in front of the
two sources may differ, as they do behind the first line that was inserted. -/
theorem scanFrom_layout (layout : Layout old new) {move : Nat → Nat} {first start : Nat}
    (moved : ∀ index, move (first + index) = start + layout.position index) :
    scanFrom start new =
      (relined move (scanFrom first old)).map (List.map (SourceLine.renumber move)) := by
  induction layout generalizing first start with
  | done => rfl
  | insert line idle rest ih =>
      have later (index : Nat) : move (first + index) = start + 1 + rest.position index := by
        rw [moved, Nat.add_assoc, Nat.add_comm 1]
        rfl
      simp only [scanFrom, scan_of_isIdle idle]
      exact ih later
  | keep line lead trail blanks gaps rest ih =>
      have here : start = move first := (moved 0).symm
      have later (index : Nat) : move (first + 1 + index) = start + 1 + rest.position index := by
        rw [Nat.add_assoc, Nat.add_comm 1, moved, Nat.add_assoc, Nat.add_comm 1]
        rfl
      simp only [scanFrom, scan_surrounded blanks gaps, ih later]
      rw [here, scan_renumber]
      cases scan first line with
      | error error => rfl
      | ok found =>
          cases found with
          | none => rfl
          | some found => cases scanFrom (first + 1) _ <;> rfl

theorem scanAll_layout (layout : Layout old new) :
    scanAll new =
      (relined layout.number (scanAll old)).map (List.map (SourceLine.renumber layout.number)) := by
  refine layout.scanFrom_layout fun index => ?_
  rw [Nat.add_comm 1 index, Nat.add_comm 1]
  rfl

/-- **Layout does not matter.**  Blank lines and remarks may be inserted anywhere, any blanks
may be put in front of a line and gaps behind it.  The lines keep their order, each of them
can be found at its new number, and compiling the source gives the same program with the new
numbers, or the same error with the new numbers, down to the column of a quote without a
partner. -/
theorem compile_layout (aliases : Aliases) (layout : Layout old new) :
    StrictMono layout.number ∧
      (∀ index line, old[index]? = some line →
        ∃ wider, new[layout.number (index + 1) - 1]? = some wider ∧ Surrounds line wider) ∧
      Assembly.compile aliases new =
        (relined layout.number (Assembly.compile aliases old)).map
          (Program.renumber layout.number) := by
  refine ⟨layout.number_strictMono, fun index line found => layout.getElem?_position found, ?_⟩
  unfold Assembly.compile
  rw [layout.scanAll_layout]
  cases scanAll old with
  | error error => rfl
  | ok lines => exact Assembly.ofSourceLines_renumber layout.number aliases lines

/-- A name is declared twice. -/
def repeated : List String :=
  ["LABEL top", "PRINT", "LABEL top"]

/-- The same lines, indented by a wide blank and a tab, with a remark, an empty line and a
line end that was left behind. -/
def reflowed : Layout repeated
    ["# top", "\u3000LABEL top", "\x0b", "\tPRINT\r", "LABEL top  "] :=
  .insert "# top" (Or.inr ⟨[], [' ', 't', 'o', 'p'], rfl, List.all_eq_true.mp rfl⟩) <|
    .keep "LABEL top" "\u3000" "" (List.all_eq_true.mp rfl) (List.all_eq_true.mp rfl) <|
    .insert "\x0b" (Or.inl (List.all_eq_true.mp rfl)) <|
    .keep "PRINT" "\t" "\r" (List.all_eq_true.mp rfl) (List.all_eq_true.mp rfl) <|
    .keep "LABEL top" "" "  " (List.all_eq_true.mp rfl) (List.all_eq_true.mp rfl) .done

/-- A loop of three instructions. -/
def looping : List String :=
  ["WRITE n 3", "LABEL top", "READ n", "JNZ top"]

/-- The same lines with remarks, an empty line and blanks. -/
def respaced : Layout looping
    ["# loop", "  WRITE n 3", "LABEL top", "", "	READ n", "# again", "JNZ top "] :=
  .insert "# loop" (Or.inr ⟨[], [' ', 'l', 'o', 'o', 'p'], rfl, List.all_eq_true.mp rfl⟩) <|
    .keep "WRITE n 3" "  " "" (List.all_eq_true.mp rfl) (List.all_eq_true.mp rfl) <|
    .keep "LABEL top" "" "" (List.all_eq_true.mp rfl) (List.all_eq_true.mp rfl) <|
    .insert "" (Or.inl (List.all_eq_true.mp rfl)) <|
    .keep "READ n" "\t" "" (List.all_eq_true.mp rfl) (List.all_eq_true.mp rfl) <|
    .insert "# again" (Or.inr ⟨[], [' ', 'a', 'g', 'a', 'i', 'n'], rfl,
      List.all_eq_true.mp rfl⟩) <|
    .keep "JNZ top" "" " " (List.all_eq_true.mp rfl) (List.all_eq_true.mp rfl) .done

/-- The program of the loop, with its instructions on the given lines. -/
def loopingProgram (first second third : Nat) : Program where
  code := [⟨.ofOp .write [.register "n", .literal (.integer 3)], first⟩,
    ⟨.ofOp .read [.register "n"], second⟩, ⟨.ofOp .jumpNonzero [.target 1], third⟩]

/-- In the new layout the second declaration is on line five, and the first one on line two.
The instructions of the loop are the same and have moved to other lines. -/
theorem reflowed_compile :
    Assembly.compile .standard repeated = .error (.duplicateSymbol 3 1 .label "top") ∧
      Assembly.compile .standard
          ["# top", "\u3000LABEL top", "\x0b", "\tPRINT\r", "LABEL top  "] =
        .error (.duplicateSymbol 5 2 .label "top") ∧
      Assembly.compile .standard looping = .ok (loopingProgram 1 3 4) ∧
      Assembly.compile .standard
          ["# loop", "  WRITE n 3", "LABEL top", "", "\tREAD n", "# again", "JNZ top "] =
        .ok (loopingProgram 2 5 7) := by
  have refused : Assembly.compile .standard repeated =
      .error (.duplicateSymbol 3 1 .label "top") := by
    decide +kernel
  have compiled : Assembly.compile .standard looping = .ok (loopingProgram 1 3 4) := by
    decide +kernel
  have moved := (compile_layout .standard reflowed).2.2
  have kept := (compile_layout .standard respaced).2.2
  rw [refused] at moved
  rw [compiled] at kept
  exact ⟨refused, moved, compiled, kept⟩

end Layout
end CommandMachine
