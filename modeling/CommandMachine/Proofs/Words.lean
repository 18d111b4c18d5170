import CommandMachine.Proofs.Layout
namespace CommandMachine
namespace Scanner

/-!
# The grammar of a line

A line is read from the left, one word after the other.  This module says without a reader
which words a line has: it is cut into words with gaps around them, and a word may touch
the next one only if it stands in quotes.  Every line can be cut in this way, up to its end or
up to a quote that has no partner, and reading finds exactly the words of the cut.

A quote inside a plain word means nothing, and one kind of quote means nothing between two
quotes of the other kind.  So the cut is not decided by looking for gaps alone.
-/

/-! ## Words and the gaps behind them -/

/-- Two quotes of one kind, and between them only other characters. -/
def IsQuoted (word : List Char) : Prop :=
  ∃ quote content, Literal.isQuote quote = true ∧ quote ∉ content ∧
    word = quote :: (content ++ [quote])

/-- Characters without a gap, the first of which is no quote. -/
def IsPlain (word : List Char) : Prop :=
  ∃ first rest, word = first :: rest ∧ Literal.isQuote first = false ∧
    ∀ character ∈ word, Text.isGap character = false

/-- A quote that does not occur again. -/
def IsUnclosed (text : List Char) : Prop :=
  ∃ quote content, Literal.isQuote quote = true ∧ quote ∉ content ∧ text = quote :: content

/-- A word and the gaps behind it. -/
structure SpacedWord where
  word : List Char
  gap : List Char
  isWord : IsQuoted word ∨ IsPlain word
  isGap : ∀ character ∈ gap, Text.isGap character = true

/-- The word ends before whatever comes next: there is a gap, or the word ends in a quote. -/
def SpacedWord.IsParted (part : SpacedWord) : Prop :=
  part.gap = [] → IsQuoted part.word

/-- Words one after the other, with their gaps. -/
def spaced (parts : List SpacedWord) : List Char :=
  parts.flatMap fun part => part.word ++ part.gap

/-- The line consists of the words and of gaps before, between and behind them.  The last
word needs no gap. -/
def Spells (line : List Char) (words : List (List Char)) : Prop :=
  ∃ lead parts, (∀ character ∈ lead, Text.isGap character = true) ∧
    (∀ part ∈ parts.dropLast, SpacedWord.IsParted part) ∧
    line = lead ++ spaced parts ∧ words = parts.map SpacedWord.word

/-- Behind the words the line goes on with a quote that has no partner, at a column that is
counted in bytes from one. -/
def BreaksOff (line : List Char) (words : List (List Char)) (column : Nat) : Prop :=
  ∃ lead parts unclosed, (∀ character ∈ lead, Text.isGap character = true) ∧
    (∀ part ∈ parts, SpacedWord.IsParted part) ∧ IsUnclosed unclosed ∧
    line = lead ++ spaced parts ++ unclosed ∧ words = parts.map SpacedWord.word ∧
    column = byteWidth (lead ++ spaced parts) + 1

@[simp] theorem spaced_nil : spaced [] = [] := rfl

@[simp] theorem spaced_cons (part : SpacedWord) (parts : List SpacedWord) :
    spaced (part :: parts) = part.word ++ (part.gap ++ spaced parts) := by
  rw [spaced, List.flatMap_cons, List.append_assoc]
  rfl

theorem spaced_append (earlier later : List SpacedWord) :
    spaced (earlier ++ later) = spaced earlier ++ spaced later :=
  List.flatMap_append

theorem byteWidth_append (left right : List Char) :
    byteWidth (left ++ right) = byteWidth left + byteWidth right := by
  induction left with
  | nil => exact (Nat.zero_add _).symm
  | cons first rest ih =>
      change first.utf8Size + byteWidth (rest ++ right) = first.utf8Size + byteWidth rest + _
      rw [ih, Nat.add_assoc]

/-! ## One word -/

/-- Whatever comes next is a gap, if anything does. -/
def EndsWord (behind : List Char) : Prop :=
  ∀ first rest, behind = first :: rest → Text.isGap first = true

theorem not_isGap_of_isQuote {quote : Char} (quotes : Literal.isQuote quote = true) :
    Text.isGap quote = false := by
  apply Bool.eq_false_iff.mpr
  intro gap
  have different := Text.ne_quote_of_isGap gap quotes
  simp at different

theorem span_of_all {keep : Char → Bool} {characters behind : List Char}
    (all : ∀ character ∈ characters, keep character = true)
    (stops : ∀ first rest, behind = first :: rest → keep first = false) :
    (characters ++ behind).takeWhile keep = characters ∧
      (characters ++ behind).dropWhile keep = behind := by
  rw [List.takeWhile_append_of_pos all, List.dropWhile_append_of_pos all]
  cases behind with
  | nil => simp
  | cons first rest => simp [stops first rest rfl]

/-- Gaps in front of a line are passed over. -/
theorem next_after_gaps {lead : List Char}
    (gaps : ∀ character ∈ lead, Text.isGap character = true) (rest : List Char) (offset : Nat) :
    next ⟨lead ++ rest, offset⟩ = next ⟨rest, offset + byteWidth lead⟩ := by
  have same : skipGaps ⟨lead ++ rest, offset⟩ = skipGaps ⟨rest, offset + byteWidth lead⟩ := by
    simp only [skipGaps, skipWhile, List.dropWhile_append_of_pos gaps,
      List.takeWhile_append_of_pos gaps, byteWidth_append, Nat.add_assoc]
  rw [next, next, same]

/-- A scanner that stands at a character that is no gap. -/
theorem skipGaps_of_boundary {first : Char} (boundary : Text.isGap first = false)
    (rest : List Char) (offset : Nat) :
    skipGaps ⟨first :: rest, offset⟩ = ⟨first :: rest, offset⟩ := by
  simp [skipGaps, skipWhile, boundary, byteWidth]

theorem next_of_isQuoted {word : List Char} (quoted : IsQuoted word) (behind : List Char)
    (offset : Nat) :
    next ⟨word ++ behind, offset⟩ = .word word ⟨behind, offset + byteWidth word⟩ := by
  rcases quoted with ⟨quote, content, quotes, inside, rfl⟩
  have others : ∀ character ∈ content, (character != quote) = true := by
    intro character member
    rw [bne_iff_ne]
    rintro rfl
    exact inside member
  have stops : ∀ first rest, quote :: behind = first :: rest → (first != quote) = false := by
    rintro first rest same
    cases same
    exact bne_self_eq_false quote
  rcases span_of_all others stops with ⟨taken, dropped⟩
  have split : quote :: (content ++ [quote]) ++ behind = quote :: (content ++ quote :: behind) := by
    simp
  have width : byteWidth (quote :: (content ++ [quote])) =
      quote.utf8Size + (byteWidth content + quote.utf8Size) := by
    rw [show byteWidth (quote :: (content ++ [quote])) =
      quote.utf8Size + byteWidth (content ++ [quote]) from rfl, byteWidth_append]
    rfl
  rw [split, next, skipGaps_of_boundary (not_isGap_of_isQuote quotes)]
  simp only [if_pos quotes, quotedWord, taken, dropped, width, Nat.add_assoc]

theorem next_of_isUnclosed {text : List Char} (unclosed : IsUnclosed text) (offset : Nat) :
    ∃ after, next ⟨text, offset⟩ = .unterminated (offset + 1) after := by
  rcases unclosed with ⟨quote, content, quotes, never, rfl⟩
  have endless : content.dropWhile (· != quote) = [] := by
    apply dropWhile_of_all
    intro character member
    rw [bne_iff_ne]
    rintro rfl
    exact never member
  rw [next, skipGaps_of_boundary (not_isGap_of_isQuote quotes)]
  simp only [if_pos quotes, quotedWord, endless]
  exact ⟨_, rfl⟩

theorem next_of_isPlain {word behind : List Char} (plain : IsPlain word)
    (ends : EndsWord behind) (offset : Nat) :
    next ⟨word ++ behind, offset⟩ = .word word ⟨behind, offset + byteWidth word⟩ := by
  rcases plain with ⟨first, rest, rfl, unquoted, solid⟩
  have kept : ∀ character ∈ first :: rest, (!Text.isGap character) = true := by
    intro character member
    rw [solid character member]
    rfl
  have stops : ∀ next later, behind = next :: later → (!Text.isGap next) = false := by
    intro next later same
    rw [ends next later same]
    rfl
  rcases span_of_all kept stops with ⟨taken, dropped⟩
  rw [List.cons_append] at taken dropped ⊢
  rw [next, skipGaps_of_boundary (solid first List.mem_cons_self)]
  simp only [unquoted, Bool.false_eq_true, if_false, plainWord, skipWhile, taken, dropped]

/-! ## All words -/

theorem words_congr {left right : Scanner} (same : left.next = right.next) :
    left.words = right.words := by
  cases read : right.next with
  | finished after => rw [words_of_finished read, words_of_finished (same.trans read)]
  | unterminated column after =>
      rw [words_of_unterminated read, words_of_unterminated (same.trans read)]
  | word word after => rw [words_of_word read, words_of_word (same.trans read)]

theorem words_after_gaps {lead : List Char}
    (gaps : ∀ character ∈ lead, Text.isGap character = true) (rest : List Char) (offset : Nat) :
    words ⟨lead ++ rest, offset⟩ = words ⟨rest, offset + byteWidth lead⟩ :=
  words_congr (next_after_gaps gaps rest offset)

theorem words_nil (offset : Nat) : words ⟨[], offset⟩ = ([], none) :=
  words_of_finished (show next ⟨[], offset⟩ = .finished ⟨[], offset⟩ from rfl)

/-- A word whose gap is not empty or that stands in quotes is read by itself. -/
theorem next_of_isParted {part : SpacedWord} (parted : part.IsParted) (behind : List Char)
    (offset : Nat) :
    next ⟨part.word ++ (part.gap ++ behind), offset⟩ =
      .word part.word ⟨part.gap ++ behind, offset + byteWidth part.word⟩ := by
  rcases part.isWord with quoted | plain
  · exact next_of_isQuoted quoted _ offset
  · cases empty : part.gap with
    | nil => exact next_of_isQuoted (parted empty) _ offset
    | cons first rest =>
        apply next_of_isPlain plain
        intro next later same
        cases same
        exact part.isGap first (empty ▸ List.mem_cons_self)

/-- Words that end before whatever comes next are read first, and then the rest is read. -/
theorem words_of_parted {lead : List Char} {parts : List SpacedWord}
    (gaps : ∀ character ∈ lead, Text.isGap character = true)
    (parted : ∀ part ∈ parts, part.IsParted) (behind : List Char) (offset : Nat) :
    words ⟨lead ++ spaced parts ++ behind, offset⟩ =
      (parts.map SpacedWord.word ++
          (words ⟨behind, offset + byteWidth (lead ++ spaced parts)⟩).1,
        (words ⟨behind, offset + byteWidth (lead ++ spaced parts)⟩).2) := by
  induction parts generalizing lead offset with
  | nil =>
      rw [spaced_nil, List.append_nil, words_after_gaps gaps]
      rfl
  | cons part parts ih =>
      have split : lead ++ spaced (part :: parts) ++ behind =
          lead ++ (part.word ++ (part.gap ++ (spaced parts ++ behind))) := by
        simp
      have width : offset + byteWidth (lead ++ spaced (part :: parts)) =
          offset + byteWidth lead + byteWidth part.word + byteWidth (part.gap ++ spaced parts) := by
        simp only [spaced_cons, byteWidth_append]
        omega
      have read := next_of_isParted (parted part List.mem_cons_self) (spaced parts ++ behind)
        (offset + byteWidth lead)
      have later := ih part.isGap (fun other member => parted other (List.mem_cons_of_mem _ member))
        (offset + byteWidth lead + byteWidth part.word)
      rw [List.append_assoc] at later
      rw [split, words_after_gaps gaps, words_of_word read, later, width]
      rfl

/-- The last word of a line needs no gap. -/
theorem words_of_last (part : SpacedWord) (offset : Nat) :
    words ⟨part.word ++ part.gap, offset⟩ = ([part.word], none) := by
  have read : next ⟨part.word ++ part.gap, offset⟩ =
      .word part.word ⟨part.gap, offset + byteWidth part.word⟩ := by
    rcases part.isWord with quoted | plain
    · exact next_of_isQuoted quoted _ offset
    · apply next_of_isPlain plain
      intro first rest same
      exact part.isGap first (same ▸ List.mem_cons_self)
  have blank : words ⟨part.gap, offset + byteWidth part.word⟩ = ([], none) := by
    rw [← List.append_nil part.gap, words_after_gaps part.isGap, words_nil]
  rw [words_of_word read, blank]

/-- Reading finds the words that a line spells. -/
theorem words_of_spells {line : List Char} {words : List (List Char)} (spells : Spells line words)
    (offset : Nat) : Scanner.words ⟨line, offset⟩ = (words, none) := by
  rcases spells with ⟨lead, parts, gaps, parted, rfl, rfl⟩
  rcases List.eq_nil_or_concat parts with rfl | ⟨earlier, last, rfl⟩
  · rw [spaced_nil, words_after_gaps gaps, words_nil]
    rfl
  · rw [List.concat_eq_append] at parted ⊢
    rw [List.dropLast_concat] at parted
    have split : lead ++ spaced (earlier ++ [last]) =
        lead ++ spaced earlier ++ (last.word ++ last.gap) := by
      simp [spaced_append]
    rw [split, words_of_parted gaps parted, words_of_last, List.map_append]
    rfl

/-- Reading finds the words in front of a quote that has no partner, and its column. -/
theorem words_of_breaksOff {line : List Char} {words : List (List Char)} {column : Nat}
    (breaks : BreaksOff line words column) :
    (ofLine line).words = (words, some column) := by
  rcases breaks with ⟨lead, parts, text, gaps, parted, unclosed, rfl, rfl, rfl⟩
  rcases next_of_isUnclosed unclosed (0 + byteWidth (lead ++ spaced parts)) with ⟨after, read⟩
  rw [ofLine, words_of_parted gaps parted, words_of_unterminated read, List.append_nil,
    Nat.zero_add]

/-! ## Every line can be cut into words -/

/-- How a line can go on at a place where a word may begin. -/
inductive Front : List Char → Prop where
  | blank : Front []
  | quoted {word : List Char} (quoted : IsQuoted word) (behind : List Char) :
      Front (word ++ behind)
  | unclosed {text : List Char} (unclosed : IsUnclosed text) : Front text
  | plain {word behind : List Char} (plain : IsPlain word) (ends : EndsWord behind) :
      Front (word ++ behind)

theorem takeWhile_all (keep : Char → Bool) (characters : List Char) :
    ∀ character ∈ characters.takeWhile keep, keep character = true :=
  List.all_eq_true.mp List.all_takeWhile

theorem dropWhile_stops {keep : Char → Bool} {characters rest : List Char} {first : Char}
    (left : characters.dropWhile keep = first :: rest) : keep first = false := by
  have stopped := List.head?_dropWhile_not keep characters
  rw [left] at stopped
  simpa using stopped

theorem front_of_isQuote {quote : Char} (quotes : Literal.isQuote quote = true)
    (rest : List Char) : Front (quote :: rest) := by
  have whole : rest.takeWhile (· != quote) ++ rest.dropWhile (· != quote) = rest :=
    List.takeWhile_append_dropWhile
  have inside : quote ∉ rest.takeWhile (· != quote) := by
    intro member
    have different := takeWhile_all _ _ quote member
    simp at different
  cases closed : rest.dropWhile (· != quote) with
  | nil =>
      rw [closed, List.append_nil] at whole
      exact .unclosed ⟨quote, rest, quotes, whole ▸ inside, rfl⟩
  | cons closing behind =>
      have same : closing = quote := by simpa using dropWhile_stops closed
      rw [closed, same] at whole
      have cut : quote :: rest =
          quote :: (rest.takeWhile (· != quote) ++ [quote]) ++ behind := by
        rw [List.cons_append, List.append_assoc, List.singleton_append, whole]
      rw [cut]
      exact .quoted ⟨quote, _, quotes, inside, rfl⟩ behind

theorem front_of_boundary {first : Char} (boundary : Text.isGap first = false)
    (rest : List Char) : Front (first :: rest) := by
  cases quotes : Literal.isQuote first with
  | true => exact front_of_isQuote quotes rest
  | false =>
      have whole : (first :: rest).takeWhile (fun character => !Text.isGap character) ++
          (first :: rest).dropWhile (fun character => !Text.isGap character) = first :: rest :=
        List.takeWhile_append_dropWhile
      rw [← whole]
      apply Front.plain
      · refine ⟨first, rest.takeWhile fun character => !Text.isGap character, ?_, quotes, ?_⟩
        · simp [boundary]
        · intro character member
          simpa using takeWhile_all _ _ character member
      · intro next later left
        simpa using dropWhile_stops left

/-- Behind its first gaps a line goes on in one of four ways. -/
theorem exists_front (line : List Char) :
    ∃ lead rest, (∀ character ∈ lead, Text.isGap character = true) ∧
      line = lead ++ rest ∧ Front rest := by
  refine ⟨line.takeWhile Text.isGap, line.dropWhile Text.isGap, takeWhile_all _ _,
    List.takeWhile_append_dropWhile.symm, ?_⟩
  cases left : line.dropWhile Text.isGap with
  | nil => exact .blank
  | cons first rest => exact front_of_boundary (dropWhile_stops left) rest

/-- No word begins with a gap. -/
theorem exists_boundary (part : SpacedWord) :
    ∃ first rest, part.word = first :: rest ∧ Text.isGap first = false := by
  rcases part.isWord with ⟨quote, content, quotes, -, same⟩ | ⟨first, rest, same, -, solid⟩
  · exact ⟨quote, _, same, not_isGap_of_isQuote quotes⟩
  · exact ⟨first, rest, same, solid first (same ▸ List.mem_cons_self)⟩

/-- A line up to its end, or up to a quote that has no partner. -/
def IsCut (line : List Char) : Prop :=
  (∃ words, Spells line words) ∨ ∃ words column, BreaksOff line words column

/-- What comes next begins with no gap. -/
def BeginsWord (behind : List Char) : Prop :=
  ∃ first rest, behind = first :: rest ∧ Text.isGap first = false

theorem beginsWord_spaced (part : SpacedWord) (parts : List SpacedWord) :
    BeginsWord (spaced (part :: parts)) := by
  rcases exists_boundary part with ⟨first, rest, same, boundary⟩
  exact ⟨first, rest ++ (part.gap ++ spaced parts), by rw [spaced_cons, same]; rfl, boundary⟩

theorem beginsWord_unclosed {text : List Char} (unclosed : IsUnclosed text)
    (parts : List SpacedWord) : BeginsWord (spaced parts ++ text) := by
  cases parts with
  | nil =>
      rcases unclosed with ⟨quote, content, quotes, -, rfl⟩
      exact ⟨quote, content, rfl, not_isGap_of_isQuote quotes⟩
  | cons part parts =>
      rcases beginsWord_spaced part parts with ⟨first, rest, same, boundary⟩
      exact ⟨first, rest ++ text, by rw [same]; rfl, boundary⟩

/-- A plain word that ends at a gap has that gap behind it, if anything but a gap follows. -/
theorem isParted_of_ends (part : SpacedWord) {behind : List Char}
    (ends : IsQuoted part.word ∨ EndsWord (part.gap ++ behind)) (begins : BeginsWord behind) :
    part.IsParted := by
  intro empty
  refine ends.resolve_right fun ended => ?_
  rcases begins with ⟨first, rest, same, boundary⟩
  rw [empty, List.nil_append] at ended
  rw [ended first rest same] at boundary
  cases boundary

/-- What is cut behind a word gives the gap of that word and all later words. -/
theorem isCut_of_word {lead word behind : List Char}
    (gaps : ∀ character ∈ lead, Text.isGap character = true) (isWord : IsQuoted word ∨ IsPlain word)
    (ends : IsQuoted word ∨ EndsWord behind) (cut : IsCut behind) :
    IsCut (lead ++ (word ++ behind)) := by
  rcases cut with ⟨_, inner, parts, innerGaps, parted, rfl, -⟩ |
    ⟨_, _, inner, parts, text, innerGaps, parted, unclosed, rfl, -, -⟩
  · let part : SpacedWord := ⟨word, inner, isWord, innerGaps⟩
    refine Or.inl ⟨_, lead, part :: parts, gaps, ?_, by rw [spaced_cons], rfl⟩
    cases parts with
    | nil => simp
    | cons second later =>
        intro other member
        rcases List.mem_cons.mp member with rfl | member
        · exact isParted_of_ends part ends (beginsWord_spaced second later)
        · exact parted other member
  · let part : SpacedWord := ⟨word, inner, isWord, innerGaps⟩
    rw [List.append_assoc] at ends
    refine Or.inr ⟨_, _, lead, part :: parts, text, gaps, ?_, unclosed, ?_, rfl, rfl⟩
    · intro other member
      rcases List.mem_cons.mp member with rfl | member
      · exact isParted_of_ends part ends (beginsWord_unclosed unclosed parts)
      · exact parted other member
    · rw [spaced_cons]
      simp [part]

theorem length_lt_of_word {word : List Char} (isWord : IsQuoted word ∨ IsPlain word)
    (lead behind : List Char) : behind.length < (lead ++ (word ++ behind)).length := by
  have positive : 0 < word.length := by
    rcases isWord with ⟨quote, content, -, -, rfl⟩ | ⟨first, rest, rfl, -, -⟩ <;> simp
  simp only [List.length_append]
  omega

/-- Every line consists of words and gaps, up to its end or up to a quote without a partner. -/
theorem isCut (line : List Char) : IsCut line := by
  induction size : line.length using Nat.strong_induction_on generalizing line with
  | _ size ih =>
      subst size
      rcases exists_front line with ⟨lead, rest, gaps, rfl, front⟩
      cases front with
      | blank => exact Or.inl ⟨[], lead, [], gaps, by simp, by simp, rfl⟩
      | unclosed unclosed =>
          exact Or.inr ⟨[], _, lead, [], rest, gaps, by simp, unclosed, by simp, rfl, rfl⟩
      | @quoted word quoted behind =>
          have cut := ih _ (length_lt_of_word (Or.inl quoted) lead behind) behind rfl
          exact isCut_of_word gaps (Or.inl quoted) (Or.inl quoted) cut
      | @plain word behind plain ends =>
          have cut := ih _ (length_lt_of_word (Or.inr plain) lead behind) behind rfl
          exact isCut_of_word gaps (Or.inr plain) (Or.inr ends) cut

/-- A line is read to its end exactly if it consists of words and gaps, and then its words
are found. -/
theorem words_eq_iff_spells (line : List Char) (words : List (List Char)) :
    (ofLine line).words = (words, none) ↔ Spells line words := by
  constructor
  · intro read
    rcases isCut line with ⟨found, spells⟩ | ⟨found, column, breaks⟩
    · have same := read.symm.trans (words_of_spells spells 0)
      cases same
      exact spells
    · cases read.symm.trans (words_of_breaksOff breaks)
  · intro spells
    exact words_of_spells spells 0

/-- Reading fails exactly at a quote that has no partner. -/
theorem words_eq_iff_breaksOff (line : List Char) (words : List (List Char)) (column : Nat) :
    (ofLine line).words = (words, some column) ↔ BreaksOff line words column := by
  constructor
  · intro read
    rcases isCut line with ⟨found, spells⟩ | ⟨found, place, breaks⟩
    · cases read.symm.trans (words_of_spells spells 0)
    · have same := read.symm.trans (words_of_breaksOff breaks)
      cases same
      exact breaks
  · exact words_of_breaksOff

end Scanner
end CommandMachine
