import CommandMachine.Proofs.Words
import Mathlib.Data.String.Basic
namespace CommandMachine

/-!
# Words by bytes

A line may also be read byte by byte.  Gaps and quotes are single bytes, and a byte of a
longer character is none of them, so it is enough to compare bytes.  A word is then cut out
of the line between two places, and this makes sense only if no character is cut in two.

Reading by bytes comes to a place between two characters wherever reading by characters
stops, and no cut ever fails.  So both ways of reading give the same words, on any text.
-/

/-! ## Reading by bytes -/

/-- The bytes of a text in UTF-8. -/
def Text.bytes (text : String) : List UInt8 :=
  text.toUTF8.data.toList

/-- The bytes that separate words. -/
def Text.isGapByte (byte : UInt8) : Bool :=
  byte == 0x20 || byte == 0x09 || byte == 0x0a || byte == 0x0c || byte == 0x0d

def Literal.isQuoteByte (byte : UInt8) : Bool :=
  byte == 0x22 || byte == 0x27

/-- The text between two places that are counted in bytes.  There is none if a character would
be cut in two. -/
def Text.slice? (text : String) (start stop : Nat) : Option String :=
  if String.Pos.Raw.isValid text ⟨start⟩ && String.Pos.Raw.isValid text ⟨stop⟩ then
    some (String.Pos.Raw.extract text ⟨start⟩ ⟨stop⟩)
  else none

/-- The outcome of looking for the next word byte by byte.  Each tells the place behind what
was read. -/
inductive ByteScan where
  | finished (offset : Nat)
  /-- A word, unless it could not be cut out of the line. -/
  | word (word : Option String) (offset : Nat)
  | unterminated (column offset : Nat)
deriving DecidableEq

namespace ByteScan

/-- The first place from `offset` on whose byte is not to be kept. -/
def skipWhile (bytes : List UInt8) (keep : UInt8 → Bool) (offset : Nat) : Nat :=
  offset + ((bytes.drop offset).takeWhile keep).length

/-- Reads a quoted word whose opening quote stands at `start`. -/
def quotedWord (line : String) (quote : UInt8) (start : Nat) : ByteScan :=
  let bytes := Text.bytes line
  let closing := skipWhile bytes (· != quote) (start + 1)
  if closing < bytes.length then .word (Text.slice? line start (closing + 1)) (closing + 1)
  else .unterminated (start + 1) closing

def plainWord (line : String) (start : Nat) : ByteScan :=
  let stop := skipWhile (Text.bytes line) (fun byte => !Text.isGapByte byte) start
  .word (Text.slice? line start stop) stop

def next (line : String) (offset : Nat) : ByteScan :=
  let bytes := Text.bytes line
  let start := skipWhile bytes Text.isGapByte offset
  match bytes[start]? with
  | none => .finished start
  | some first =>
    if Literal.isQuoteByte first then quotedWord line first start else plainWord line start

/-- The words from `offset` on, and the column of a quote without a partner.  There is no rule
for a word that cannot be cut out. -/
inductive Reads (line : String) : Nat → List String → Option Nat → Prop where
  | finished {offset after : Nat} (read : next line offset = .finished after) :
      Reads line offset [] none
  | unterminated {offset column after : Nat} (read : next line offset = .unterminated column after) :
      Reads line offset [] (some column)
  | word {offset after : Nat} {word : String} {words : List String} {failure : Option Nat}
      (read : next line offset = .word (some word) after) (later : Reads line after words failure) :
      Reads line offset (word :: words) failure

end ByteScan

/-! ## The bytes of characters -/

/-- The bytes of characters in UTF-8. -/
def Text.encode (characters : List Char) : List UInt8 :=
  characters.flatMap String.utf8EncodeChar

/-- A test of bytes that gives for each byte of a character what a test of characters gives
for the character. -/
def Uniform (keep : UInt8 → Bool) (wanted : Char → Bool) : Prop :=
  ∀ character, ∀ byte ∈ String.utf8EncodeChar character, keep byte = wanted character

namespace Text

@[simp] theorem encode_cons (first : Char) (rest : List Char) :
    encode (first :: rest) = String.utf8EncodeChar first ++ encode rest := rfl

theorem encode_append (left right : List Char) :
    encode (left ++ right) = encode left ++ encode right :=
  List.flatMap_append

theorem bytes_eq_encode (text : String) : bytes text = encode text.toList := by
  have encoded : text.toByteArray = text.toList.utf8Encode := by
    rw [← String.toByteArray_ofList, String.ofList_toList]
  change text.toByteArray.data.toList = encode text.toList
  rw [encoded]
  exact List.toList_data_toByteArray

theorem length_encode (characters : List Char) :
    (encode characters).length = Scanner.byteWidth characters := by
  induction characters with
  | nil => rfl
  | cons first rest ih =>
      rw [encode_cons, List.length_append, String.length_utf8EncodeChar, ih]
      rfl

theorem utf8Len_eq_byteWidth (characters : List Char) :
    String.utf8Len characters = Scanner.byteWidth characters := by
  induction characters with
  | nil => rfl
  | cons first rest ih =>
      rw [String.utf8Len_cons, ih, Nat.add_comm]
      rfl

theorem takeWhile_encode {keep : UInt8 → Bool} {wanted : Char → Bool}
    (uniform : Uniform keep wanted) (characters : List Char) :
    (encode characters).takeWhile keep = encode (characters.takeWhile wanted) := by
  induction characters with
  | nil => rfl
  | cons first rest ih =>
      rw [encode_cons]
      cases kept : wanted first with
      | true =>
          have all : ∀ byte ∈ String.utf8EncodeChar first, keep byte = true := by
            intro byte member
            rw [uniform first byte member, kept]
          rw [List.takeWhile_append_of_pos all, ih, List.takeWhile_cons_of_pos kept, encode_cons]
      | false =>
          rw [List.takeWhile_cons_of_neg (by simp [kept])]
          cases bytes : String.utf8EncodeChar first with
          | nil => exact absurd bytes String.utf8EncodeChar_ne_nil
          | cons byte later =>
              have refused : keep byte = false := by
                rw [uniform first byte (bytes ▸ List.mem_cons_self), kept]
              rw [List.cons_append, List.takeWhile_cons_of_neg (by simp [refused])]
              rfl

/-- A short character is its own byte, and the bytes of a longer one are all large. -/
theorem byte_cases {character : Char} {byte : UInt8}
    (member : byte ∈ String.utf8EncodeChar character) :
    character.toNat < 128 ∧ byte.toNat = character.toNat ∨
      128 ≤ character.toNat ∧ 128 ≤ byte.toNat := by
  have code : character.toNat = character.val.toNat := rfl
  have large {byte : UInt8} {number : Nat} (low : 128 ≤ number) (high : number < 256)
      (same : byte = UInt8.ofNat number) : 128 ≤ byte.toNat := by
    rw [same, UInt8.toNat_ofNat', Nat.mod_eq_of_lt high]
    exact low
  rw [String.utf8EncodeChar.eq_1] at member
  rw [code]
  by_cases short : character.val.toNat ≤ 127
  · rw [if_pos short, List.mem_singleton] at member
    refine Or.inl ⟨by omega, ?_⟩
    rw [member, UInt8.toNat_ofNat', Nat.mod_eq_of_lt (by omega)]
  · rw [if_neg short] at member
    refine Or.inr ⟨by omega, ?_⟩
    repeat' split at member
    all_goals simp only [List.mem_cons, List.not_mem_nil, or_false] at member
    · rcases member with same | same <;> exact large (by omega) (by omega) same
    · rcases member with same | same | same <;> exact large (by omega) (by omega) same
    · rcases member with same | same | same | same <;> exact large (by omega) (by omega) same

/-- To look for a short character it is enough to look for its byte. -/
theorem uniform_beq (short : Char) (small : short.toNat < 128) :
    Uniform (· == UInt8.ofNat short.toNat) (· == short) := by
  intro character byte member
  have whole : (UInt8.ofNat short.toNat).toNat = short.toNat := by
    rw [UInt8.toNat_ofNat', Nat.mod_eq_of_lt (by omega)]
  rw [Bool.eq_iff_iff, beq_iff_eq, beq_iff_eq, ← UInt8.toNat_inj, whole, ← Char.toNat_inj]
  rcases byte_cases member with ⟨-, same⟩ | ⟨long, large⟩
  · rw [same]
  · omega

end Text

namespace Uniform

variable {keep other : UInt8 → Bool} {wanted alternative : Char → Bool}

theorem or (first : Uniform keep wanted) (second : Uniform other alternative) :
    Uniform (fun byte => keep byte || other byte)
      (fun character => wanted character || alternative character) := by
  intro character byte member
  exact congrArg₂ _ (first character byte member) (second character byte member)

theorem not (uniform : Uniform keep wanted) :
    Uniform (fun byte => !keep byte) (fun character => !wanted character) := by
  intro character byte member
  exact congrArg _ (uniform character byte member)

end Uniform

namespace Text

theorem uniform_isGapByte : Uniform isGapByte isGap :=
  ((((uniform_beq ' ' (by decide)).or (uniform_beq '\t' (by decide))).or
    (uniform_beq '\n' (by decide))).or (uniform_beq '\x0c' (by decide))).or
    (uniform_beq '\r' (by decide))

theorem uniform_isQuoteByte : Uniform Literal.isQuoteByte Literal.isQuote :=
  (uniform_beq '"' (by decide)).or (uniform_beq '\'' (by decide))

/-- A quote is a single byte. -/
theorem encode_of_isQuote {quote : Char} (quotes : Literal.isQuote quote = true) :
    String.utf8EncodeChar quote = [UInt8.ofNat quote.toNat] ∧ quote.utf8Size = 1 ∧
      quote.toNat < 128 := by
  simp only [Literal.isQuote, Bool.or_eq_true, beq_iff_eq] at quotes
  rcases quotes with rfl | rfl <;> exact ⟨rfl, rfl, by decide⟩

end Text

/-! ## The same places -/

namespace Scanner

/-- The scanner stands in the line, behind the characters `read`. -/
structure Stands (line : String) (read : List Char) (scanner : Scanner) : Prop where
  line_eq : line.toList = read ++ scanner.rest
  offset_eq : scanner.offset = byteWidth read

namespace Stands

variable {line : String} {read : List Char} {scanner : Scanner}

theorem start (line : String) : Stands line [] (ofLine line.toList) :=
  ⟨rfl, rfl⟩

/-- Going on behind some of the characters that are left. -/
theorem advance {middle behind : List Char} (stands : Stands line read scanner)
    (split : scanner.rest = middle ++ behind) :
    Stands line (read ++ middle) ⟨behind, scanner.offset + byteWidth middle⟩ where
  line_eq := by rw [stands.line_eq, split, List.append_assoc]
  offset_eq := by rw [stands.offset_eq, byteWidth_append]

theorem drop_bytes (stands : Stands line read scanner) :
    (Text.bytes line).drop scanner.offset = Text.encode scanner.rest := by
  rw [Text.bytes_eq_encode, stands.line_eq, Text.encode_append, stands.offset_eq,
    ← Text.length_encode, List.drop_left]

theorem length_bytes (stands : Stands line read scanner) :
    (Text.bytes line).length = scanner.offset + byteWidth scanner.rest := by
  rw [Text.bytes_eq_encode, Text.length_encode, stands.line_eq, byteWidth_append, stands.offset_eq]

theorem isValid (stands : Stands line read scanner) :
    String.Pos.Raw.isValid line ⟨scanner.offset⟩ = true := by
  rw [String.Pos.Raw.isValid_eq_true_iff, String.Pos.Raw.isValid_iff_exists_append]
  refine ⟨String.ofList read, String.ofList scanner.rest, ?_, ?_⟩
  · rw [← String.ofList_append, ← stands.line_eq, String.ofList_toList]
  · rw [stands.offset_eq, ← Text.utf8Len_eq_byteWidth, ← String.utf8ByteSize_ofList]
    rfl

/-- Both ways of reading stop at the same place. -/
theorem skipWhile {keep : UInt8 → Bool} {wanted : Char → Bool} (stands : Stands line read scanner)
    (uniform : Uniform keep wanted) :
    ByteScan.skipWhile (Text.bytes line) keep scanner.offset =
        (scanner.skipWhile wanted).offset ∧
      Stands line (read ++ scanner.rest.takeWhile wanted) (scanner.skipWhile wanted) := by
  constructor
  · rw [ByteScan.skipWhile, stands.drop_bytes, Text.takeWhile_encode uniform, Text.length_encode]
    rfl
  · exact stands.advance List.takeWhile_append_dropWhile.symm

/-- What lies between two such places can be cut out of the line. -/
theorem slice? {middle : List Char} {after : Scanner} (stands : Stands line read scanner)
    (later : Stands line (read ++ middle) after) :
    Text.slice? line scanner.offset after.offset = some (String.ofList middle) := by
  have whole : line = String.ofList (read ++ middle ++ after.rest) := by
    rw [← later.line_eq, String.ofList_toList]
  have cut := String.extract_of_valid read middle after.rest
  rw [← whole, Text.utf8Len_eq_byteWidth, Text.utf8Len_eq_byteWidth, ← byteWidth_append,
    ← stands.offset_eq, ← later.offset_eq] at cut
  rw [Text.slice?, stands.isValid, later.isValid, cut]
  rfl

end Stands
end Scanner

/-! ## The same words -/

namespace Scanner

/-- Both ways of reading have found the same, and behind a word they stand at the same
place. -/
inductive InStep (line : String) : Scan → ByteScan → Prop where
  | finished (after : Scanner) : InStep line (.finished after) (.finished after.offset)
  | unterminated (column : Nat) (after : Scanner) :
      InStep line (.unterminated column after) (.unterminated column after.offset)
  | word (word : List Char) {read : List Char} {after : Scanner} (stands : Stands line read after) :
      InStep line (.word word after) (.word (some (String.ofList word)) after.offset)

namespace Stands

variable {line : String} {read : List Char} {scanner : Scanner}

theorem exists_byte {first : Char} {rest : List Char} {offset : Nat}
    (stands : Stands line read ⟨first :: rest, offset⟩) :
    ∃ byte ∈ String.utf8EncodeChar first, (Text.bytes line)[offset]? = some byte := by
  have left := stands.drop_bytes
  cases bytes : String.utf8EncodeChar first with
  | nil => exact absurd bytes String.utf8EncodeChar_ne_nil
  | cons byte later =>
      refine ⟨byte, List.mem_cons_self, ?_⟩
      rw [← List.head?_drop, left, Text.encode_cons, bytes]
      rfl

theorem no_byte {offset : Nat} (stands : Stands line read ⟨[], offset⟩) :
    (Text.bytes line)[offset]? = none := by
  rw [← List.head?_drop, stands.drop_bytes]
  rfl

theorem inStep_quotedWord {quote : Char} {rest : List Char} {offset : Nat}
    (stands : Stands line read ⟨quote :: rest, offset⟩) (quotes : Literal.isQuote quote = true) :
    InStep line (quotedWord quote rest offset)
      (ByteScan.quotedWord line (UInt8.ofNat quote.toNat) offset) := by
  rcases Text.encode_of_isQuote quotes with ⟨-, single, small⟩
  have inside : Stands line (read ++ [quote]) ⟨rest, offset + 1⟩ := by
    have moved := stands.advance (show quote :: rest = [quote] ++ rest from rfl)
    rwa [show byteWidth [quote] = 1 from single] at moved
  have uniform : Uniform (· != UInt8.ofNat quote.toNat) (· != quote) :=
    (Text.uniform_beq quote small).not
  rcases inside.skipWhile uniform with ⟨same, stops⟩
  simp only [Scanner.skipWhile] at same stops
  unfold quotedWord ByteScan.quotedWord
  simp only [same, single]
  cases closed : rest.dropWhile (· != quote) with
  | nil =>
      rw [closed] at stops
      have size : (Text.bytes line).length = offset + 1 + byteWidth (rest.takeWhile (· != quote)) :=
        stops.length_bytes
      rw [size, if_neg (Nat.lt_irrefl _)]
      exact .unterminated _ ⟨[], _⟩
  | cons closing behind =>
      have partner : closing = quote := by simpa using dropWhile_stops closed
      rw [closed, partner] at stops
      have after := stops.advance (show quote :: behind = [quote] ++ behind from rfl)
      rw [show byteWidth [quote] = 1 from single, List.append_assoc, List.append_assoc] at after
      have inside : offset + 1 + byteWidth (rest.takeWhile (· != quote)) <
          (Text.bytes line).length := by
        rw [stops.length_bytes]
        exact Nat.lt_add_of_pos_right (Nat.lt_of_lt_of_le quote.utf8Size_pos (Nat.le_add_right _ _))
      rw [if_pos inside, partner]
      dsimp only
      rw [single, stands.slice? after]
      exact .word _ after

theorem inStep_plainWord (stands : Stands line read scanner) :
    InStep line scanner.plainWord (ByteScan.plainWord line scanner.offset) := by
  rcases stands.skipWhile Text.uniform_isGapByte.not with ⟨same, stops⟩
  rw [ByteScan.plainWord, same, stands.slice? stops]
  exact .word _ stops

theorem inStep_next (stands : Stands line read scanner) :
    InStep line scanner.next (ByteScan.next line scanner.offset) := by
  rcases stands.skipWhile Text.uniform_isGapByte with ⟨same, stops⟩
  change Stands line _ scanner.skipGaps at stops
  change _ = scanner.skipGaps.offset at same
  unfold next ByteScan.next
  dsimp only
  rw [same]
  generalize scanner.skipGaps = start at stops
  rcases start with ⟨rest, offset⟩
  cases rest with
  | nil =>
      rw [stops.no_byte]
      exact .finished _
  | cons first rest =>
      rcases stops.exists_byte with ⟨byte, member, found⟩
      rw [found]
      dsimp only
      rw [Text.uniform_isQuoteByte first byte member]
      cases quotes : Literal.isQuote first with
      | true =>
          rw [(Text.encode_of_isQuote quotes).1, List.mem_singleton] at member
          rw [member]
          exact stops.inStep_quotedWord quotes
      | false => exact stops.inStep_plainWord

/-- Reading by bytes never cuts a character in two, and finds the same words. -/
theorem reads_words {read : List Char} {scanner : Scanner} (stands : Stands line read scanner) :
    ByteScan.Reads line scanner.offset (scanner.words.1.map String.ofList) scanner.words.2 := by
  have step := stands.inStep_next
  generalize found : scanner.next = scan at step
  generalize again : ByteScan.next line scanner.offset = byteScan at step
  cases step with
  | finished after =>
      rw [words_of_finished found]
      exact .finished again
  | unterminated column after =>
      rw [words_of_unterminated found]
      exact .unterminated again
  | word word later =>
      have := next_shorter found
      rw [words_of_word found]
      exact .word again later.reads_words
termination_by scanner.rest.length

end Stands

/-- **The words of a line.**  A line is read to its end if and only if it consists of words
and gaps, where only a word in quotes may touch the next one, and then exactly these words are
found.  Otherwise it consists of such words up to a quote that has no partner, and this quote is
reported.  Reading byte by byte gives the same on every text: no character is ever cut in
two. -/
theorem words_grammar (line : String) :
    (∀ words, (ofLine line.toList).words = (words, none) ↔ Spells line.toList words) ∧
      (∀ words column,
        (ofLine line.toList).words = (words, some column) ↔ BreaksOff line.toList words column) ∧
      ByteScan.Reads line 0 ((ofLine line.toList).words.1.map String.ofList)
        (ofLine line.toList).words.2 :=
  ⟨words_eq_iff_spells line.toList, words_eq_iff_breaksOff line.toList,
    (Stands.start line).reads_words⟩

/-- A quote inside a word is part of it, and a quote without a partner is reported by the byte
at which it stands. -/
example : (ofLine "é\"x\" \"a 'b\"c 'é".toList).words =
    (["é\"x\"".toList, "\"a 'b\"".toList, ['c']], some 15) := by
  decide +kernel

end Scanner
end CommandMachine
