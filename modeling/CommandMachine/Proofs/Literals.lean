import CommandMachine.Proofs.Decoding
import Mathlib.Data.Nat.Digits.Defs
namespace CommandMachine

/-!
# What a word stands for

Whether a word is text, an integer, a float, a mistake or the name of a register is
decided by tests that overlap: for quotes at both ends, for signs in front, for digits
and for what a float may look like.  Here each answer is described by the characters of
the word alone.  A number that is too large for an integer never becomes a float in this
way, and no word that begins like a number is the name of a register.

How the digits, the point and the power of ten of a float are read is left to
`Decimal.read?`, of which nothing is used here.
-/

/-! ## Rows of digits -/

namespace Text

/-- One digit or more, and nothing else. -/
def IsRow (digits : List Char) : Prop :=
  digits ≠ [] ∧ ∀ digit ∈ digits, '0' ≤ digit ∧ digit ≤ '9'

/-- The number that digits stand for in the decimal system, where the last digit counts
ones, the one before it tens, and so on. -/
def decimal (digits : List Char) : Nat :=
  Nat.ofDigits 10 (digits.reverse.map digitValue)

theorem isDigit_iff {character : Char} :
    isDigit character = true ↔ '0' ≤ character ∧ character ≤ '9' := by
  rw [isDigit, Bool.and_eq_true, decide_eq_true_iff, decide_eq_true_iff]

theorem digitsValue_eq_decimal (digits : List Char) : digitsValue digits = decimal digits := by
  rw [digitsValue, decimal, Nat.ofDigits_eq_foldr, List.foldr_map, List.foldl_eq_foldr_reverse]
  congr 1
  funext digit value
  exact Nat.add_comm _ _

theorem readNat?_eq_some_iff {digits : List Char} {value : Nat} :
    readNat? digits = some value ↔ IsRow digits ∧ decimal digits = value := by
  have row : (!digits.isEmpty && digits.all isDigit) = true ↔ IsRow digits := by
    simp only [Bool.and_eq_true, Bool.not_eq_true', List.isEmpty_eq_false_iff, List.all_eq_true,
      isDigit_iff, IsRow]
  rw [readNat?, digitsValue_eq_decimal]
  by_cases isRow : IsRow digits
  · rw [if_pos (row.mpr isRow), Option.some.injEq, and_iff_right isRow]
  · rw [if_neg (mt row.mp isRow)]
    exact iff_of_false nofun fun both => isRow both.1

theorem isRow_toDigits (number : Nat) : IsRow (Nat.toDigits 10 number) := by
  refine ⟨Nat.toDigits_ne_nil, fun digit member => ?_⟩
  have isDigit := Nat.isDigit_of_mem_toDigits (by decide) (by decide) member
  simp only [Char.isDigit, Bool.and_eq_true, decide_eq_true_iff] at isDigit
  exact isDigit

theorem decimal_toDigits (number : Nat) : decimal (Nat.toDigits 10 number) = number := by
  rw [← digitsValue_eq_decimal]
  exact Nat.ofDigitChars_ten_toDigits

end Text

namespace Literal

/-! ## Integers -/

/-- The number that a row of digits with at most one sign in front of it stands for. -/
inductive Denotes : List Char → Int → Prop where
  | plain {digits : List Char} (row : Text.IsRow digits) : Denotes digits (Text.decimal digits)
  | positive {digits : List Char} (row : Text.IsRow digits) :
      Denotes ('+' :: digits) (Text.decimal digits)
  | negative {digits : List Char} (row : Text.IsRow digits) :
      Denotes ('-' :: digits) (-(Text.decimal digits : Int))

theorem toInteger?_eq_some_iff {value : Int} {number : Int64} :
    toInteger? value = some number ↔ number.toInt = value := by
  unfold toInteger?
  constructor
  · intro found
    split at found
    · rename_i range
      cases found
      exact Int64.toInt_ofInt_of_le range.1 (Int.lt_add_one_of_le range.2)
    · cases found
  · rintro rfl
    rw [if_pos ⟨number.minValue_le_toInt, number.toInt_le⟩, Int64.ofInt_toInt]

theorem readNat?_bind_eq_some_iff {digits : List Char} {change : Nat → Int} {number : Int64} :
    ((Text.readNat? digits).bind fun value => toInteger? (change value)) = some number ↔
      Text.IsRow digits ∧ number.toInt = change (Text.decimal digits) := by
  simp only [Option.bind_eq_some_iff, Text.readNat?_eq_some_iff, toInteger?_eq_some_iff]
  constructor
  · rintro ⟨value, ⟨row, rfl⟩, same⟩
    exact ⟨row, same⟩
  · rintro ⟨row, same⟩
    exact ⟨_, ⟨row, rfl⟩, same⟩

theorem not_sign_of_digit {character : Char} (isDigit : '0' ≤ character ∧ character ≤ '9') :
    ¬ (character = '-' ∨ character = '+') := by
  rintro (rfl | rfl)
  · exact absurd isDigit (by decide)
  · exact absurd isDigit (by decide)

theorem not_isRow_sign {sign : Char} {digits : List Char} (isSign : sign = '-' ∨ sign = '+') :
    ¬ Text.IsRow (sign :: digits) :=
  fun row => not_sign_of_digit (row.2 sign List.mem_cons_self) isSign

theorem denotes_negative_iff {digits : List Char} {value : Int} :
    Denotes ('-' :: digits) value ↔
      Text.IsRow digits ∧ value = -(Text.decimal digits : Int) := by
  constructor
  · rintro (row | row | row)
    · exact absurd row (not_isRow_sign (Or.inl rfl))
    · exact ⟨row, rfl⟩
  · rintro ⟨row, rfl⟩
    exact .negative row

theorem denotes_positive_iff {digits : List Char} {value : Int} :
    Denotes ('+' :: digits) value ↔ Text.IsRow digits ∧ value = Text.decimal digits := by
  constructor
  · rintro (row | row | row)
    · exact absurd row (not_isRow_sign (Or.inr rfl))
    · exact ⟨row, rfl⟩
  · rintro ⟨row, rfl⟩
    exact .positive row

theorem denotes_plain_iff {word : List Char} {value : Int}
    (noMinus : ∀ digits, word ≠ '-' :: digits) (noPlus : ∀ digits, word ≠ '+' :: digits) :
    Denotes word value ↔ Text.IsRow word ∧ value = Text.decimal word := by
  constructor
  · rintro (row | row | row)
    · exact ⟨row, rfl⟩
    · exact absurd rfl (noPlus _)
    · exact absurd rfl (noMinus _)
  · rintro ⟨row, rfl⟩
    exact .plain row

/-- An integer is read exactly from the words that denote it. -/
theorem readInteger?_eq_some_iff {word : List Char} {number : Int64} :
    readInteger? word = some number ↔ Denotes word number.toInt := by
  unfold readInteger?
  split
  · exact readNat?_bind_eq_some_iff.trans denotes_negative_iff.symm
  · exact readNat?_bind_eq_some_iff.trans denotes_positive_iff.symm
  · rename_i noMinus noPlus
    exact readNat?_bind_eq_some_iff.trans (denotes_plain_iff noMinus noPlus).symm

/-- Every integer is denoted by its decimal form. -/
theorem denotes_render (number : Int64) :
    Denotes (Value.integer number).render.toList number.toInt := by
  change Denotes (Int.repr number.toInt).toList number.toInt
  rcases number.toInt with natural | below
  · have denoted := Denotes.plain (Text.isRow_toDigits natural)
    rw [Text.decimal_toDigits] at denoted
    rwa [Int.repr, Nat.toList_repr]
  · have denoted := Denotes.negative (Text.isRow_toDigits (below + 1))
    rw [Text.decimal_toDigits] at denoted
    rw [Int.repr, String.toList_append, Nat.toList_repr]
    exact denoted

/-! ## Text -/

theorem unquote?_eq_some_iff {word content : List Char} :
    unquote? word = some content ↔
      ∃ quote, (quote = '"' ∨ quote = '\'') ∧ word = quote :: (content ++ [quote]) := by
  cases word with
  | nil => exact iff_of_false nofun fun ⟨_, _, same⟩ => nomatch same
  | cons first rest =>
      have quoted : (isQuote first && rest.getLast? == some first) = true ↔
          (first = '"' ∨ first = '\'') ∧ ∃ inner, rest = inner ++ [first] := by
        rw [Bool.and_eq_true, isQuote, Bool.or_eq_true, beq_iff_eq, beq_iff_eq, beq_iff_eq,
          List.getLast?_eq_some_iff]
      rw [unquote?]
      constructor
      · intro found
        split at found
        · rename_i both
          rcases quoted.mp both with ⟨isQuote, inner, rfl⟩
          rw [List.dropLast_concat] at found
          cases found
          exact ⟨first, isQuote, rfl⟩
        · cases found
      · rintro ⟨quote, isQuote, same⟩
        cases same
        rw [if_pos (quoted.mpr ⟨isQuote, content, rfl⟩), List.dropLast_concat]

/-! ## Words that begin like a number -/

/-- A word that begins like a number, taken apart at its first digit. -/
structure Front (word signs : List Char) (digit : Char) (rest : List Char) : Prop where
  parts : word = signs ++ digit :: rest
  signs : ∀ sign ∈ signs, sign = '-' ∨ sign = '+'
  digit : '0' ≤ digit ∧ digit ≤ '9'

theorem isSign_iff {character : Char} :
    isSign character = true ↔ character = '-' ∨ character = '+' := by
  rw [isSign, Bool.or_eq_true, beq_iff_eq, beq_iff_eq]

theorem unsigned_append {signs digits : List Char}
    (areSigns : ∀ sign ∈ signs, sign = '-' ∨ sign = '+') :
    unsigned (signs ++ digits) = unsigned digits :=
  List.dropWhile_append_of_pos fun sign member => isSign_iff.mpr (areSigns sign member)

namespace Front

variable {word signs rest : List Char} {digit : Char}

theorem unsigned_eq (front : Front word signs digit rest) : unsigned word = digit :: rest := by
  rw [front.parts, unsigned_append front.signs, unsigned,
    List.dropWhile_cons_of_neg (mt isSign_iff.mp (not_sign_of_digit front.digit))]

theorem all_isDigit_iff (front : Front word signs digit rest) :
    (unsigned word).all Text.isDigit = true ↔
      ∀ character ∈ rest, '0' ≤ character ∧ character ≤ '9' := by
  rw [front.unsigned_eq, List.all_cons, Text.isDigit_iff.mpr front.digit, Bool.true_and,
    List.all_eq_true]
  simp only [Text.isDigit_iff]

theorem head_ne_quote (front : Front word signs digit rest) {first : Char} {others : List Char}
    (same : word = first :: others) : ¬ (first = '"' ∨ first = '\'') := by
  have begins : first = digit ∨ first ∈ signs := by
    rcases signs with _ | ⟨sign, more⟩
    · exact Or.inl (List.cons.inj (same.symm.trans front.parts)).1
    · exact Or.inr ((List.cons.inj (same.symm.trans front.parts)).1 ▸ List.mem_cons_self)
  rcases begins with rfl | member
  · rintro (rfl | rfl)
    · exact absurd front.digit (by decide)
    · exact absurd front.digit (by decide)
  · rcases front.signs first member with rfl | rfl
    · decide
    · decide

end Front

theorem isNumeric_iff {word : List Char} :
    isNumeric word = true ↔ ∃ signs digit rest, Front word signs digit rest := by
  unfold isNumeric
  constructor
  · intro numeric
    split at numeric
    · rename_i first rest begins
      refine ⟨word.takeWhile isSign, first, rest, ?_, ?_, Text.isDigit_iff.mp numeric⟩
      · rw [← begins]
        exact List.takeWhile_append_dropWhile.symm
      · exact fun sign member => isSign_iff.mp (List.all_eq_true.mp List.all_takeWhile sign member)
    · cases numeric
  · rintro ⟨signs, digit, rest, front⟩
    rw [front.unsigned_eq]
    exact Text.isDigit_iff.mpr front.digit

/-- A row of digits behind signs begins like a number. -/
theorem front_of_row {signs digits : List Char}
    (areSigns : ∀ sign ∈ signs, sign = '-' ∨ sign = '+') (row : Text.IsRow digits) :
    ∃ digit rest, Front (signs ++ digits) signs digit rest ∧
      ∀ character ∈ rest, '0' ≤ character ∧ character ≤ '9' := by
  rcases digits with _ | ⟨digit, rest⟩
  · exact absurd rfl row.1
  · exact ⟨digit, rest, ⟨rfl, areSigns, row.2 digit List.mem_cons_self⟩,
      fun character member => row.2 character (List.mem_cons_of_mem _ member)⟩

/-- A word that denotes an integer has only digits behind its sign. -/
theorem Denotes.front {word : List Char} {value : Int} (denotes : Denotes word value) :
    ∃ signs digit rest, Front word signs digit rest ∧
      ∀ character ∈ rest, '0' ≤ character ∧ character ≤ '9' := by
  cases denotes with
  | plain row =>
      have areSigns : ∀ sign ∈ ([] : List Char), sign = '-' ∨ sign = '+' := by simp
      exact ⟨[], front_of_row areSigns row⟩
  | positive row =>
      have areSigns : ∀ sign ∈ ['+'], sign = '-' ∨ sign = '+' := by simp
      exact ⟨['+'], front_of_row areSigns row⟩
  | negative row =>
      have areSigns : ∀ sign ∈ ['-'], sign = '-' ∨ sign = '+' := by simp
      exact ⟨['-'], front_of_row areSigns row⟩

/-! ## The value of a literal -/

theorem read?_of_front {word : String} {signs rest : List Char} {digit : Char}
    (front : Front word.toList signs digit rest) : read? word = readNumber? word := by
  have bare : unquote? word.toList = none := by
    refine Option.eq_none_iff_forall_ne_some.mpr fun content found => ?_
    rcases unquote?_eq_some_iff.mp found with ⟨quote, isQuote, same⟩
    exact front.head_ne_quote same isQuote
  rw [read?, bare]
  exact if_pos (isNumeric_iff.mpr ⟨signs, digit, rest, front⟩)

/-- Only text is found in quotes, and a number only behind a front. -/
theorem front_of_read? {word : String} {value : Value} (found : read? word = some value)
    (noText : ∀ content, value ≠ .text content) :
    ∃ signs digit rest, Front word.toList signs digit rest := by
  unfold read? at found
  split at found
  · cases found
    exact absurd rfl (noText _)
  · split at found
    · rename_i numeric
      exact isNumeric_iff.mp numeric
    · cases found

theorem readNumber?_ne_text (word : String) (content : String) :
    readNumber? word ≠ some (.text content) := by
  unfold readNumber?
  split
  · nofun
  · split
    · nofun
    · intro found
      rcases Option.map_eq_some_iff.mp found with ⟨number, -, same⟩
      cases same

theorem read?_eq_text_iff {word content : String} :
    read? word = some (.text content) ↔
      ∃ quote, (quote = '"' ∨ quote = '\'') ∧
        word.toList = quote :: (content.toList ++ [quote]) := by
  rw [← unquote?_eq_some_iff]
  unfold read?
  constructor
  · intro found
    split at found
    · rename_i inner unquoted
      cases found
      rw [unquoted, String.toList_ofList]
    · split at found
      · exact absurd found (readNumber?_ne_text word content)
      · cases found
  · intro unquoted
    rw [unquoted]
    exact congrArg (fun text => some (Value.text text)) String.ofList_toList

theorem readNumber?_eq_integer_iff {word : String} {number : Int64} :
    readNumber? word = some (.integer number) ↔ readInteger? word.toList = some number := by
  unfold readNumber?
  constructor
  · intro found
    split at found
    · rename_i integer read
      cases found
      exact read
    · split at found
      · cases found
      · rcases Option.map_eq_some_iff.mp found with ⟨float, -, same⟩
        cases same
  · intro read
    rw [read]

theorem read?_eq_integer_iff {word : String} {number : Int64} :
    read? word = some (.integer number) ↔ Denotes word.toList number.toInt := by
  rw [← readInteger?_eq_some_iff, ← readNumber?_eq_integer_iff]
  constructor
  · intro found
    rcases front_of_read? found nofun with ⟨signs, digit, rest, front⟩
    rwa [read?_of_front front] at found
  · intro read
    have denotes := readInteger?_eq_some_iff.mp (readNumber?_eq_integer_iff.mp read)
    rcases denotes.front with ⟨signs, digit, rest, front, -⟩
    rwa [read?_of_front front]

/-- A float is read only where some character behind the first digit is none. -/
theorem readNumber?_eq_float_iff {word : String} {signs rest : List Char} {digit : Char}
    (front : Front word.toList signs digit rest) {number : Float} :
    readNumber? word = some (.float number) ↔
      (∃ character ∈ rest, ¬ ('0' ≤ character ∧ character ≤ '9')) ∧
        Decimal.read? word = some number ∧ Decimal.isFinite number = true := by
  have mixed : (∃ character ∈ rest, ¬ ('0' ≤ character ∧ character ≤ '9')) ↔
      ¬ (unsigned word.toList).all Text.isDigit = true := by
    rw [front.all_isDigit_iff, not_forall₂]
    simp only [exists_prop]
  rw [mixed, readNumber?]
  constructor
  · intro found
    split at found
    · cases found
    · split at found
      · cases found
      · rename_i notAll
        rcases Option.map_eq_some_iff.mp found with ⟨float, read, same⟩
        cases same
        exact ⟨notAll, Option.filter_eq_some_iff.mp read⟩
  · rintro ⟨notAll, read⟩
    have noInteger : readInteger? word.toList = none := by
      refine Option.eq_none_iff_forall_ne_some.mpr fun integer found => notAll ?_
      rcases (readInteger?_eq_some_iff.mp found).front with ⟨others, first, tail, other, digits⟩
      exact other.all_isDigit_iff.mpr digits
    rw [noInteger]
    dsimp only
    rw [if_neg notAll]
    exact Option.map_eq_some_iff.mpr ⟨number, Option.filter_eq_some_iff.mpr read, rfl⟩

theorem read?_eq_float_iff {word : String} {number : Float} :
    read? word = some (.float number) ↔
      (∃ signs digit rest, Front word.toList signs digit rest ∧
        ∃ character ∈ rest, ¬ ('0' ≤ character ∧ character ≤ '9')) ∧
      Decimal.read? word = some number ∧ Decimal.isFinite number = true := by
  constructor
  · intro found
    rcases front_of_read? found nofun with ⟨signs, digit, rest, front⟩
    rw [read?_of_front front, readNumber?_eq_float_iff front] at found
    exact ⟨⟨signs, digit, rest, front, found.1⟩, found.2⟩
  · rintro ⟨⟨signs, digit, rest, front, mixed⟩, read⟩
    rw [read?_of_front front, readNumber?_eq_float_iff front]
    exact ⟨mixed, read⟩

/-- Signs and digits alone never make a float, however many there are of them. -/
theorem read?_ne_float {word : String} {signs digits : List Char}
    (same : word.toList = signs ++ digits)
    (areSigns : ∀ sign ∈ signs, sign = '-' ∨ sign = '+')
    (areDigits : ∀ digit ∈ digits, '0' ≤ digit ∧ digit ≤ '9') (number : Float) :
    read? word ≠ some (.float number) := by
  intro found
  rcases read?_eq_float_iff.mp found with ⟨⟨others, digit, rest, front, strange⟩, -⟩
  rcases strange with ⟨character, member, noDigit⟩
  have behind : unsigned digits = digit :: rest := by
    rw [← unsigned_append areSigns, ← same]
    exact front.unsigned_eq
  have listed : character ∈ unsigned digits := behind ▸ List.mem_cons_of_mem digit member
  exact noDigit (areDigits character ((List.dropWhile_suffix isSign).mem listed))

/-- Which words are literals, and of which values. -/
structure Grammar (word : String) : Prop where
  text_iff : ∀ content : String, read? word = some (.text content) ↔
    ∃ quote, (quote = '"' ∨ quote = '\'') ∧ word.toList = quote :: (content.toList ++ [quote])
  integer_iff : ∀ number : Int64, read? word = some (.integer number) ↔
    Denotes word.toList number.toInt
  float_iff : ∀ number : Float, read? word = some (.float number) ↔
    (∃ signs digit rest, Front word.toList signs digit rest ∧
      ∃ character ∈ rest, ¬ ('0' ≤ character ∧ character ≤ '9')) ∧
    Decimal.read? word = some number ∧ Decimal.isFinite number = true
  /-- Too many digits for an integer do not make a float. -/
  digits_not_float : ∀ signs digits : List Char, word.toList = signs ++ digits →
    (∀ sign ∈ signs, sign = '-' ∨ sign = '+') →
    (∀ digit ∈ digits, '0' ≤ digit ∧ digit ≤ '9') →
    ∀ number : Float, read? word ≠ some (.float number)

theorem grammar (word : String) : Grammar word where
  text_iff _ := read?_eq_text_iff
  integer_iff _ := read?_eq_integer_iff
  float_iff _ := read?_eq_float_iff
  digits_not_float _ _ same areSigns areDigits := read?_ne_float same areSigns areDigits

end Literal

/-! ## A word behind the name of a register -/

namespace Operand

/-- What becomes of the single word that stands for a value. -/
inductive Reading where
  | literal (value : Value)
  | malformed (reason : Malformation)
  | register

/-- The operands that are made, or the error that is given, where `word` stands for the
value to be written to the register `name`. -/
def Reading.outcome (line : Nat) (name word : String) :
    Reading → Except CompileError (List Operand)
  | .literal value => .ok [.register name, .literal value]
  | .malformed reason => .error (.malformed line reason)
  | .register => .ok [.register name, .register word]

theorem Reading.outcome_injective (line : Nat) (name word : String) :
    Function.Injective (Reading.outcome line name word) := by
  intro left right same
  cases left <;> cases right <;> cases same <;> rfl

/-- A word is the name of a register if it begins neither like a number nor with a
quote. -/
theorem isRegisterName_iff {word : String} :
    isRegisterName word = true ↔
      (¬ ∃ signs digit rest, Literal.Front word.toList signs digit rest) ∧
        ¬ ∃ quote rest, (quote = '"' ∨ quote = '\'') ∧ word.toList = quote :: rest := by
  have quoted : word.toList.head?.any Literal.isQuote = true ↔
      ∃ quote rest, (quote = '"' ∨ quote = '\'') ∧ word.toList = quote :: rest := by
    cases word.toList with
    | nil => simp
    | cons first others => simp [Literal.isQuote]
  rw [← Literal.isNumeric_iff, ← quoted, isRegisterName, Bool.and_eq_true, Bool.and_eq_true,
    Bool.not_eq_true', Bool.not_eq_true', Option.isNone_iff_eq_none, Bool.not_eq_true,
    Bool.not_eq_true, and_assoc]
  -- A literal is quoted or numeric, so that the first test never decides alone.
  refine and_iff_right_of_imp fun ⟨noNumber, noQuote⟩ => ?_
  refine Option.eq_none_iff_forall_ne_some.mpr fun value found => ?_
  by_cases isText : ∃ content, value = .text content
  · rcases isText with ⟨content, rfl⟩
    rcases Literal.read?_eq_text_iff.mp found with ⟨quote, isQuote, same⟩
    exact Bool.eq_false_iff.mp noQuote (quoted.mpr ⟨quote, _, isQuote, same⟩)
  · have front := Literal.front_of_read? found fun content same => isText ⟨content, same⟩
    exact Bool.eq_false_iff.mp noNumber (Literal.isNumeric_iff.mpr front)

/-- How a word is read, and why it is refused. -/
inductive Reads (word : String) : Reading → Prop where
  | literal {value : Value} (found : Literal.read? word = some value) :
      Reads word (.literal value)
  | outOfRange {signs rest : List Char} {digit : Char} (noLiteral : Literal.read? word = none)
      (front : Literal.Front word.toList signs digit rest) :
      Reads word (.malformed (.outOfRange word))
  | unclosed {quote : Char} {rest : List Char} (noLiteral : Literal.read? word = none)
      (isQuote : quote = '"' ∨ quote = '\'') (begins : word.toList = quote :: rest) :
      Reads word (.malformed (.notARegister word))
  | register (accepted : isRegisterName word = true) : Reads word .register

theorem exists_reads (word : String) : ∃ reading, Reads word reading := by
  rcases found : Literal.read? word with _ | value
  · by_cases accepted : isRegisterName word = true
    · exact ⟨_, .register accepted⟩
    · rw [isRegisterName_iff, not_and_or, not_not, not_not] at accepted
      rcases accepted with ⟨signs, digit, rest, front⟩ | ⟨quote, rest, isQuote, begins⟩
      · exact ⟨_, .outOfRange found front⟩
      · exact ⟨_, .unclosed found isQuote begins⟩
  · exact ⟨_, .literal found⟩

variable {line : Nat} {symbols : Symbols} {name word : String}

theorem ofRegisterName_of_accepted (accepted : isRegisterName word = true) :
    ofRegisterName line word = .ok (.register word) :=
  if_pos accepted

theorem ofArguments_write (named : isRegisterName name = true) :
    ofArguments line .write symbols [name, word] =
      (ofValueWord line word).map fun value => [.register name, value] := by
  change ((ofValueWord line word).bind fun value =>
    (ofRegisterName line name).map fun register => [register, value]) = _
  rw [ofRegisterName_of_accepted named]
  cases ofValueWord line word <;> rfl

/-- A word that is read in some way has the outcome of that way. -/
theorem Reads.outcome_eq (named : isRegisterName name = true) {reading : Reading}
    (reads : Reads word reading) :
    ofArguments line .write symbols [name, word] = reading.outcome line name word := by
  rw [ofArguments_write named, ofValueWord]
  cases reads with
  | literal found =>
      rw [found]
      rfl
  | outOfRange noLiteral front =>
      rw [noLiteral]
      dsimp only
      rw [if_pos (Literal.isNumeric_iff.mpr ⟨_, _, _, front⟩)]
      rfl
  | unclosed noLiteral isQuote begins =>
      have noNumber : ¬ Literal.isNumeric word.toList = true := fun numeric => by
        rcases Literal.isNumeric_iff.mp numeric with ⟨signs, digit, rest, front⟩
        exact front.head_ne_quote begins isQuote
      have refused : ¬ isRegisterName word = true := fun accepted =>
        (isRegisterName_iff.mp accepted).2 ⟨_, _, isQuote, begins⟩
      rw [noLiteral]
      dsimp only
      rw [if_neg noNumber, ofRegisterName, if_neg refused]
      rfl
  | register accepted =>
      have noLiteral : Literal.read? word = none := by
        rw [isRegisterName, Bool.and_eq_true, Bool.and_eq_true] at accepted
        exact Option.isNone_iff_eq_none.mp accepted.1.1
      have noNumber : ¬ Literal.isNumeric word.toList = true := fun numeric =>
        (isRegisterName_iff.mp accepted).1 (Literal.isNumeric_iff.mp numeric)
      rw [noLiteral]
      dsimp only
      rw [if_neg noNumber, ofRegisterName_of_accepted accepted]
      rfl

theorem outcome_eq_iff (named : isRegisterName name = true) {reading : Reading} :
    ofArguments line .write symbols [name, word] = reading.outcome line name word ↔
      Reads word reading := by
  refine ⟨fun same => ?_, Reads.outcome_eq named⟩
  rcases exists_reads word with ⟨other, reads⟩
  have agree : other = reading :=
    Reading.outcome_injective line name word ((reads.outcome_eq named).symm.trans same)
  exact agree ▸ reads

theorem reads_register_iff :
    Reads word .register ↔ ofRegisterName line word = .ok (.register word) := by
  constructor
  · intro reads
    cases reads with
    | register accepted => exact ofRegisterName_of_accepted accepted
  · intro read
    unfold ofRegisterName at read
    split at read
    · rename_i accepted
      exact .register accepted
    · cases read

/-- A value given as one word has one reading, which its characters decide. -/
structure Classified (line : Nat) (symbols : Symbols) (name word : String) : Prop where
  unique : ∃! reading : Reading,
    ofArguments line .write symbols [name, word] = reading.outcome line name word
  reads_iff : ∀ reading : Reading,
    ofArguments line .write symbols [name, word] = reading.outcome line name word ↔
      Reads word reading
  register_iff :
    ofArguments line .write symbols [name, word] = .ok [.register name, .register word] ↔
      ofRegisterName line word = .ok (.register word)
  number_not_register : ∀ signs digit rest, Literal.Front word.toList signs digit rest →
    ofArguments line .write symbols [name, word] ≠ .ok [.register name, .register word]

theorem classified (named : isRegisterName name = true) :
    Classified line symbols name word := by
  have register : ofArguments line .write symbols [name, word] =
      Reading.register.outcome line name word ↔ Reads word .register := outcome_eq_iff named
  refine ⟨?_, fun reading => outcome_eq_iff named, ?_, ?_⟩
  · rcases exists_reads word with ⟨reading, reads⟩
    refine ⟨reading, reads.outcome_eq named, fun other same => ?_⟩
    exact Reading.outcome_injective line name word (same.symm.trans (reads.outcome_eq named))
  · exact register.trans reads_register_iff
  · intro signs digit rest front taken
    cases register.mp taken with
    | register accepted =>
        exact (isRegisterName_iff.mp accepted).1 ⟨signs, digit, rest, front⟩

end Operand

/-- The grammar of literals, by which every integer is read back from its decimal form,
and the one reading that every word has as a value to be written. -/
theorem word_grammar :
    (∀ word : String, Literal.Grammar word) ∧
    (∀ number : Int64,
      Literal.read? (Value.integer number).render = some (.integer number)) ∧
    ∀ (line : Nat) (symbols : Symbols) (name word : String),
      Operand.isRegisterName name = true → Operand.Classified line symbols name word :=
  ⟨Literal.grammar, fun number => Literal.read?_eq_integer_iff.mpr (Literal.denotes_render number),
    fun _ _ _ _ named => Operand.classified named⟩

/-- Twenty digits behind two signs are neither a number nor the name of a register. -/
theorem word_grammar_too_large :
    Operand.isRegisterName "total" = true ∧
      Operand.Classified 2 .empty "total" "+-99999999999999999999" ∧
      Operand.ofArguments 2 .write .empty ["total", "+-99999999999999999999"] =
        .error (.malformed 2 (.outOfRange "+-99999999999999999999")) :=
  ⟨by decide, word_grammar.2.2 2 .empty "total" "+-99999999999999999999" (by decide),
    by decide⟩

end CommandMachine
