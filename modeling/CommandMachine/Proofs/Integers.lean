import CommandMachine.Proofs.Capacity
import CommandMachine.Proofs.Literals
namespace CommandMachine

/-!
# Integers are computed exactly or not at all

An operation on two integers of sixty-four bits is computed over all integers first.  If
its result has sixty-four bits again it replaces the operands, and if not the operation
fails, so that no result is ever reduced to the bits that fit.  Division and remainder
belong together: a remainder always fits, but it is refused wherever the quotient is.
-/

namespace Arithmetic

/-! ## Results -/

section Results

variable {operation : Operation} {left right number : Int64}

theorem bounded_of_not_divides (plain : operation.divides = false) (first second : Int) :
    operation.bounded first second = operation.exact first second := by
  cases operation with
  | add | sub | mul => rfl
  | div | mod => cases plain

/-- Of a division and of a remainder, the quotient has to fit. -/
theorem bounded_of_divides (divides : operation.divides = true) (first second : Int) :
    operation.bounded first second = first.tdiv second := by
  cases operation with
  | add | sub | mul => cases divides
  | div | mod => rfl

theorem toInt_eq_zero_iff : right.toInt = 0 ↔ right = 0 := by
  rw [← Int64.toInt_inj, Int64.toInt_zero]

/-- A remainder is less than the divisor, so that it has sixty-four bits. -/
theorem natAbs_tmod_lt (left : Int64) (defined : right ≠ 0) :
    (left.toInt.tmod right.toInt).natAbs < right.toInt.natAbs := by
  have positive : 0 < right.toInt.natAbs :=
    Int.natAbs_pos.mpr fun zero => defined (toInt_eq_zero_iff.mp zero)
  rw [Int.natAbs_tmod]
  exact Nat.mod_lt _ positive

theorem toInt_ofInt_tmod (left : Int64) (defined : right ≠ 0) :
    (Int64.ofInt (left.toInt.tmod right.toInt)).toInt = left.toInt.tmod right.toInt := by
  have less := natAbs_tmod_lt left defined
  have lower := right.le_toInt
  have upper := right.toInt_lt
  exact Int64.toInt_ofInt_of_le (by omega) (by omega)

/-- Where the operation succeeds, the result is not reduced. -/
theorem toInt_ofInt_exact (defined : operation.divides = true → right ≠ 0)
    (fits : number.toInt = operation.bounded left.toInt right.toInt) :
    (Int64.ofInt (operation.exact left.toInt right.toInt)).toInt =
      operation.exact left.toInt right.toInt := by
  cases operation with
  | mod => exact toInt_ofInt_tmod left (defined rfl)
  | add | sub | mul | div =>
      have same := congrArg (fun value => (Int64.ofInt value).toInt) fits
      rw [Int64.ofInt_toInt, fits] at same
      exact same.symm

/-- The three ways in which an operation on integers can end. -/
inductive Ends (operation : Operation) (left right : Int64) : Except Failure Int64 → Prop where
  | undefined (divides : operation.divides = true) (zero : right = 0) :
      Ends operation left right (.error .divisionByZero)
  | tooLarge (defined : operation.divides = true → right ≠ 0)
      (large : ∀ number : Int64, number.toInt ≠ operation.bounded left.toInt right.toInt) :
      Ends operation left right (.error .overflow)
  | exact {number bound : Int64} (defined : operation.divides = true → right ≠ 0)
      (fits : bound.toInt = operation.bounded left.toInt right.toInt)
      (result : number.toInt = operation.exact left.toInt right.toInt) :
      Ends operation left right (.ok number)

theorem integers_ends (operation : Operation) (left right : Int64) :
    Ends operation left right (integers operation left right) := by
  unfold integers
  by_cases undefined : (operation.divides && right == 0) = true
  · rw [if_pos undefined]
    rcases Bool.and_eq_true_iff.mp undefined with ⟨divides, zero⟩
    exact .undefined divides (beq_iff_eq.mp zero)
  · rw [if_neg undefined]
    have defined : operation.divides = true → right ≠ 0 := fun divides zero =>
      undefined (Bool.and_eq_true_iff.mpr ⟨divides, beq_iff_eq.mpr zero⟩)
    cases found : Literal.toInteger? (operation.bounded left.toInt right.toInt) with
    | none =>
        refine .tooLarge defined fun number fits => ?_
        rw [Literal.toInteger?_eq_some_iff.mpr fits] at found
        cases found
    | some bound =>
        have fits := Literal.toInteger?_eq_some_iff.mp found
        exact .exact defined fits (toInt_ofInt_exact defined fits)

theorem integers_eq_divisionByZero_iff :
    integers operation left right = .error .divisionByZero ↔
      operation.divides = true ∧ right = 0 := by
  have ends := integers_ends operation left right
  generalize integers operation left right = result at ends ⊢
  cases ends with
  | undefined divides zero => exact iff_of_true rfl ⟨divides, zero⟩
  | tooLarge defined =>
      exact iff_of_false (by simp) fun undefined => defined undefined.1 undefined.2
  | exact defined =>
      exact iff_of_false (by simp) fun undefined => defined undefined.1 undefined.2

theorem integers_eq_overflow_iff :
    integers operation left right = .error .overflow ↔ (operation.divides = true → right ≠ 0) ∧
      ∀ number : Int64, number.toInt ≠ operation.bounded left.toInt right.toInt := by
  have ends := integers_ends operation left right
  generalize integers operation left right = result at ends ⊢
  cases ends with
  | undefined divides zero => exact iff_of_false (by simp) fun defined => defined.1 divides zero
  | tooLarge defined large => exact iff_of_true rfl ⟨defined, large⟩
  | exact _ fits => exact iff_of_false (by simp) fun large => large.2 _ fits

theorem integers_eq_ok_iff :
    integers operation left right = .ok number ↔ (operation.divides = true → right ≠ 0) ∧
      (∃ bound : Int64, bound.toInt = operation.bounded left.toInt right.toInt) ∧
      number.toInt = operation.exact left.toInt right.toInt := by
  have ends := integers_ends operation left right
  generalize integers operation left right = result at ends ⊢
  cases ends with
  | undefined divides zero => exact iff_of_false (by simp) fun defined => defined.1 divides zero
  | tooLarge defined large =>
      exact iff_of_false (by simp) fun fits => fits.2.1.elim fun bound => large bound
  | exact defined fits result =>
      rw [Except.ok.injEq, ← Int64.toInt_inj, result]
      exact ⟨fun same => ⟨defined, ⟨_, fits⟩, same.symm⟩, fun parts => parts.2.2.symm⟩

/-- Success depends on the divisor and the bound only. -/
theorem exists_integers_eq_ok_iff :
    (∃ number, integers operation left right = .ok number) ↔
      (operation.divides = true → right ≠ 0) ∧
        ∃ bound : Int64, bound.toInt = operation.bounded left.toInt right.toInt := by
  constructor
  · rintro ⟨number, succeeded⟩
    rcases integers_eq_ok_iff.mp succeeded with ⟨defined, fits, -⟩
    exact ⟨defined, fits⟩
  · rintro ⟨defined, bound, fits⟩
    exact ⟨_, integers_eq_ok_iff.mpr ⟨defined, ⟨bound, fits⟩, toInt_ofInt_exact defined fits⟩⟩

theorem integers_ne_mismatch (first second : Value.Kind) :
    integers operation left right ≠ .error (.mismatch first second) := by
  have ends := integers_ends operation left right
  intro failed
  generalize integers operation left right = result at ends failed
  subst failed
  cases ends

/-- Dividend, divisor, quotient and remainder of a division towards zero. -/
structure Divided (left right quotient remainder : Int64) : Prop where
  whole : left.toInt = quotient.toInt * right.toInt + remainder.toInt
  less : remainder.toInt.natAbs < right.toInt.natAbs
  sign : remainder.toInt = 0 ∨ remainder.toInt.sign = left.toInt.sign

theorem divided {quotient remainder : Int64} (defined : right ≠ 0)
    (first : quotient.toInt = left.toInt.tdiv right.toInt)
    (second : remainder.toInt = left.toInt.tmod right.toInt) :
    Divided left right quotient remainder := by
  refine ⟨?_, ?_, ?_⟩
  · rw [first, second, Int.add_comm]
    exact (Int.tmod_add_tdiv_mul _ _).symm
  · rw [second]
    exact natAbs_tmod_lt left defined
  · rw [second, Int.sign_tmod]
    by_cases divides : right.toInt ∣ left.toInt
    · exact Or.inl (Int.tmod_eq_zero_of_dvd divides)
    · exact Or.inr (if_neg divides)

end Results
end Arithmetic

/-! ## Effects -/

namespace Effect

/-- The two values on top of the engine's stack have given way to a number. -/
def Yields (effect : Effect) (engine : Engine) (rest : List Value) (number : Int64) : Prop :=
  effect = .next { engine with stack := { engine.stack with items := .integer number :: rest } }

/-- The two values on top of the engine's stack are gone, and the operation has failed. -/
def Fails (effect : Effect) (engine : Engine) (rest : List Value) (cause : Cause) : Prop :=
  effect = .fault { engine with stack := { engine.stack with items := rest } } cause

/-- The exact result is on the stack if it has sixty-four bits, and otherwise there is an
overflow. -/
structure IsExact (effect : Effect) (engine : Engine) (rest : List Value) (result : Int) :
    Prop where
  yields_iff : ∀ number : Int64, effect.Yields engine rest number ↔ number.toInt = result
  overflow_iff : effect.Fails engine rest .overflow ↔ ∀ number : Int64, number.toInt ≠ result

/-- What an operation that divides does where its result is not on the stack. -/
structure IsGuarded (effect : Effect) (engine : Engine) (rest : List Value)
    (left right : Int64) : Prop where
  zero_iff : effect.Fails engine rest .divisionByZero ↔ right = 0
  /-- There is an overflow exactly if the quotient does not fit. -/
  overflow_iff : effect.Fails engine rest .overflow ↔
    right ≠ 0 ∧ ∀ number : Int64, number.toInt ≠ left.toInt.tdiv right.toInt
  /-- Nothing else can happen. -/
  settled : (∃ number, effect.Yields engine rest number) ∨
    effect.Fails engine rest .divisionByZero ∨ effect.Fails engine rest .overflow

end Effect

namespace Engine

variable {engine : Engine} {left right : Int64} {rest : List Value}

/-- On a stack that is not full a push loses nothing and tells nothing. -/
theorem push_of_room (room : engine.stack.isFull = false) (value : Value) :
    Effect.push engine value = .next
      { engine with stack := { engine.stack with items := value :: engine.stack.items } } := by
  simp only [Effect.push, EvaluationStack.push, Notice.ofPush, EvaluationStack.overflow?, room]
  rfl

/-- What becomes of the two integers on top of the stack, by what they make. -/
def settleIntegers (engine : Engine) (op : Op) (rest : List Value) :
    Except Arithmetic.Failure Int64 → Effect
  | .ok number =>
    .next { engine with stack := { engine.stack with items := .integer number :: rest } }
  | .error failure =>
    .fault { engine with stack := { engine.stack with items := rest } }
      (arithmeticCause op failure)

theorem arithmetic_of_integers (sized : engine.stack.Sized)
    (top : engine.stack.items = .integer right :: .integer left :: rest) (op : Op)
    (operation : Arithmetic.Operation) :
    engine.arithmetic op operation =
      engine.settleIntegers op rest (Arithmetic.integers operation left right) := by
  have room : ({ engine.stack with items := rest } : EvaluationStack).isFull = false := by
    have bound := sized.depth_le
    rw [EvaluationStack.depth, top, List.length_cons, List.length_cons] at bound
    refine beq_eq_false_iff_ne.mpr (Nat.ne_of_lt ?_)
    exact Nat.lt_of_lt_of_le (Nat.lt_add_right 1 (Nat.lt_succ_self _)) bound
  have popped := EvaluationStack.pop?_of_cons top
  have again : ({ engine.stack with items := .integer left :: rest } : EvaluationStack).pop? =
      some (.integer left, { engine.stack with items := rest }) := rfl
  simp only [arithmetic, withPop, popped, again, Arithmetic.apply]
  cases Arithmetic.integers operation left right with
  | error failure => rfl
  | ok number =>
      let bare : Engine := { engine with stack := { engine.stack with items := rest } }
      exact push_of_room (show bare.stack.isFull = false from room) (.integer number)

theorem yields_settleIntegers_iff {op : Op} {result : Except Arithmetic.Failure Int64}
    {number : Int64} :
    (engine.settleIntegers op rest result).Yields engine rest number ↔ result = .ok number := by
  cases result with
  | ok found => simp [settleIntegers, Effect.Yields, Effect.next]
  | error failure => simp [settleIntegers, Effect.Yields, Effect.next, Effect.fault]

theorem arithmeticCause_inj {op : Op} {first second : Arithmetic.Failure} :
    arithmeticCause op first = arithmeticCause op second ↔ first = second := by
  cases first <;> cases second <;> simp [arithmeticCause]

theorem fails_settleIntegers_iff {op : Op} {result : Except Arithmetic.Failure Int64}
    {failure : Arithmetic.Failure} :
    (engine.settleIntegers op rest result).Fails engine rest (arithmeticCause op failure) ↔
      result = .error failure := by
  cases result with
  | ok found => simp [settleIntegers, Effect.Fails, Effect.next, Effect.fault]
  | error found => simp [settleIntegers, Effect.Fails, Effect.fault, arithmeticCause_inj]

/-- Adding, subtracting and multiplying. -/
theorem isExact_of_not_divides (op : Op) {operation : Arithmetic.Operation}
    (plain : operation.divides = false) :
    (engine.settleIntegers op rest (Arithmetic.integers operation left right)).IsExact engine rest
      (operation.exact left.toInt right.toInt) := by
  have same := Arithmetic.bounded_of_not_divides plain left.toInt right.toInt
  have defined : operation.divides = true → right ≠ 0 := by simp [plain]
  constructor
  · intro number
    rw [yields_settleIntegers_iff, Arithmetic.integers_eq_ok_iff, same]
    exact ⟨fun parts => parts.2.2, fun result => ⟨defined, ⟨number, result⟩, result⟩⟩
  · rw [show Cause.overflow = arithmeticCause op .overflow from rfl, fails_settleIntegers_iff,
      Arithmetic.integers_eq_overflow_iff, same]
    exact ⟨fun parts => parts.2, fun large => ⟨defined, large⟩⟩

/-- Dividing and taking the remainder. -/
theorem isGuarded_of_divides (op : Op) {operation : Arithmetic.Operation}
    (divides : operation.divides = true) :
    (engine.settleIntegers op rest (Arithmetic.integers operation left right)).IsGuarded engine
      rest left right := by
  have quotient := Arithmetic.bounded_of_divides divides left.toInt right.toInt
  have zero : Cause.divisionByZero = arithmeticCause op .divisionByZero := rfl
  have overflow : Cause.overflow = arithmeticCause op .overflow := rfl
  refine ⟨?_, ?_, ?_⟩
  · rw [zero, fails_settleIntegers_iff, Arithmetic.integers_eq_divisionByZero_iff]
    exact and_iff_right divides
  · rw [overflow, fails_settleIntegers_iff, Arithmetic.integers_eq_overflow_iff, quotient]
    exact and_congr_left fun _ => forall_prop_of_true divides
  · rw [zero, overflow, fails_settleIntegers_iff, fails_settleIntegers_iff]
    simp only [yields_settleIntegers_iff]
    cases ended : Arithmetic.integers operation left right with
    | ok number => exact Or.inl ⟨number, rfl⟩
    | error failure =>
        cases failure with
        | divisionByZero => exact Or.inr (Or.inl rfl)
        | overflow => exact Or.inr (Or.inr rfl)
        | mismatch first second => exact absurd ended (Arithmetic.integers_ne_mismatch first second)

variable (settings : Settings) (surroundings : Surroundings) (operands : List Operand)

/-- **Integers are computed exactly or not at all.**  Two integers are on top of a stack, and
an operation on numbers is executed.  A sum, a difference or a product replaces them if it has
sixty-four bits and is an overflow otherwise.  A division and a remainder succeed on the same
operands, fail exactly where the divisor is zero or the quotient does not fit, and fit
together where they succeed. -/
theorem execute_integers (sized : engine.stack.Sized)
    (top : engine.stack.items = .integer right :: .integer left :: rest) :
    let execute op := engine.execute settings surroundings op operands
    (execute .add).IsExact engine rest (left.toInt + right.toInt) ∧
    (execute .sub).IsExact engine rest (left.toInt - right.toInt) ∧
    (execute .mul).IsExact engine rest (left.toInt * right.toInt) ∧
    (execute .div).IsGuarded engine rest left right ∧
    (execute .mod).IsGuarded engine rest left right ∧
    ((∃ quotient, (execute .div).Yields engine rest quotient) ↔
      ∃ remainder, (execute .mod).Yields engine rest remainder) ∧
    ∀ quotient remainder, (execute .div).Yields engine rest quotient →
      (execute .mod).Yields engine rest remainder →
        Arithmetic.Divided left right quotient remainder := by
  intro execute
  have executed (op : Op) (operation : Arithmetic.Operation)
      (same : execute op = engine.arithmetic op operation) : execute op =
        engine.settleIntegers op rest (Arithmetic.integers operation left right) :=
    same.trans (arithmetic_of_integers sized top op operation)
  rw [executed .add .add rfl, executed .sub .sub rfl, executed .mul .mul rfl,
    executed .div .div rfl, executed .mod .mod rfl]
  refine ⟨isExact_of_not_divides _ rfl, isExact_of_not_divides _ rfl,
    isExact_of_not_divides _ rfl, isGuarded_of_divides _ rfl, isGuarded_of_divides _ rfl, ?_, ?_⟩
  · simp only [yields_settleIntegers_iff, Arithmetic.exists_integers_eq_ok_iff]
    exact Iff.rfl
  · intro quotient remainder first second
    rw [yields_settleIntegers_iff, Arithmetic.integers_eq_ok_iff] at first second
    exact Arithmetic.divided (first.1 rfl) first.2.2 second.2.2

/-- An engine with the least integer and minus one on its stack, and room for one more. -/
def extreme : Engine :=
  { first .standard (.ofSeed 1) with
    stack := ⟨[.integer (-1), .integer Int64.minValue, .text "below"], 4, 0⟩ }

/-- The quotient of the two is the one quotient that does not fit.  The remainder would be
zero, and is refused all the same; their product is refused, but not their difference. -/
theorem extreme_integers :
    let execute op := extreme.execute .standard (.alone .text) op []
    extreme.stack.Sized ∧ (execute .mul).Fails extreme [.text "below"] .overflow ∧
      (execute .div).Fails extreme [.text "below"] .overflow ∧
      (execute .mod).Fails extreme [.text "below"] .overflow ∧
      (execute .sub).Yields extreme [.text "below"] (-9223372036854775807) := by
  have sized : extreme.stack.Sized := ⟨by decide, by decide⟩
  have large (number : Int64) : number.toInt ≠ 9223372036854775808 :=
    Int.ne_of_lt number.toInt_lt
  rcases execute_integers .standard (.alone .text) [] sized rfl with
    ⟨-, sub, mul, div, mod, -, -⟩
  exact ⟨sized, mul.overflow_iff.mpr large, div.overflow_iff.mpr ⟨by decide, large⟩,
    mod.overflow_iff.mpr ⟨by decide, large⟩, (sub.yields_iff _).mpr rfl⟩

end Engine
end CommandMachine
