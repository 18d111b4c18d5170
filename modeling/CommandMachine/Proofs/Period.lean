import CommandMachine.Draws
import Mathlib.Algebra.Ring.Parity
import Mathlib.Data.List.Nodup
import Mathlib.Data.Nat.ModEq
namespace CommandMachine

/-!
# How soon draws repeat

A generator has as many states as there are words.  It visits all of them before it comes
back to the first, because it moves on by a constant that has an inverse; and it shows
a different draw in each of them, because mixing the bits of a state loses nothing.  Both
inverses are written down here, that of a multiplication and that of a shifted exclusive or.

A source that is forked gives one draw away as a seed.  Between two forks it may be used for
other things too, and all of these take draws of the same sequence.  So the seeds that one
source gives away repeat no sooner than its draws do.
-/

namespace SplitMix

/-! ## Mixing loses nothing -/

/-- Puts a word over a shifted copy of itself. -/
def smear (amount word : UInt64) : UInt64 :=
  word ^^^ (word >>> amount)

/-- Takes the shifted copy off again, if nothing is left of a word after three shifts. -/
def unsmear (amount word : UInt64) : UInt64 :=
  word ^^^ ((word >>> amount) ^^^ (word >>> amount >>> amount))

theorem shift_thrice {amount : UInt64} (small : amount.toNat < 64) (large : 64 ≤ 3 * amount.toNat)
    (word : UInt64) : word >>> amount >>> amount >>> amount = 0 := by
  apply UInt64.toNat_inj.mp
  simp only [UInt64.toNat_shiftRight, Nat.mod_eq_of_lt small, ← Nat.shiftRight_add]
  apply Nat.shiftRight_eq_zero
  calc
    word.toNat < 2 ^ 64 := word.toNat_lt
    _ ≤ 2 ^ (amount.toNat + amount.toNat + amount.toNat) :=
      Nat.pow_le_pow_right (by decide) (by omega)

section Smearing

variable {amount : UInt64} (vanishes : ∀ word : UInt64, word >>> amount >>> amount >>> amount = 0)

include vanishes

-- All copies cancel in pairs, except for the word itself and a copy that has been shifted away.
theorem unsmear_smear (word : UInt64) : unsmear amount (smear amount word) = word := by
  simp only [unsmear, smear, UInt64.shiftRight_xor, vanishes, UInt64.xor_zero, UInt64.xor_assoc,
    UInt64.xor_self]

theorem smear_unsmear (word : UInt64) : smear amount (unsmear amount word) = word := by
  simp only [unsmear, smear, UInt64.shiftRight_xor, vanishes, UInt64.xor_zero, UInt64.xor_assoc,
    UInt64.xor_self]

end Smearing

/-- Undoes `mix`.  Its factors are the inverses of those of `mix`. -/
def unmix (word : UInt64) : UInt64 :=
  unsmear 30 (unsmear 27 (unsmear 31 word * 0x319642b2d24d8ec3) * 0x96de1b173f119089)

theorem mix_eq_smear (state : UInt64) :
    mix state =
      smear 31 (smear 27 (smear 30 state * 0xbf58476d1ce4e5b9) * 0x94d049bb133111eb) := rfl

/-- Multiplying by one factor and then by its inverse changes nothing. -/
theorem mul_mul_inverse {factor inverse : UInt64} (unit : factor * inverse = 1) (word : UInt64) :
    word * factor * inverse = word := by
  rw [UInt64.mul_assoc, unit, UInt64.mul_one]

theorem unmix_mix (state : UInt64) : unmix (mix state) = state := by
  rw [mix_eq_smear, unmix, unsmear_smear (shift_thrice (by decide) (by decide)),
    mul_mul_inverse (by decide), unsmear_smear (shift_thrice (by decide) (by decide)),
    mul_mul_inverse (by decide), unsmear_smear (shift_thrice (by decide) (by decide))]

theorem mix_unmix (word : UInt64) : mix (unmix word) = word := by
  rw [mix_eq_smear, unmix, smear_unsmear (shift_thrice (by decide) (by decide)),
    mul_mul_inverse (by decide), smear_unsmear (shift_thrice (by decide) (by decide)),
    mul_mul_inverse (by decide), smear_unsmear (shift_thrice (by decide) (by decide))]

theorem mix_bijective : Function.Bijective mix :=
  Function.bijective_iff_has_inverse.mpr ⟨unmix, unmix_mix, mix_unmix⟩

/-! ## The sequence of states -/

/-- The generator that is left after a number of draws. -/
def after (generator : SplitMix) (draws : Nat) : SplitMix :=
  (fun current => current.next.2)^[draws] generator

/-- The draws of a generator, counted from zero. -/
def draw (generator : SplitMix) (index : Nat) : UInt64 :=
  (generator.after index).next.1

theorem after_succ (generator : SplitMix) (draws : Nat) :
    generator.after (draws + 1) = generator.next.2.after draws :=
  Function.iterate_succ_apply _ draws generator

theorem after_add (generator : SplitMix) (first second : Nat) :
    generator.after (first + second) = (generator.after first).after second := by
  rw [after, Nat.add_comm, Function.iterate_add_apply]
  rfl

theorem draw_after (generator : SplitMix) (first index : Nat) :
    (generator.after first).draw index = generator.draw (first + index) := by
  rw [draw, draw, after_add]

theorem state_after (generator : SplitMix) (draws : Nat) :
    (generator.after draws).state = generator.state + UInt64.ofNat draws * gamma := by
  induction draws generalizing generator with
  | zero => exact (UInt64.add_zero _).symm.trans (congrArg _ UInt64.zero_mul.symm)
  | succ draws ih =>
      have moved : generator.next.2.state = generator.state + gamma := rfl
      rw [after_succ, ih, moved, UInt64.ofNat_add, UInt64.add_mul, UInt64.add_assoc,
        UInt64.add_comm gamma]
      simp

theorem ofNat_eq_ofNat_iff (left right : Nat) :
    UInt64.ofNat left = UInt64.ofNat right ↔ left ≡ right [MOD UInt64.size] := by
  rw [← UInt64.toNat_inj, UInt64.toNat_ofNat', UInt64.toNat_ofNat']
  rfl

/-- After two numbers of draws a generator is in the same state exactly if the numbers differ by
a multiple of the number of words. -/
theorem state_after_eq_iff (generator : SplitMix) (left right : Nat) :
    (generator.after left).state = (generator.after right).state ↔
      left ≡ right [MOD UInt64.size] := by
  rw [state_after, state_after, UInt64.add_right_inj, ← ofNat_eq_ofNat_iff]
  constructor
  · intro same
    have cancelled := congrArg (· * 0xf1de83e19937733d) same
    simp only [mul_mul_inverse (show gamma * 0xf1de83e19937733d = 1 by decide)] at cancelled
    exact cancelled
  · intro same
    rw [same]

theorem draw_eq_iff (generator : SplitMix) (left right : Nat) :
    generator.draw left = generator.draw right ↔ left ≡ right [MOD UInt64.size] := by
  change mix ((generator.after left).state + gamma) = mix ((generator.after right).state + gamma) ↔ _
  rw [mix_bijective.injective.eq_iff, UInt64.add_left_inj, state_after_eq_iff]

end SplitMix

/-! ## What a source is used for -/

namespace FaultSource

/-- The ways to use a source. -/
inductive Use where
  | word
  | half
  | number
  | bytes (count : Nat)
  | check (policy : PingPolicy)
  | fork

/-- How many draws a use takes.  A check whose probability decides it takes none. -/
def Use.draws : Use → Nat
  | .bytes count => (count + 7) / 8
  | .check policy =>
    if policy.probability <= 0.0 then 0 else if policy.probability >= 1.0 then 0 else 1
  | _ => 1

def totalDraws : List Use → Nat
  | [] => 0
  | use :: later => use.draws + totalDraws later

/-- What is left of a source after a use. -/
def spend (source : FaultSource) : Use → FaultSource
  | .word => source.next.2
  | .half => source.nextHalf.2
  | .number => source.uniform.2
  | .bytes count => (source.fill count).2
  | .check policy => (policy.signals source).2
  | .fork => source.fork.2

def spendAll (source : FaultSource) (uses : List Use) : FaultSource :=
  uses.foldl spend source

/-- The sources that are made by the forks among some uses. -/
def children (source : FaultSource) : List Use → List FaultSource
  | [] => []
  | .fork :: later => source.fork.1 :: (source.spend .fork).children later
  | use :: later => (source.spend use).children later

/-- The draws that are taken as seeds by the forks among some uses. -/
def seeds (source : FaultSource) : List Use → List UInt64
  | [] => []
  | .fork :: later => source.next.1 :: (source.spend .fork).seeds later
  | use :: later => (source.spend use).seeds later

/-- The places of the draws that forks take, counted from zero. -/
def forkPlaces : List Use → List Nat
  | [] => []
  | .fork :: later => 0 :: (forkPlaces later).map (1 + ·)
  | use :: later => (forkPlaces later).map (use.draws + ·)

theorem children_eq_map_seeds (source : FaultSource) (uses : List Use) :
    source.children uses = (source.seeds uses).map ofSeed := by
  induction uses generalizing source with
  | nil => rfl
  | cons use later ih =>
      cases use with
      | fork => exact congrArg (ofSeed source.next.1 :: ·) (ih _)
      | _ => exact ih _

/-- A row of bytes takes a draw for every eight bytes that are begun. -/
theorem fill_generated (generator : SplitMix) (count : Nat) :
    ((generated generator).fill count).2 = generated (generator.after ((count + 7) / 8)) := by
  induction count using Nat.strong_induction_on generalizing generator with
  | _ count ih =>
      rw [fill]
      split
      · rename_i whole
        have shorter : (count + 7) / 8 = (count - 8 + 7) / 8 + 1 := by omega
        rw [shorter, SplitMix.after_succ]
        exact ih (count - 8) (by omega) generator.next.2
      · have rest : 0 < count → (count + 7) / 8 = 1 := by omega
        split
        · rw [rest (by omega)]
          rfl
        · split
          · rw [rest (by omega)]
            rfl
          · have none : (count + 7) / 8 = 0 := by omega
            rw [none]
            rfl

theorem spend_generated (generator : SplitMix) (use : Use) :
    (generated generator).spend use = generated (generator.after use.draws) := by
  cases use with
  | bytes count => exact fill_generated generator count
  | check policy =>
      simp only [spend, Use.draws, PingPolicy.signals]
      split
      · rfl
      · split <;> rfl
  | _ => rfl

theorem spendAll_generated (generator : SplitMix) (uses : List Use) :
    (generated generator).spendAll uses = generated (generator.after (totalDraws uses)) := by
  induction uses generalizing generator with
  | nil => rfl
  | cons use later ih =>
      change ((generated generator).spend use).spendAll later = _
      rw [spend_generated, ih, totalDraws, SplitMix.after_add]

theorem seeds_generated (generator : SplitMix) (uses : List Use) :
    (generated generator).seeds uses = (forkPlaces uses).map generator.draw := by
  induction uses generalizing generator with
  | nil => rfl
  | cons use later ih =>
      -- What is drawn later is drawn from the generator that this use leaves behind.
      have moved : ((generated generator).spend use).seeds later =
          ((forkPlaces later).map (use.draws + ·)).map generator.draw := by
        rw [spend_generated, ih, List.map_map]
        exact List.map_congr_left fun place _ => generator.draw_after use.draws place
      cases use with
      | fork => exact congrArg (generator.draw 0 :: ·) moved
      | _ => simp only [seeds, forkPlaces, moved]

theorem forkPlaces_lt {uses : List Use} {place : Nat} (member : place ∈ forkPlaces uses) :
    place < totalDraws uses := by
  induction uses generalizing place with
  | nil => cases member
  | cons use later ih =>
      have shifted {count : Nat} (among : place ∈ (forkPlaces later).map (count + ·)) :
          place < count + totalDraws later := by
        rcases List.mem_map.mp among with ⟨earlier, inside, rfl⟩
        exact Nat.add_lt_add_left (ih inside) count
      cases use with
      | fork =>
          rcases List.mem_cons.mp member with rfl | among
          · exact Nat.lt_add_right _ Nat.one_pos
          · exact shifted among
      | _ => exact shifted member

/-- No two forks take the same draw. -/
theorem forkPlaces_nodup (uses : List Use) : (forkPlaces uses).Nodup := by
  induction uses with
  | nil => exact List.nodup_nil
  | cons use later ih =>
      have shifted (count : Nat) : ((forkPlaces later).map (count + ·)).Nodup :=
        ih.map fun _ _ same => Nat.add_left_cancel same
      cases use with
      | fork =>
          refine List.nodup_cons.mpr ⟨fun member => ?_, shifted 1⟩
          rcases List.mem_map.mp member with ⟨place, -, zero⟩
          omega
      | _ => exact shifted _

/-- The seeds of all forks differ as long as the draws of the sequence do. -/
theorem seeds_nodup (generator : SplitMix) {uses : List Use}
    (few : totalDraws uses ≤ UInt64.size) : ((generated generator).seeds uses).Nodup := by
  rw [seeds_generated]
  refine (forkPlaces_nodup uses).map_on fun left inLeft right inRight same => ?_
  have congruent := (generator.draw_eq_iff left right).mp same
  exact congruent.eq_of_lt_of_lt (Nat.lt_of_lt_of_le (forkPlaces_lt inLeft) few)
    (Nat.lt_of_lt_of_le (forkPlaces_lt inRight) few)

/-- **Draws repeat only after all words.**  Mixing is a bijection of words and the state moves on
by an odd constant.  So two draws of the generator of any seed are the same if and only if their
places differ by a multiple of the number of words.  Among draws that are no more than there are
words, wherever they begin, the forks of one source take pairwise different seeds, and these are
the seeds of the sources that the forks make. -/
theorem full_period (seed : UInt64) :
    Function.Bijective SplitMix.mix ∧ Odd SplitMix.gamma.toNat ∧
      (∀ generator : SplitMix, generator.next.2.state = generator.state + SplitMix.gamma) ∧
      (∀ left right, (SplitMix.ofSeed seed).draw left = (SplitMix.ofSeed seed).draw right ↔
        left ≡ right [MOD UInt64.size]) ∧
      ∀ earlier uses, totalDraws uses ≤ UInt64.size →
        (((ofSeed seed).spendAll earlier).seeds uses).Nodup ∧
          ((ofSeed seed).spendAll earlier).children uses =
            (((ofSeed seed).spendAll earlier).seeds uses).map ofSeed := by
  refine ⟨SplitMix.mix_bijective, by decide, fun _ => rfl, SplitMix.draw_eq_iff _,
    fun earlier uses few => ⟨?_, children_eq_map_seeds _ uses⟩⟩
  rw [ofSeed, spendAll_generated]
  exact seeds_nodup _ few

/-- Three forks with other uses in between. -/
def interspersed : List Use :=
  [.fork, .half, .fork, .bytes 20, .fork]

/-- The three forks take the draws at three places, and these give different seeds. -/
theorem interspersed_full_period :
    totalDraws interspersed ≤ UInt64.size ∧ forkPlaces interspersed = [0, 2, 6] ∧
      (((ofSeed 7).spendAll [.word, .fork]).seeds interspersed).Nodup := by
  have few : totalDraws interspersed ≤ UInt64.size := by decide
  rcases full_period 7 with ⟨-, -, -, -, forks⟩
  exact ⟨few, rfl, (forks [.word, .fork] interspersed few).1⟩

/-! ## Sources that are the same -/

/-- Different seeds give different sources, except that seed zero stands for the constant. -/
theorem ofSeed_eq_iff (left right : UInt64) :
    ofSeed left = ofSeed right ↔
      left = right ∨ left = 0 ∧ right = SplitMix.gamma ∨ left = SplitMix.gamma ∧ right = 0 := by
  simp only [ofSeed, SplitMix.ofSeed, generated.injEq, SplitMix.mk.injEq]
  by_cases zeroLeft : left = 0 <;> by_cases zeroRight : right = 0 <;>
    simp [zeroLeft, zeroRight, eq_comm]

/-- As long as draws do not repeat and none of the seeds is zero, the forks of a source make
pairwise different sources. -/
theorem children_nodup (generator : SplitMix) {uses : List Use}
    (few : totalDraws uses ≤ UInt64.size) (nonzero : 0 ∉ (generated generator).seeds uses) :
    ((generated generator).children uses).Nodup := by
  rw [children_eq_map_seeds]
  refine (seeds_nodup generator few).map_on fun left inLeft right inRight same => ?_
  rcases (ofSeed_eq_iff left right).mp same with equal | ⟨rfl, -⟩ | ⟨-, rfl⟩
  · exact equal
  · exact absurd inLeft nonzero
  · exact absurd inRight nonzero

end FaultSource
end CommandMachine
