import ScriptHost.Extension.Math
import ScriptHost.Proofs.Decimal.Integers

/-!
Random integers.

The upper half of the product of a word and the size of a range is less than the size. So the lower
bound and that half add up to a number of the range, and the sum does not wrap. Bounds that are
given as doubles have to be integers that are not rounded, and a sample between such bounds is not
rounded either.
-/

set_option autoImplicit false

namespace ScriptHost

open Script Decimal

namespace Random

variable {generator : Generator} {low high : Int64} {word size : Nat}

/-- The generator after some more words are drawn. -/
def Generator.skip (generator : Generator) (count : Nat) : Generator :=
  { generator with drawn := generator.drawn + count }

theorem Generator.next_eq (generator : Generator) :
    ∃ word, generator.next = (word, generator.skip 1) ∧ word < UInt64.size := by
  refine ⟨_, rfl, ?_⟩
  have low := UInt32.toNat_lt ((generator.block (generator.drawn / 8)).getD
    (2 * (generator.drawn % 8)) 0)
  have high := UInt32.toNat_lt ((generator.block (generator.drawn / 8)).getD
    (2 * (generator.drawn % 8) + 1) 0)
  change _ + UInt32.size * _ < UInt64.size
  simp only [UInt32.size, UInt64.size]
  omega

theorem offset_lt (drawn : word < UInt64.size) (positive : 0 < size) :
    word * size / UInt64.size < size :=
  Nat.div_lt_of_lt_mul (Nat.mul_lt_mul_of_pos_right drawn positive)

theorem sampleOffset_spec (zone : Nat) (positive : 0 < size) (remaining : Nat)
    (generator : Generator) :
    ∃ offset count, sampleOffset size zone remaining generator = (offset, generator.skip count) ∧
      offset < size ∧ (0 < remaining → 0 < count) := by
  induction remaining generalizing generator with
  | zero => exact ⟨0, 0, rfl, positive, id⟩
  | succ remaining ih =>
      obtain ⟨word, next, drawn⟩ := generator.next_eq
      unfold sampleOffset
      rw [next]
      dsimp only
      split
      case isTrue => exact ⟨_, 1, rfl, offset_lt drawn positive, fun _ => Nat.one_pos⟩
      case isFalse =>
        obtain ⟨offset, count, sampled, below, -⟩ := ih (generator.skip 1)
        refine ⟨offset, 1 + count, sampled.trans ?_, below, fun _ => by omega⟩
        unfold Generator.skip
        rw [Nat.add_assoc]

theorem toInt_bounds (number : Int64) : -2 ^ 63 ≤ number.toInt ∧ number.toInt < 2 ^ 63 :=
  ⟨number.le_toInt, number.toInt_lt⟩

theorem sum_exact {offset : Nat} (within : low.toInt + offset ≤ high.toInt) :
    (low + Int64.ofNat offset).toInt = low.toInt + offset := by
  have least := (toInt_bounds low).1
  have most := (toInt_bounds high).2
  rw [Int64.toInt_add, Int64.toInt_ofNat', Int64.size, Int.add_bmod_bmod]
  exact Int.bmod_eq_of_le (by omega) (by omega)

theorem word_toNat (number : Int64) :
    (number.toUInt64.toNat : Int) = number.toInt % UInt64.size := by
  have below := number.toBitVec.isLt
  rw [show number.toInt = number.toBitVec.toInt from rfl, BitVec.toInt_eq_toNat_bmod]
  change (number.toBitVec.toNat : Int) = Int.bmod _ UInt64.size % UInt64.size
  rw [Int.bmod_emod, Int.emod_eq_of_lt (by omega) (by exact_mod_cast below)]

/-- The size of a range is the number of its integers, or zero if these are as many as there are
words. It does not matter if it is computed in words. -/
theorem size_cases (ordered : low ≤ high) :
    let size := (high.toInt - low.toInt + 1).toNat % UInt64.size
    (high - low + 1).toUInt64.toNat = size ∧
      (size = 0 ∧ low.toInt = -2 ^ 63 ∧ high.toInt = 2 ^ 63 - 1 ∨
        0 < size ∧ (size : Int) = high.toInt - low.toInt + 1) := by
  have ordered := Int64.le_iff_toInt_le.mp ordered
  obtain ⟨least, _⟩ := toInt_bounds low
  obtain ⟨_, most⟩ := toInt_bounds high
  have wrapped : ((high - low + 1).toUInt64.toNat : Int) =
      (high.toInt - low.toInt + 1) % UInt64.size := by
    rw [word_toNat, Int64.toInt_add, Int64.toInt_sub, Int.bmod_add_bmod]
    exact Int.bmod_emod
  simp only [UInt64.size] at wrapped ⊢
  omega

theorem asSigned_bounds (drawn : word < UInt64.size) :
    -2 ^ 63 ≤ asSigned word ∧ asSigned word ≤ 2 ^ 63 - 1 := by
  unfold asSigned
  simp only [UInt64.size, Nat.pow_eq] at drawn ⊢
  split <;> omega

theorem word_within (ordered : low ≤ high) (drawn : word < UInt64.size) :
    let size := (high - low + 1).toUInt64.toNat
    let sample := low + Int64.ofNat (word * size / UInt64.size)
    (size = 0 → low.toInt ≤ asSigned word ∧ asSigned word ≤ high.toInt) ∧
      (size ≠ 0 → sample.toInt = low.toInt + (word * size / UInt64.size : Nat) ∧
        low ≤ sample ∧ sample ≤ high) := by
  obtain ⟨same, sizes⟩ := size_cases ordered
  dsimp only
  rw [same]
  generalize (high.toInt - low.toInt + 1).toNat % UInt64.size = size at sizes
  rcases sizes with ⟨zero, least, most⟩ | ⟨positive, span⟩
  · rw [zero, least, most]
    exact ⟨fun _ => asSigned_bounds drawn, fun other => absurd rfl other⟩
  · have below := offset_lt drawn positive
    have within : low.toInt + (word * size / UInt64.size : Nat) ≤ high.toInt := by omega
    refine ⟨fun zero => absurd zero positive.ne', fun _ => ⟨sum_exact within, ?_, ?_⟩⟩
    · rw [Int64.le_iff_toInt_le, sum_exact within]
      exact Int.le_add_of_nonneg_right (Int.natCast_nonneg _)
    · rw [Int64.le_iff_toInt_le, sum_exact within]
      exact within

/-- Whatever words are drawn, the sample is in the range, and it is the sum of the lower bound and
an offset that as words have the same sum. -/
theorem integer_within (ordered : low ≤ high) (generator : Generator) :
    ∃ offset count : Nat, integer low.toInt high.toInt generator =
        .ok (low.toInt + offset, generator.skip count) ∧
      low.toInt + offset ≤ high.toInt ∧ (low + Int64.ofNat offset).toInt = low.toInt + offset ∧
      0 < count := by
  have inOrder : ¬low.toInt > high.toInt := Int.not_lt.mpr (Int64.le_iff_toInt_le.mp ordered)
  obtain ⟨-, sizes⟩ := size_cases ordered
  unfold integer
  rw [if_neg inOrder]
  dsimp only
  generalize (high.toInt - low.toInt + 1).toNat % UInt64.size = size at sizes
  rcases sizes with ⟨zero, least, most⟩ | ⟨positive, span⟩
  · obtain ⟨word, next, drawn⟩ := generator.next_eq
    obtain ⟨above, below⟩ := asSigned_bounds drawn
    obtain ⟨offset, sum⟩ := Int.eq_ofNat_of_zero_le (sub_nonneg.mpr above)
    have whole : asSigned word = low.toInt + offset := by omega
    have within : low.toInt + offset ≤ high.toInt := by omega
    rw [if_pos zero, next]
    exact ⟨offset, 1, by rw [← whole], within, sum_exact within, Nat.one_pos⟩
  · obtain ⟨offset, count, sampled, below, draws⟩ :=
      sampleOffset_spec (acceptanceZone size) positive attempts generator
    have within : low.toInt + offset ≤ high.toInt := by omega
    rw [if_neg positive.ne', sampled]
    exact ⟨offset, count, rfl, within, sum_exact within, draws (by decide)⟩

theorem integerBound_eq {number : Float} {integer : Int} (role : String)
    (isInteger : IsInteger number integer) : integerBound number role = .ok integer := by
  unfold integerBound
  rw [exactInteger?_eq_some_iff.mpr isInteger]

theorem integerBound_refused {number : Float} (role : String)
    (fraction : ∀ integer, ¬IsInteger number integer) :
    ∃ text, integerBound number role = .error (.domain text) := by
  unfold integerBound
  cases found : exactInteger? number with
  | none => exact ⟨_, rfl⟩
  | some integer => exact absurd (exactInteger?_eq_some_iff.mp found) (fraction integer)

/-- Bounds between which nothing is drawn. -/
def Unusable (low high : Float) : Prop :=
  (∀ integer, ¬IsInteger low integer) ∨ (∀ integer, ¬IsInteger high integer) ∨ high < low

theorem integerBetween_refused {low high : Float} (unusable : Unusable low high)
    (generator : Generator) :
    ∃ text, integerBetween low high generator = .error (.domain text) := by
  unfold integerBetween
  by_cases lowest : ∀ integer, ¬IsInteger low integer
  · obtain ⟨text, refused⟩ := integerBound_refused "min" lowest
    rw [refused]
    exact ⟨text, rfl⟩
  · obtain ⟨least, isLeast⟩ := not_forall_not.mp lowest
    rw [integerBound_eq "min" isLeast]
    by_cases highest : ∀ integer, ¬IsInteger high integer
    · obtain ⟨text, refused⟩ := integerBound_refused "max" highest
      rw [refused]
      exact ⟨text, rfl⟩
    · obtain ⟨most, isMost⟩ := not_forall_not.mp highest
      have inverted := (unusable.resolve_left lowest).resolve_left highest
      rw [integerBound_eq "max" isMost]
      change ∃ text, (integer least most generator >>= fun _ => _) = _
      unfold integer
      rw [if_pos ((isMost.lt_iff isLeast).mp inverted)]
      exact ⟨_, rfl⟩

theorem toInt_ofInt {integer : Int} (small : integer.natAbs ≤ exactLimit) :
    (Int64.ofInt integer).toInt = integer := by
  change integer.natAbs ≤ 2 ^ 53 at small
  rw [Int64.toInt_ofInt]
  exact Int.bmod_eq_of_le (by simp only [Int64.size]; omega) (by simp only [Int64.size]; omega)

theorem integerBetween_within {low high : Float} {least most : Int} (isLeast : IsInteger low least)
    (isMost : IsInteger high most) (ordered : ¬high < low) (generator : Generator) :
    ∃ integer count, integerBetween low high generator =
        .ok (Float.ofInt integer, generator.skip count) ∧
      IsInteger (Float.ofInt integer) integer ∧ least ≤ integer ∧ integer ≤ most ∧ 0 < count := by
  have inOrder : Int64.ofInt least ≤ Int64.ofInt most := by
    rw [Int64.le_iff_toInt_le, toInt_ofInt isLeast.2, toInt_ofInt isMost.2]
    exact Int.not_lt.mp (mt (isMost.lt_iff isLeast).mpr ordered)
  obtain ⟨offset, count, sampled, within, -, draws⟩ := integer_within inOrder generator
  rw [toInt_ofInt isLeast.2, toInt_ofInt isMost.2] at sampled
  rw [toInt_ofInt isLeast.2, toInt_ofInt isMost.2] at within
  have small : (least + offset).natAbs ≤ exactLimit := by
    have := isLeast.2
    have := isMost.2
    omega
  refine ⟨least + offset, count, ?_, isInteger_ofInt small,
    Int.le_add_of_nonneg_right (Int.natCast_nonneg _), within, draws⟩
  unfold integerBetween
  rw [integerBound_eq "min" isLeast, integerBound_eq "max" isMost]
  change (integer least most generator >>= fun _ => _) = _
  rw [sampled]
  rfl

theorem perform_draw (types : TypeRegistry) (sampler : Sampler) (state : CallState) :
    Call.perform types (.draw sampler fun answer =>
        (Routine.ofResult answer).bind fun sample => .done (HostValue.number sample)) state =
      match sampler.sample state.store.generator with
      | .ok (sample, generator) => .ok (.number sample) ⟨⟨state.store.heap, generator⟩, state.fresh⟩
      | .error fault => .error fault state := by
  unfold Call.perform Call.draw
  dsimp only
  cases sampler.sample state.store.generator with
  | ok drawn => rfl
  | error fault => rfl

theorem call_randomInt (types : TypeRegistry) (state : CallState) (low high : Float) :
    Call.scriptFunction types Extension.Math.functions[5]
        [.datum (.float low), .datum (.float high)] state =
      match integerBetween low high state.store.generator with
      | .ok (sample, generator) => .ok (.number sample) ⟨⟨state.store.heap, generator⟩, state.fresh⟩
      | .error fault => .error fault state :=
  perform_draw types (.integer low high) state

/-- The function `random_int` of the module refuses bounds that are inverted or no integers, and
then draws nothing. Between all others it draws an integer. Below it, a sample between two bounds is
between them whatever words are drawn, even if the bounds are as far apart as can be, and adding the
offset to the lower bound does not wrap. -/
theorem integers_stay_in_range :
    (∃ function, Extension.Math.functions.find? (·.name == "random_int") = some function ∧
      ∀ (types : TypeRegistry) (state : CallState) (low high : Float),
        let outcome := Call.scriptFunction types function
          [.datum (.float low), .datum (.float high)] state
        ((∃ text, outcome = .error (.domain text) state) ↔ Unusable low high) ∧
        ∀ least most, IsInteger low least → IsInteger high most → ¬high < low →
          ∃ sample integer count, outcome = .ok (.number sample)
              ⟨⟨state.store.heap, state.store.generator.skip count⟩, state.fresh⟩ ∧
            0 < count ∧ IsInteger sample integer ∧ least ≤ integer ∧ integer ≤ most) ∧
    ∀ low high : Int64, low ≤ high →
      (∀ generator : Generator, ∃ offset count : Nat,
        integer low.toInt high.toInt generator =
          .ok (low.toInt + offset, generator.skip count) ∧
        low.toInt + offset ≤ high.toInt ∧
        (low + Int64.ofNat offset).toInt = low.toInt + offset ∧ 0 < count) ∧
      ∀ word < UInt64.size,
        let size := (high - low + 1).toUInt64.toNat
        let sample := low + Int64.ofNat (word * size / UInt64.size)
        (size = 0 → low.toInt ≤ asSigned word ∧ asSigned word ≤ high.toInt) ∧
          (size ≠ 0 → sample.toInt = low.toInt + (word * size / UInt64.size : Nat) ∧
            low ≤ sample ∧ sample ≤ high) := by
  refine ⟨⟨Extension.Math.functions[5], rfl, fun types state low high => ⟨?refused, ?drawn⟩⟩,
    fun low high ordered => ⟨integer_within ordered, fun word => word_within ordered⟩⟩
  case drawn =>
    intro least most isLeast isMost inOrder
    obtain ⟨integer, count, sampled, isInteger, above, below, draws⟩ :=
      integerBetween_within isLeast isMost inOrder state.store.generator
    refine ⟨_, integer, count, ?_, draws, isInteger, above, below⟩
    rw [call_randomInt, sampled]
  case refused =>
    constructor
    · rintro ⟨text, failed⟩
      by_contra usable
      obtain ⟨lowest, highest, inOrder⟩ := not_or.mp usable |>.imp_right not_or.mp
      obtain ⟨least, isLeast⟩ := not_forall_not.mp lowest
      obtain ⟨most, isMost⟩ := not_forall_not.mp highest
      obtain ⟨integer, count, sampled, -⟩ :=
        integerBetween_within isLeast isMost inOrder state.store.generator
      rw [call_randomInt, sampled] at failed
      cases failed
    · intro unusable
      obtain ⟨text, refused⟩ := integerBetween_refused unusable state.store.generator
      refine ⟨text, ?_⟩
      rw [call_randomInt, refused]

/-- A die shows one of its faces, and a word is drawn where the size of the range is no word. -/
theorem die_shows_a_face :
    (∃ function sample face count,
      Extension.Math.functions.find? (·.name == "random_int") = some function ∧
      Call.scriptFunction .empty function [.datum (.float 1.0), .datum (.float 6.0)]
          ⟨⟨.empty, .ofSeed 1⟩, #[]⟩ =
        .ok (.number sample) ⟨⟨.empty, (Generator.ofSeed 1).skip count⟩, #[]⟩ ∧
      IsInteger sample face ∧ 1 ≤ face ∧ face ≤ 6) ∧
    ∃ offset count : Nat, integer Int64.minValue.toInt Int64.maxValue.toInt (.ofSeed 1) =
      .ok (Int64.minValue.toInt + offset, (Generator.ofSeed 1).skip count) ∧
      Int64.minValue.toInt + offset ≤ Int64.maxValue.toInt := by
  obtain ⟨⟨function, found, called⟩, words⟩ := integers_stay_in_range
  have one : IsInteger 1.0 1 := exactInteger?_eq_some_iff.mp (by decide +kernel)
  have six : IsInteger 6.0 6 := exactInteger?_eq_some_iff.mp (by decide +kernel)
  obtain ⟨sample, face, count, answered, -, shown, above, below⟩ :=
    (called .empty ⟨⟨.empty, .ofSeed 1⟩, #[]⟩ 1.0 6.0).2 1 6 one six (by decide +kernel)
  obtain ⟨offset, words, drawn, within, -⟩ :=
    (words Int64.minValue Int64.maxValue (by decide)).1 (.ofSeed 1)
  exact ⟨⟨function, sample, face, count, found, answered, shown, above, below⟩,
    offset, words, drawn, within⟩

end Random
end ScriptHost
