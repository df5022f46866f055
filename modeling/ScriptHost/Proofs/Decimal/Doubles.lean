import Mathlib
import ScriptHost.Decimal.Binary

/-!
The numbers that doubles are.

A double that is not infinite and not a NaN is a rational number, which its bits give, and doubles
compare as the numbers that they are.
-/

set_option autoImplicit false

namespace ScriptHost.Decimal

open Float.Model Float.Model.UnpackedFloat

def Dyadic.value (dyadic : Dyadic) : ℚ :=
  dyadic.mantissa * 2 ^ dyadic.exponent

def value? (number : Float) : Option ℚ :=
  match magnitude number with
  | .zero => some 0
  | .finite dyadic => some (if hasMinus number then -dyadic.value else dyadic.value)
  | .infinite | .notANumber => none

theorem mantissa_toNat (bits : BitVec 64) :
    (@unpackMantissa Format.binary64 bits).toNat = bits.toNat % 2 ^ 52 := by
  rw [unpackMantissa_def, BitVec.extractLsb'_toNat]
  rfl

theorem exponent_toNat (bits : BitVec 64) :
    (@unpackExponent Format.binary64 bits).toNat = bits.toNat / 2 ^ 52 % 2 ^ 11 := by
  rw [unpackExponent_def, BitVec.extractLsb'_toNat, Nat.shiftRight_eq_div_pow]

theorem sign_toNat (bits : BitVec 64) :
    (@unpackSign Format.binary64 bits).toNat = bits.toNat / 2 ^ 63 % 2 := by
  rw [unpackSign_def, BitVec.extractLsb'_toNat, Nat.shiftRight_eq_div_pow]
  rfl

def signOf (minus : Bool) : Sign :=
  if minus then .negative else .positive

theorem sign_eq (bits : BitVec 64) :
    Sign.ofBitVec (@unpackSign Format.binary64 bits) =
      signOf (bits.toNat / 2 ^ 63 % 2 == 1) := by
  have plain : @unpackSign Format.binary64 bits = 0#1 ↔ bits.toNat / 2 ^ 63 % 2 = 0 := by
    rw [← BitVec.toNat_inj, sign_toNat]
    rfl
  unfold Sign.ofBitVec signOf
  simp only [plain, beq_iff_eq]
  split <;> split <;> first | rfl | omega

/-- A mantissa and an exponent that a double has room for. The mantissa is as large as possible, so
that no other pair is the same number. -/
structure Fits (mantissa : Nat) (exponent : Int) : Prop where
  below : mantissa < 2 ^ 53
  least : -1074 ≤ exponent
  most : exponent ≤ 971
  full : 2 ^ 52 ≤ mantissa ∨ exponent = -1074

/-- An unpacked double beside the magnitude that its bits are read as. -/
inductive Reads (minus : Bool) : Magnitude → UnpackedFloat → Prop where
  | zero : Reads minus .zero (.zero (signOf minus))
  | finite (mantissa : Nat) (exponent : Int) (narrow : Bool) (positive : 0 < mantissa)
      (fits : Fits mantissa exponent) :
      Reads minus (.finite ⟨mantissa, exponent, narrow⟩)
        (.finite (signOf minus) mantissa exponent positive)
  | infinite : Reads minus .infinite (.infinity (signOf minus))
  | notANumber : Reads minus .notANumber .notANumber

theorem Reads.of_eq {minus : Bool} {mantissa : Nat} {exponent : Int} {narrow : Bool}
    {sign : Sign} {size : Nat} {place : Int} {positive : 0 < size} (signed : sign = signOf minus)
    (sized : size = mantissa) (placed : place = exponent) (fits : Fits mantissa exponent) :
    Reads minus (.finite ⟨mantissa, exponent, narrow⟩) (.finite sign size place positive) := by
  subst signed sized placed
  exact .finite size place narrow positive fits

theorem exponent_eq_iff (bits : BitVec 64) (exponent : BitVec 11) :
    @unpackExponent Format.binary64 bits = exponent ↔
      bits.toNat / 2 ^ 52 % 2 ^ 11 = exponent.toNat := by
  rw [← BitVec.toNat_inj, exponent_toNat]

theorem mantissa_eq_zero_iff (bits : BitVec 64) :
    @unpackMantissa Format.binary64 bits = 0#52 ↔ bits.toNat % 2 ^ 52 = 0 := by
  rw [← BitVec.toNat_inj, mantissa_toNat]
  rfl

theorem reads_bits (bits : BitVec 64) :
    Reads (bits.toNat / 2 ^ 63 % 2 == 1) (magnitudeOfBits bits.toNat)
      (UnpackedFloat.unpack Format.binary64 bits) := by
  have mantissa := mantissa_toNat bits
  have exponent := exponent_toNat bits
  have small : bits.toNat % 2 ^ 52 < 2 ^ 52 := Nat.mod_lt _ (by decide)
  unfold magnitudeOfBits
  simp only [Nat.pow_eq]
  fun_cases UnpackedFloat.unpack Format.binary64 bits with
  | case1 mantissaBits exponentBits signBits sign top blank =>
      have top : bits.toNat / 2 ^ 52 % 2 ^ 11 = 2047 := (exponent_eq_iff bits _).mp top
      have blank := (mantissa_eq_zero_iff bits).mp blank
      rw [if_pos top, if_pos blank, show sign = _ from sign_eq bits]
      exact .infinite
  | case2 mantissaBits exponentBits top filled =>
      have top : bits.toNat / 2 ^ 52 % 2 ^ 11 = 2047 := (exponent_eq_iff bits _).mp top
      have filled := mt (mantissa_eq_zero_iff bits).mpr filled
      rw [if_pos top, if_neg filled]
      exact .notANumber
  | case3 mantissaBits exponentBits signBits sign notTop bottom blank =>
      have notTop : ¬bits.toNat / 2 ^ 52 % 2 ^ 11 = 2047 := fun same =>
        notTop ((exponent_eq_iff bits _).mpr same)
      have bottom : bits.toNat / 2 ^ 52 % 2 ^ 11 = 0 := (exponent_eq_iff bits _).mp bottom
      have blank := (mantissa_eq_zero_iff bits).mp blank
      rw [if_neg notTop, if_pos bottom, if_pos blank, show sign = _ from sign_eq bits]
      exact .zero
  | case4 mantissaBits exponentBits place signBits sign notTop bottom filled =>
      have notTop : ¬bits.toNat / 2 ^ 52 % 2 ^ 11 = 2047 := fun same =>
        notTop ((exponent_eq_iff bits _).mpr same)
      have bottom : bits.toNat / 2 ^ 52 % 2 ^ 11 = 0 := (exponent_eq_iff bits _).mp bottom
      have filled := mt (mantissa_eq_zero_iff bits).mpr filled
      rw [if_neg notTop, if_pos bottom, if_neg filled]
      refine .of_eq (sign_eq bits) mantissa ?_ ⟨by omega, by decide, by decide, .inr rfl⟩
      change ((@unpackExponent Format.binary64 bits).toNat : Int) - 1075 + 1 = -1074
      omega
  | case5 mantissaBits exponentBits place signBits sign notTop notBottom =>
      have notTop : ¬bits.toNat / 2 ^ 52 % 2 ^ 11 = 2047 := fun same =>
        notTop ((exponent_eq_iff bits _).mpr same)
      have notBottom : ¬bits.toNat / 2 ^ 52 % 2 ^ 11 = 0 := fun same =>
        notBottom ((exponent_eq_iff bits _).mpr same)
      rw [if_neg notTop, if_neg notBottom]
      have full : (1#1 ++ mantissaBits).toNat = 2 ^ 52 + bits.toNat % 2 ^ 52 := by
        rw [BitVec.toNat_append, ← Nat.shiftLeft_add_eq_or_of_lt mantissaBits.isLt, mantissa]
        rfl
      refine .of_eq (sign_eq bits) full ?_ ⟨by omega, by omega, by omega, .inl (by omega)⟩
      change ((@unpackExponent Format.binary64 bits).toNat : Int) - 1075 = _
      omega

theorem reads (number : Float) :
    Reads (hasMinus number) (magnitude number) number.toModel.unpack :=
  reads_bits number.toBits.toBitVec

/-- The number of an unpacked double. -/
inductive Denotes : UnpackedFloat → ℚ → Prop where
  | zero (sign : Sign) : Denotes (.zero sign) 0
  | positive (mantissa : Nat) (exponent : Int) (nonzero : 0 < mantissa)
      (fits : Fits mantissa exponent) :
      Denotes (.finite .positive mantissa exponent nonzero) (mantissa * 2 ^ exponent)
  | negative (mantissa : Nat) (exponent : Int) (nonzero : 0 < mantissa)
      (fits : Fits mantissa exponent) :
      Denotes (.finite .negative mantissa exponent nonzero) (-(mantissa * 2 ^ exponent))

theorem value?_eq_some_iff {number : Float} {x : ℚ} :
    value? number = some x ↔ Denotes number.toModel.unpack x := by
  have form := reads number
  unfold value?
  generalize magnitude number = size, hasMinus number = minus,
    number.toModel.unpack = unpacked at form ⊢
  cases form with
  | infinite => exact ⟨nofun, nofun⟩
  | notANumber => exact ⟨nofun, nofun⟩
  | zero =>
      constructor
      · rintro ⟨⟩
        exact .zero _
      · rintro ⟨⟩
        rfl
  | finite mantissa exponent narrow nonzero fits =>
      cases minus with
      | false =>
          constructor
          · rintro ⟨⟩
            exact .positive mantissa exponent nonzero fits
          · rintro ⟨⟩
            rfl
      | true =>
          constructor
          · rintro ⟨⟩
            exact .negative mantissa exponent nonzero fits
          · rintro ⟨⟩
            rfl

theorem Fits.size_lt {mantissa other : Nat} {exponent place : Int} (fits : Fits mantissa exponent)
    (others : Fits other place) (later : exponent < place) :
    (mantissa : ℚ) * 2 ^ exponent < other * 2 ^ place := by
  have full : 2 ^ 52 ≤ other := others.full.resolve_right (by have := fits.least; omega)
  have below : (mantissa : ℚ) < 2 ^ 53 := by exact_mod_cast fits.below
  have full : (2 : ℚ) ^ 52 ≤ other := by exact_mod_cast full
  calc (mantissa : ℚ) * 2 ^ exponent
      < 2 ^ 53 * 2 ^ exponent := by gcongr
    _ = 2 ^ 52 * 2 ^ (exponent + 1) := by rw [zpow_add_one₀ two_ne_zero]; ring
    _ ≤ other * 2 ^ place := by gcongr <;> [norm_num; omega]

theorem Fits.compare_eq {mantissa other : Nat} {exponent place : Int} (fits : Fits mantissa exponent)
    (others : Fits other place) :
    (compare exponent place).then (compare mantissa other) =
      compare ((mantissa : ℚ) * 2 ^ exponent) (other * 2 ^ place) := by
  rcases lt_trichotomy exponent place with earlier | rfl | later
  · rw [compare_lt_iff_lt.mpr earlier, compare_lt_iff_lt.mpr (fits.size_lt others earlier)]
    rfl
  · have positive : (0 : ℚ) < 2 ^ exponent := by positivity
    rw [compare_eq_iff_eq.mpr rfl, Ordering.eq_then]
    rcases lt_trichotomy mantissa other with smaller | rfl | larger
    · rw [compare_lt_iff_lt.mpr smaller, compare_lt_iff_lt.mpr (by gcongr)]
    · rw [compare_eq_iff_eq.mpr rfl, compare_eq_iff_eq.mpr rfl]
    · rw [compare_gt_iff_gt.mpr larger, compare_gt_iff_gt.mpr (by gcongr)]
  · rw [compare_gt_iff_gt.mpr later, compare_gt_iff_gt.mpr (others.size_lt fits later)]
    rfl

theorem compare_neg (x y : ℚ) : compare (-x) (-y) = (compare x y).swap := by
  rcases lt_trichotomy x y with less | rfl | more
  · rw [compare_lt_iff_lt.mpr less, compare_gt_iff_gt.mpr (neg_lt_neg less)]
    rfl
  · rw [compare_eq_iff_eq.mpr rfl, compare_eq_iff_eq.mpr rfl]
    rfl
  · rw [compare_gt_iff_gt.mpr more, compare_lt_iff_lt.mpr (neg_lt_neg more)]
    rfl

theorem Denotes.compare_eq {left right : UnpackedFloat} {x y : ℚ} (first : Denotes left x)
    (second : Denotes right y) : left.compare right = some (compare x y) := by
  cases first with
  | zero sign =>
      cases second with
      | zero other =>
          rw [compare_eq_iff_eq.mpr rfl]
          rfl
      | positive other place more others =>
          rw [compare_lt_iff_lt.mpr (by positivity)]
          rfl
      | negative other place more others =>
          rw [compare_gt_iff_gt.mpr (neg_lt_zero.mpr (by positivity))]
          rfl
  | positive mantissa exponent nonzero fits =>
      have above : (0 : ℚ) < mantissa * 2 ^ exponent := by positivity
      cases second with
      | zero other =>
          rw [compare_gt_iff_gt.mpr above]
          rfl
      | positive other place more others =>
          rw [← fits.compare_eq others]
          rfl
      | negative other place more others =>
          have below : -((other : ℚ) * 2 ^ place) < 0 := neg_lt_zero.mpr (by positivity)
          rw [compare_gt_iff_gt.mpr (below.trans above)]
          rfl
  | negative mantissa exponent nonzero fits =>
      have below : -((mantissa : ℚ) * 2 ^ exponent) < 0 := neg_lt_zero.mpr (by positivity)
      cases second with
      | zero other =>
          rw [compare_lt_iff_lt.mpr below]
          rfl
      | positive other place more others =>
          rw [compare_lt_iff_lt.mpr (below.trans (by positivity))]
          rfl
      | negative other place more others =>
          rw [compare_neg, ← fits.compare_eq others]
          rfl

theorem lt_iff_of_value? {left right : Float} {x y : ℚ} (first : value? left = some x)
    (second : value? right = some y) : left < right ↔ x < y := by
  have compared := (value?_eq_some_iff.mp first).compare_eq (value?_eq_some_iff.mp second)
  change decide (left.toModel.unpack.lt right.toModel.unpack = true) = true ↔ _
  rw [decide_eq_true_iff, UnpackedFloat.lt, compared, ← compare_lt_iff_lt]
  cases compare x y <;> decide

end ScriptHost.Decimal
