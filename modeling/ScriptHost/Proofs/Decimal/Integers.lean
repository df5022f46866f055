import ScriptHost.Decimal.Integer
import ScriptHost.Proofs.Decimal.Doubles

/-!
Doubles and integers.

A double is read as an integer exactly if it is one of magnitude at most `exactLimit`. Up to this
magnitude an integer is not rounded: it is the number of the double made from it.
-/

set_option autoImplicit false

namespace ScriptHost.Decimal

open Float.Model Float.Model.UnpackedFloat

theorem Dyadic.integer?_eq_some_iff {dyadic : Dyadic} {size : Nat} :
    dyadic.integer? = some size ↔ dyadic.value = size := by
  unfold Dyadic.integer? Dyadic.value
  by_cases whole : 0 ≤ dyadic.exponent
  · obtain ⟨power, same⟩ := Int.eq_ofNat_of_zero_le whole
    rw [if_pos whole, same, zpow_natCast, Option.some_inj, Int.toNat_natCast, Nat.pow_eq]
    exact_mod_cast Iff.rfl
  · obtain ⟨power, same⟩ := Int.eq_ofNat_of_zero_le (a := -dyadic.exponent) (by omega)
    have unit : (0 : ℚ) < 2 ^ power := by positivity
    have exponent : dyadic.exponent = -(power : Int) := by omega
    have divides : (dyadic.mantissa : ℚ) * 2 ^ dyadic.exponent = size ↔
        dyadic.mantissa = size * 2 ^ power := by
      rw [exponent, zpow_neg, zpow_natCast, mul_inv_eq_iff_eq_mul₀ unit.ne']
      exact_mod_cast Iff.rfl
    rw [if_neg whole, same, Int.toNat_natCast, Nat.pow_eq, divides]
    change (if dyadic.mantissa % 2 ^ power = 0 then some (dyadic.mantissa / 2 ^ power) else none) =
      some size ↔ _
    constructor
    · intro found
      split at found
      case isTrue even =>
        cases found
        exact (Nat.div_mul_cancel (Nat.dvd_of_mod_eq_zero even)).symm
      case isFalse => cases found
    · intro multiple
      rw [multiple, Nat.mul_mod_left, if_pos rfl, Nat.mul_div_cancel _ (by positivity)]

theorem Dyadic.value_nonneg (dyadic : Dyadic) : 0 ≤ dyadic.value := by
  unfold Dyadic.value
  positivity

theorem signed_eq_iff (minus : Bool) {size : ℚ} (nonneg : 0 ≤ size) (integer : Int) :
    (if minus then -size else size) = integer ↔
      size = integer.natAbs ∧
        (if minus then -(integer.natAbs : Int) else integer.natAbs) = integer := by
  constructor
  · intro same
    cases minus with
    | true =>
        have negative : (integer : ℚ) ≤ 0 := by rw [← same]; exact neg_nonpos.mpr nonneg
        have absolute : -(integer.natAbs : Int) = integer := by
          have : integer ≤ 0 := by exact_mod_cast negative
          omega
        refine ⟨neg_injective (same.trans ?_), absolute⟩
        rw [← Int.cast_natCast integer.natAbs, ← Int.cast_neg, absolute]
    | false =>
        have positive : (0 : ℚ) ≤ integer := by rw [← same]; exact nonneg
        have absolute : (integer.natAbs : Int) = integer := by
          have : 0 ≤ integer := by exact_mod_cast positive
          omega
        refine ⟨same.trans ?_, absolute⟩
        rw [← Int.cast_natCast integer.natAbs, absolute]
  · rintro ⟨rfl, absolute⟩
    rw [← Int.cast_natCast integer.natAbs, ← Int.cast_neg, ← apply_ite Int.cast, absolute]

/-- The double is this integer, and every integer that is not larger is a double, too. -/
def IsInteger (number : Float) (integer : Int) : Prop :=
  value? number = some (integer : ℚ) ∧ integer.natAbs ≤ exactLimit

theorem exactInteger?_eq_some_iff {number : Float} {integer : Int} :
    exactInteger? number = some integer ↔ IsInteger number integer := by
  unfold exactInteger? IsInteger value?
  cases magnitude number with
  | infinite => exact ⟨nofun, nofun⟩
  | notANumber => exact ⟨nofun, nofun⟩
  | zero =>
      constructor
      · rintro ⟨⟩
        exact ⟨rfl, by decide⟩
      · rintro ⟨same, -⟩
        have zero : integer = 0 := by exact_mod_cast (Option.some_inj.mp same).symm
        rw [zero]
  | finite dyadic =>
      dsimp only
      rw [Option.some_inj, signed_eq_iff _ dyadic.value_nonneg, ← Dyadic.integer?_eq_some_iff]
      cases dyadic.integer? with
      | none => exact ⟨nofun, nofun⟩
      | some size =>
          constructor
          · intro found
            dsimp only at found
            split at found
            case isTrue small =>
              have absolute : integer.natAbs = size := by
                split at found <;> cases found <;> omega
              rw [absolute]
              exact ⟨⟨rfl, Option.some_inj.mp found⟩, small⟩
            case isFalse => cases found
          · rintro ⟨⟨same, signed⟩, small⟩
            cases same
            dsimp only
            rw [if_pos small, signed]

theorem log2_eq {mantissa : Nat} (full : 2 ^ 52 ≤ mantissa) (below : mantissa < 2 ^ 53) :
    mantissa.log2 = 52 :=
  (Nat.log2_eq_iff (by omega)).mpr ⟨full, below⟩

theorem unpack_pack_full {sign : Sign} {mantissa : Nat} {exponent : Int} (positive : 0 < mantissa)
    (fits : Fits mantissa exponent) (full : 2 ^ 52 ≤ mantissa) :
    UnpackedFloat.unpack Format.binary64
        (UnpackedFloat.pack Format.binary64 (.finite sign mantissa exponent positive)) =
      .finite sign mantissa exponent positive := by
  obtain ⟨below, least, most, -⟩ := fits
  have biased : (exponent + Format.binary64.exponentBias +
      Format.binary64.mantissaBitsWithoutImplicit).toNat = (exponent + 1075).toNat := by
    change (exponent + 1023 + 52).toNat = _
    rw [add_assoc]
    rfl
  have place : (BitVec.ofNat 11 (exponent + 1075).toNat).toNat = (exponent + 1075).toNat :=
    Nat.mod_eq_of_lt (by omega)
  have notTop : BitVec.ofNat 11 (exponent + 1075).toNat ≠ -1#11 := by
    rw [ne_eq, ← BitVec.toNat_inj, place]
    change ¬(exponent + 1075).toNat = 2047
    omega
  have notBottom : BitVec.ofNat 11 (exponent + 1075).toNat ≠ 0#11 := by
    rw [ne_eq, ← BitVec.toNat_inj, place]
    change ¬(exponent + 1075).toNat = 0
    omega
  have size : (1#1 ++ BitVec.ofNat 52 mantissa).toNat = mantissa := by
    rw [BitVec.toNat_append, ← Nat.shiftLeft_add_eq_or_of_lt (BitVec.isLt _)]
    change 2 ^ 52 + mantissa % 2 ^ 52 = mantissa
    omega
  rw [UnpackedFloat.pack]
  simp only [log2_eq full below, biased]
  rw [if_neg (by omega), if_pos (show 52 + 1 = Format.binary64.mantissaBits from rfl),
    UnpackedFloat.unpack]
  simp only [unpackMantissa_packComponents, unpackExponent_packComponents,
    unpackSign_packComponents, Sign.ofBitVec_toBitVec]
  rw [if_neg notTop, if_neg notBottom]
  congr
  rw [place]
  change ((exponent + 1075).toNat : Int) - 1075 = exponent
  omega

theorem unpack_pack_small {sign : Sign} {mantissa : Nat} (positive : 0 < mantissa)
    (small : mantissa < 2 ^ 52) :
    UnpackedFloat.unpack Format.binary64
        (UnpackedFloat.pack Format.binary64 (.finite sign mantissa (-1074) positive)) =
      .finite sign mantissa (-1074) positive := by
  have notFull : ¬mantissa.log2 + 1 = Format.binary64.mantissaBits := fun full =>
    Nat.ne_of_lt ((Nat.log2_lt positive.ne').mpr small) (Nat.succ.inj full)
  have size : (BitVec.ofNat 52 mantissa).toNat = mantissa := Nat.mod_eq_of_lt small
  have notZero : BitVec.ofNat 52 mantissa ≠ 0#52 := by
    rw [ne_eq, ← BitVec.toNat_inj, size]
    exact positive.ne'
  rw [UnpackedFloat.pack]
  simp only
  rw [if_neg (by decide), if_neg notFull, UnpackedFloat.unpack]
  simp only [unpackMantissa_packComponents, unpackExponent_packComponents,
    unpackSign_packComponents, Sign.ofBitVec_toBitVec]
  rw [if_neg (by decide), if_pos trivial, dif_neg notZero]
  congr

theorem unpack_pack {sign : Sign} {mantissa : Nat} {exponent : Int} (positive : 0 < mantissa)
    (fits : Fits mantissa exponent) :
    UnpackedFloat.unpack Format.binary64
        (UnpackedFloat.pack Format.binary64 (.finite sign mantissa exponent positive)) =
      .finite sign mantissa exponent positive := by
  by_cases full : 2 ^ 52 ≤ mantissa
  · exact unpack_pack_full positive fits full
  · obtain rfl := fits.full.resolve_left full
    exact unpack_pack_small positive (Nat.lt_of_not_le full)

theorem shift_exact (mantissa shift : Nat) :
    (⟨mantissa * 2 ^ shift, false, false⟩ : ExtendedMantissa) >>> shift =
      ⟨mantissa, false, false⟩ := by
  change shift.repeat ExtendedMantissa.shiftRightOne _ = _
  induction shift generalizing mantissa with
  | zero => rw [Nat.pow_zero, Nat.mul_one]; rfl
  | succ shift ih =>
      rw [Nat.pow_succ', ← Nat.mul_assoc]
      change ExtendedMantissa.shiftRightOne (shift.repeat _ _) = _
      rw [ih]
      simp [ExtendedMantissa.shiftRightOne]

theorem target_eq {mantissa : Nat} {exponent : Int} {shift : Nat} (full : 2 ^ 52 ≤ mantissa)
    (below : mantissa < 2 ^ 53) (least : -1074 ≤ exponent) :
    Format.binary64.targetExponent (totalExponent (mantissa * 2 ^ shift) (exponent - shift)) =
      exponent := by
  have log2 : (mantissa * 2 ^ shift).log2 = 52 + shift := by
    rw [Nat.log2_eq_iff (by positivity), Nat.pow_add, show 52 + shift + 1 = 53 + shift by omega,
      Nat.pow_add]
    exact ⟨Nat.mul_le_mul_right _ full, Nat.mul_lt_mul_of_pos_right below (by positivity)⟩
  unfold Format.targetExponent totalExponent
  rw [log2]
  change max (((52 + shift : Nat) : Int) + 1 + (exponent - shift) - 53) (-1074) = exponent
  omega

theorem shiftToTarget_exact {mantissa : Nat} {exponent : Int} (shift : Nat)
    (full : 2 ^ 52 ≤ mantissa) (below : mantissa < 2 ^ 53) (least : -1074 ≤ exponent) :
    shiftToTargetExponent Format.binary64 (mantissa * 2 ^ shift) (exponent - shift) .exact =
      (⟨mantissa, false, false⟩, exponent) := by
  have amount : (exponent - (exponent - shift)).toNat = shift := by omega
  unfold shiftToTargetExponent shiftToExponent
  rw [target_eq full below least]
  dsimp only
  rw [amount]
  exact Prod.ext (shift_exact mantissa shift) (Int.sub_add_cancel exponent shift)

theorem round_exact {sign : Sign} {mantissa : Nat} {exponent : Int} (shift : Nat)
    (nonzero : 0 < mantissa) (full : 2 ^ 52 ≤ mantissa) (below : mantissa < 2 ^ 53)
    (least : -1074 ≤ exponent) :
    roundWithAccuracy Format.binary64 sign (mantissa * 2 ^ shift) (exponent - shift) .exact =
      .finite sign mantissa exponent nonzero := by
  have again := shiftToTarget_exact 0 full below least
  rw [Nat.pow_zero, Nat.mul_one, Nat.cast_zero, Int.sub_zero] at again
  unfold roundWithAccuracy
  rw [shiftToTarget_exact shift full below least]
  change (let (shifted, place) := shiftToTargetExponent Format.binary64 mantissa exponent .exact
    if h : shifted.mantissa = 0 then UnpackedFloat.zero sign else
      .finite sign shifted.mantissa place (Nat.pos_of_ne_zero h)) = _
  rw [again]
  exact dif_neg nonzero.ne'

/-- How far an integer is shifted for its mantissa to be full. -/
def room (size : Nat) : Nat :=
  52 - size.log2

theorem room_full {size : Nat} (nonzero : 0 < size) (small : size < 2 ^ 53) :
    2 ^ 52 ≤ size * 2 ^ room size ∧ size * 2 ^ room size < 2 ^ 53 := by
  have log2 : size.log2 ≤ 52 := Nat.le_of_lt_succ ((Nat.log2_lt nonzero.ne').mpr small)
  obtain ⟨least, most⟩ := (Nat.log2_eq_iff nonzero.ne').mp rfl
  have split : size.log2 + room size = 52 := by
    unfold room
    omega
  have next : size.log2 + 1 + room size = 53 := by omega
  rw [← next, ← split, Nat.pow_add, Nat.pow_add]
  exact ⟨Nat.mul_le_mul_right _ least, Nat.mul_lt_mul_of_pos_right most (by positivity)⟩

theorem room_le (size : Nat) : room size ≤ 52 :=
  Nat.sub_le 52 _

theorem round_integer {size : Nat} (nonzero : 0 < size) (small : size < 2 ^ 53) :
    UnpackedFloat.ofNat Format.binary64 size =
      .finite .positive (size * 2 ^ room size) (-room size)
        (by have := (room_full nonzero small).1; omega) := by
  obtain ⟨full, below⟩ := room_full nonzero small
  have shallow := room_le size
  have target : Format.binary64.targetExponent (totalExponent size 0) = -room size := by
    unfold Format.targetExponent totalExponent room
    have log2 : size.log2 ≤ 52 := Nat.le_of_lt_succ ((Nat.log2_lt nonzero.ne').mpr small)
    change max ((size.log2 : Int) + 1 + 0 - 53) (-1074) = -((52 - size.log2 : Nat) : Int)
    omega
  have amount : ((0 : Int) - -room size).toNat = room size := by omega
  have least : -1074 ≤ -(room size : Int) := by omega
  have exact := @round_exact .positive _ _ 0 (by omega) full below least
  rw [Nat.pow_zero, Nat.mul_one, Nat.cast_zero, Int.sub_zero] at exact
  unfold UnpackedFloat.ofNat UnpackedFloat.ofInt UnpackedFloat.normalize
  rw [compare_gt_iff_gt.mpr (by exact_mod_cast nonzero)]
  dsimp only
  unfold UnpackedFloat.round decreaseExponent
  rw [Int.toNat_natCast, target]
  dsimp only
  rw [amount, Nat.shiftLeft_eq, ← exact]
  congr 1
  omega

theorem unpack_mul (left right : Float) :
    (left * right).toModel.unpack =
      UnpackedFloat.unpack Format.binary64 (UnpackedFloat.pack Format.binary64
        (UnpackedFloat.mul Format.binary64 left.toModel.unpack right.toModel.unpack)) := rfl

theorem unpack_toFloat (size : UInt64) :
    size.toFloat.toModel.unpack =
      UnpackedFloat.unpack Format.binary64 (UnpackedFloat.pack Format.binary64
        (UnpackedFloat.ofNat Format.binary64 size.toNat)) := rfl

theorem unpack_one :
    (Float.exactlyRepresentablePowersOfTen[0]).toModel.unpack =
      .finite .positive (2 ^ 52) (-52) (by decide) := rfl

theorem ofNat_eq {size : Nat} (small : size < 2 ^ 53) :
    Float.ofNat size = size.toUInt64.toFloat * Float.exactlyRepresentablePowersOfTen[0] :=
  dif_pos ⟨small, Nat.zero_le 22⟩

theorem unpack_ofNat {size : Nat} (nonzero : 0 < size) (small : size < 2 ^ 53) :
    (Float.ofNat size).toModel.unpack =
      .finite .positive (size * 2 ^ room size) (-room size)
        (Nat.lt_of_lt_of_le (by decide) (room_full nonzero small).1) := by
  obtain ⟨full, below⟩ := room_full nonzero small
  have shallow := room_le size
  have positive : 0 < size * 2 ^ room size := Nat.lt_of_lt_of_le (by decide) full
  have fits : Fits (size * 2 ^ room size) (-room size) :=
    ⟨below, by omega, by omega, .inl full⟩
  have word : size.toUInt64.toNat = size := Nat.mod_eq_of_lt (by omega)
  rw [ofNat_eq small, unpack_mul, unpack_toFloat, unpack_one, word, round_integer nonzero small,
    unpack_pack_full positive fits full]
  change UnpackedFloat.unpack _ (UnpackedFloat.pack _ (roundWithAccuracy Format.binary64 .positive
    (size * 2 ^ room size * 2 ^ 52) (-room size + -52) .exact)) = _
  rw [← Int.sub_eq_add_neg, show (52 : Int) = (52 : Nat) from rfl,
    round_exact 52 positive full below (by omega), unpack_pack_full positive fits full]

theorem denotes_ofNat {size : Nat} (small : size ≤ exactLimit) :
    Denotes (Float.ofNat size).toModel.unpack size := by
  rcases Nat.eq_zero_or_pos size with rfl | nonzero
  · have unpacked : (Float.ofNat 0).toModel.unpack = .zero .positive := rfl
    rw [unpacked, Nat.cast_zero]
    exact .zero _
  · change size ≤ 2 ^ 53 at small
    rcases Nat.lt_or_eq_of_le small with below | rfl
    · obtain ⟨full, fits⟩ := room_full nonzero below
      have shallow := room_le size
      have number : ((size * 2 ^ room size : Nat) : ℚ) * 2 ^ (-(room size : Int)) = size := by
        rw [zpow_neg, zpow_natCast, Nat.cast_mul, Nat.cast_pow, Nat.cast_ofNat,
          mul_inv_cancel_right₀ (by positivity)]
      rw [unpack_ofNat nonzero below, ← number]
      exact .positive _ _ _ ⟨fits, by omega, by omega, .inl full⟩
    · have unpacked : (Float.ofNat (2 ^ 53)).toModel.unpack =
          .finite .positive (2 ^ 52) 1 (by decide) := rfl
      have number : ((2 ^ 52 : Nat) : ℚ) * 2 ^ (1 : Int) = ((2 ^ 53 : Nat) : ℚ) := by norm_num
      rw [unpacked, ← number]
      exact .positive _ _ _ ⟨by decide, by decide, by decide, .inl le_rfl⟩

theorem Denotes.neg {unpacked : UnpackedFloat} {x : ℚ} (denotes : Denotes unpacked x) :
    Denotes (UnpackedFloat.unpack Format.binary64
      (UnpackedFloat.pack Format.binary64 unpacked.neg)) (-x) := by
  cases denotes with
  | zero sign =>
      rw [neg_zero]
      cases sign with
      | positive => exact .zero .negative
      | negative => exact .zero .positive
  | positive mantissa exponent nonzero fits =>
      change Denotes (UnpackedFloat.unpack _ (UnpackedFloat.pack _
        (.finite .negative mantissa exponent nonzero))) _
      rw [unpack_pack nonzero fits]
      exact .negative mantissa exponent nonzero fits
  | negative mantissa exponent nonzero fits =>
      change Denotes (UnpackedFloat.unpack _ (UnpackedFloat.pack _
        (.finite .positive mantissa exponent nonzero))) _
      rw [unpack_pack nonzero fits, neg_neg]
      exact .positive mantissa exponent nonzero fits

theorem isInteger_ofInt {integer : Int} (small : integer.natAbs ≤ exactLimit) :
    IsInteger (Float.ofInt integer) integer := by
  refine ⟨value?_eq_some_iff.mpr ?_, small⟩
  cases integer with
  | ofNat size => exact denotes_ofNat small
  | negSucc size =>
      have negated := (@denotes_ofNat (size + 1) small).neg
      rw [← Int.cast_natCast, ← Int.cast_neg] at negated
      exact negated

theorem IsInteger.lt_iff {left right : Float} {first second : Int} (isFirst : IsInteger left first)
    (isSecond : IsInteger right second) : left < right ↔ first < second :=
  (lt_iff_of_value? isFirst.1 isSecond.1).trans Int.cast_lt

end ScriptHost.Decimal
