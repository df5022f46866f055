import ScriptHost.Proofs.Decimal.Integers

/-!
Finite doubles.

A double is finite exactly if it is a number. Finite doubles are ordered as their numbers are, and
a finite difference is one of finite doubles. Signs are changed without leaving the finite doubles,
and so is the root of a sum of squares taken.
-/

set_option autoImplicit false

namespace ScriptHost.Decimal

open Float.Model Float.Model.UnpackedFloat

variable {left right number : Float}

/-- What is left of an unpacked double once it is a double. -/
def packed (unpacked : UnpackedFloat) : UnpackedFloat :=
  UnpackedFloat.unpack Format.binary64 (UnpackedFloat.pack Format.binary64 unpacked)

theorem isFinite_iff : number.isFinite = true ↔ ∃ x, value? number = some x := by
  have form := reads number
  change number.toModel.unpack.isFinite = true ↔ _
  unfold value?
  generalize magnitude number = size, number.toModel.unpack = unpacked at form ⊢
  cases form with
  | zero => exact ⟨fun _ => ⟨0, rfl⟩, fun _ => rfl⟩
  | finite mantissa exponent narrow positive fits => exact ⟨fun _ => ⟨_, rfl⟩, fun _ => rfl⟩
  | infinite => exact ⟨nofun, nofun⟩
  | notANumber => exact ⟨nofun, nofun⟩

theorem beq_iff_of_value? {x y : ℚ} (first : value? left = some x)
    (second : value? right = some y) : (left == right) = true ↔ x = y := by
  have compared := (value?_eq_some_iff.mp first).compare_eq (value?_eq_some_iff.mp second)
  change (left.toModel.unpack.compare right.toModel.unpack == some .eq) = true ↔ _
  rw [compared, beq_iff_eq, Option.some_inj, compare_eq_iff_eq]

theorem finite_trichotomy (first : left.isFinite = true) (second : right.isFinite = true) :
    (left < right ∧ ¬right < left ∧ (left == right) = false) ∨
      (¬left < right ∧ ¬right < left ∧ (left == right) = true) ∨
      (¬left < right ∧ right < left ∧ (left == right) = false) := by
  obtain ⟨x, first⟩ := isFinite_iff.mp first
  obtain ⟨y, second⟩ := isFinite_iff.mp second
  rw [lt_iff_of_value? first second, lt_iff_of_value? second first, ← Bool.not_eq_true,
    beq_iff_of_value? first second]
  rcases lt_trichotomy x y with less | rfl | more
  · exact .inl ⟨less, less.asymm, less.ne⟩
  · exact .inr (.inl ⟨lt_irrefl x, lt_irrefl x, rfl⟩)
  · exact .inr (.inr ⟨more.asymm, more, more.ne'⟩)

theorem packed_infinity (sign : Sign) : packed (.infinity sign) = .infinity sign := by
  cases sign <;> rfl

theorem finite_of_packed {unpacked : UnpackedFloat} (finite : (packed unpacked).isFinite = true) :
    unpacked.isFinite = true := by
  cases unpacked with
  | notANumber => exact finite
  | infinity sign => rwa [packed_infinity] at finite
  | zero sign => rfl
  | finite sign mantissa exponent positive => rfl

theorem sub_not_finite {first second : UnpackedFloat}
    (outside : (first.isFinite && second.isFinite) = false) :
    (UnpackedFloat.sub Format.binary64 first second).isFinite = false := by
  cases first with
  | notANumber => cases second <;> rfl
  | infinity sign =>
      cases second with
      | infinity other => cases sign <;> cases other <;> rfl
      | notANumber | zero _ | finite _ _ _ _ => rfl
  | zero sign =>
      cases second with
      | notANumber | infinity _ => rfl
      | zero _ | finite _ _ _ _ => cases outside
  | finite sign mantissa exponent positive =>
      cases second with
      | notANumber | infinity _ => rfl
      | zero _ | finite _ _ _ _ => cases outside

theorem finite_of_sub (difference : (left - right).isFinite = true) :
    left.isFinite = true ∧ right.isFinite = true := by
  rw [← Bool.and_eq_true_iff]
  by_contra outside
  have refused := sub_not_finite (Bool.not_eq_true _ ▸ outside)
  exact Bool.false_ne_true (refused.symm.trans (finite_of_packed difference))

theorem same_form {exponent place : Int} {mantissa other : Nat}
    (same : (compare exponent place).then (compare mantissa other) = .eq) :
    exponent = place ∧ mantissa = other :=
  (Ordering.then_eq_eq.mp same).imp compare_eq_iff_eq.mp compare_eq_iff_eq.mp

theorem sub_same (sign : Sign) (mantissa : Nat) (exponent : Int) (first second : 0 < mantissa) :
    UnpackedFloat.sub Format.binary64 (.finite sign mantissa exponent first)
      (.finite sign mantissa exponent second) = .zero .positive := by
  simp only [UnpackedFloat.sub, Int.sub_self, UnpackedFloat.normalize]
  rfl

theorem sub_equal {first second : UnpackedFloat} (finite : first.isFinite = true)
    (same : first.compare second = some .eq) :
    ∃ sign, UnpackedFloat.sub Format.binary64 second first = .zero sign := by
  cases first with
  | notANumber | infinity _ => cases finite
  | zero sign =>
      cases second with
      | notANumber => cases same
      | infinity other => cases other <;> cases same
      | zero other => cases sign <;> cases other <;> exact ⟨_, rfl⟩
      | finite other mantissa exponent positive => cases other <;> cases same
  | finite sign mantissa exponent positive =>
      cases second with
      | notANumber => cases sign <;> cases same
      | infinity other => cases sign <;> cases other <;> cases same
      | zero other => cases sign <;> cases same
      | finite other size place nonzero =>
          have alike : sign = other ∧
              (compare exponent place).then (compare mantissa size) = .eq := by
            cases sign with
            | positive =>
                cases other with
                | positive => exact ⟨rfl, Option.some_inj.mp same⟩
                | negative => cases same
            | negative =>
                cases other with
                | positive => cases same
                | negative => exact ⟨rfl, Ordering.swap_eq_eq.mp (Option.some_inj.mp same)⟩
          obtain ⟨rfl, compared⟩ := alike
          obtain ⟨rfl, rfl⟩ := same_form compared
          exact ⟨.positive, sub_same sign mantissa exponent nonzero positive⟩

theorem finite_sub_of_beq (finite : left.isFinite = true) (same : (left == right) = true) :
    (right - left).isFinite = true := by
  change (left.toModel.unpack.compare right.toModel.unpack == some .eq) = true at same
  obtain ⟨sign, difference⟩ := sub_equal finite (beq_iff_eq.mp same)
  change (packed (UnpackedFloat.sub Format.binary64 right.toModel.unpack
    left.toModel.unpack)).isFinite = true
  rw [difference]
  cases sign <;> rfl

theorem isFinite_neg (finite : number.isFinite = true) : (-number).isFinite = true := by
  obtain ⟨x, known⟩ := isFinite_iff.mp finite
  exact isFinite_iff.mpr ⟨-x, value?_eq_some_iff.mpr (value?_eq_some_iff.mp known).neg⟩

/-- An unpacked double that is not below zero. -/
def Upward : UnpackedFloat → Prop
  | .infinity .negative | .finite .negative _ _ _ => False
  | _ => True

theorem upward_unpack {bits : BitVec 64} (plain : @unpackSign Format.binary64 bits = 0#1) :
    Upward (UnpackedFloat.unpack Format.binary64 bits) := by
  have positive : Sign.ofBitVec (@unpackSign Format.binary64 bits) = .positive := by
    rw [plain]
    rfl
  unfold UnpackedFloat.unpack
  dsimp only
  rw [positive]
  split
  · split <;> trivial
  · split
    · split <;> trivial
    · trivial

theorem Upward.packed {unpacked : UnpackedFloat} (upward : Upward unpacked) :
    Upward (packed unpacked) := by
  cases unpacked with
  | notANumber => trivial
  | infinity sign => rwa [packed_infinity]
  | zero sign => cases sign <;> trivial
  | finite sign mantissa exponent positive =>
      cases sign with
      | negative => cases upward
      | positive =>
          apply upward_unpack
          unfold UnpackedFloat.pack
          dsimp only
          split
          · exact unpackSign_packComponents .positive _ _
          · split
            · exact unpackSign_packComponents .positive _ _
            · exact unpackSign_packComponents .positive _ _

theorem upward_round (mantissa : Nat) (exponent : Int) (accuracy : Accuracy) :
    Upward (roundWithAccuracy Format.binary64 .positive mantissa exponent accuracy) := by
  unfold roundWithAccuracy
  dsimp only
  split <;> trivial

theorem upward_square (unpacked : UnpackedFloat) :
    Upward (UnpackedFloat.mul Format.binary64 unpacked unpacked) := by
  cases unpacked with
  | notANumber => trivial
  | infinity sign => cases sign <;> trivial
  | zero sign => cases sign <;> trivial
  | finite sign mantissa exponent positive => cases sign <;> exact upward_round _ _ _

theorem upward_normalize {mantissa : Int} (nonneg : 0 ≤ mantissa) (exponent : Int) :
    Upward (normalize Format.binary64 mantissa exponent .positive) := by
  unfold UnpackedFloat.normalize
  split
  · rename_i less
    exact absurd (compare_lt_iff_lt.mp less) (Int.not_lt.mpr nonneg)
  · trivial
  · exact upward_round _ _ _

theorem Upward.add {first second : UnpackedFloat} (one : Upward first) (other : Upward second) :
    Upward (UnpackedFloat.add Format.binary64 first second) := by
  cases first with
  | notANumber => trivial
  | infinity sign =>
      cases sign with
      | negative => cases one
      | positive =>
          cases second with
          | infinity sign =>
              cases sign with
              | negative => cases other
              | positive => trivial
          | notANumber | zero _ | finite _ _ _ _ => trivial
  | zero sign =>
      cases second with
      | zero another => cases sign <;> cases another <;> trivial
      | notANumber | infinity _ | finite _ _ _ _ => exact other
  | finite sign mantissa exponent positive =>
      cases second with
      | notANumber => trivial
      | infinity _ => exact other
      | zero _ => exact one
      | finite another size place nonzero =>
          cases sign with
          | negative => cases one
          | positive =>
              cases another with
              | negative => cases other
              | positive =>
                  apply upward_normalize
                  exact Int.add_nonneg (Int.natCast_nonneg _) (Int.natCast_nonneg _)

theorem upward_squares (x y z : Float) : Upward (x * x + y * y + z * z).toModel.unpack := by
  have square : ∀ number : Float, Upward (number * number).toModel.unpack := fun number =>
    (upward_square number.toModel.unpack).packed
  have sum : Upward (x * x + y * y).toModel.unpack := ((square x).add (square y)).packed
  exact (sum.add (square z)).packed

theorem isFinite_packed {sign : Sign} {mantissa : Nat} {exponent : Int} (positive : 0 < mantissa)
    (small : exponent ≤ 971) :
    (packed (.finite sign mantissa exponent positive)).isFinite = true := by
  have biased : (exponent + Format.binary64.exponentBias +
      Format.binary64.mantissaBitsWithoutImplicit).toNat = (exponent + 1075).toNat := by
    change (exponent + 1023 + 52).toNat = _
    rw [add_assoc]
    rfl
  have notTop : BitVec.ofNat 11 (exponent + 1075).toNat ≠ -1#11 := by
    rw [ne_eq, ← BitVec.toNat_inj]
    change ¬(exponent + 1075).toNat % 2048 = 2047
    omega
  have isFinite : ∀ {bits : BitVec 64}, @unpackExponent Format.binary64 bits ≠ -1#11 →
      (UnpackedFloat.unpack Format.binary64 bits).isFinite = true := by
    intro bits notTop
    unfold UnpackedFloat.unpack
    dsimp only
    rw [if_neg notTop]
    split
    · split <;> rfl
    · rfl
  apply isFinite
  unfold UnpackedFloat.pack
  dsimp only
  rw [biased, if_neg (show ¬2 ^ 11 ≤ (exponent + 1075).toNat + 1 by omega)]
  split
  · rw [unpackExponent_packComponents]
    exact notTop
  · rw [unpackExponent_packComponents]
    decide

theorem shift_le (mantissa : ExtendedMantissa) (shift : Nat) :
    (mantissa >>> shift).mantissa ≤ mantissa.mantissa := by
  change (shift.repeat ExtendedMantissa.shiftRightOne mantissa).mantissa ≤ _
  induction shift with
  | zero => exact le_rfl
  | succ shift ih => exact (Nat.div_le_self _ 2).trans ih

theorem rounded_le (mantissa : ExtendedMantissa) :
    mantissa.roundedMantissa ≤ mantissa.mantissa + 1 := by
  obtain ⟨size, half, more⟩ := mantissa
  have parity := Nat.mod_lt size two_pos
  cases half <;> cases more <;>
    simp only [ExtendedMantissa.roundedMantissa, ExtendedMantissa.accuracy,
      Accuracy.roundToNearestEven] <;> omega

theorem mantissa_ofAccuracy (mantissa : Nat) (accuracy : Accuracy) :
    (ExtendedMantissa.ofMantissaAndAccuracy mantissa accuracy).mantissa = mantissa := by
  unfold ExtendedMantissa.ofMantissaAndAccuracy
  split <;> rfl

/-- A mantissa only shrinks where it is shifted, and the exponent grows no further than a mantissa
of this size calls for. -/
theorem shiftToTarget_le {mantissa bits : Nat} {exponent most : Int} (accuracy : Accuracy)
    (small : mantissa.log2 < bits) (low : exponent ≤ most) (room : bits + exponent - 53 ≤ most)
    (least : -1074 ≤ most) :
    (shiftToTargetExponent Format.binary64 mantissa exponent accuracy).1.mantissa ≤ mantissa ∧
      (shiftToTargetExponent Format.binary64 mantissa exponent accuracy).2 ≤ most := by
  constructor
  · exact (shift_le _ _).trans (mantissa_ofAccuracy mantissa accuracy).le
  · change exponent + ((max ((mantissa.log2 : Int) + 1 + exponent - 53) (-1074) - exponent).toNat :
      Int) ≤ most
    omega

theorem log2_lt_of_lt {mantissa bits : Nat} (some : 0 < bits) (small : mantissa < 2 ^ bits) :
    mantissa.log2 < bits := by
  rcases Nat.eq_zero_or_pos mantissa with rfl | nonzero
  · exact some
  · exact (Nat.log2_lt nonzero.ne').mpr small

theorem isFinite_round {mantissa : Nat} {exponent : Int} (sign : Sign) (accuracy : Accuracy)
    (small : mantissa < 2 ^ 80) (low : exponent ≤ 485) :
    (packed (roundWithAccuracy Format.binary64 sign mantissa exponent accuracy)).isFinite =
      true := by
  obtain ⟨shifted, place⟩ := @shiftToTarget_le mantissa 80 exponent 512 accuracy
    (log2_lt_of_lt (by omega) small) (by omega) (by omega) (by omega)
  unfold roundWithAccuracy
  dsimp only
  generalize shiftToTargetExponent Format.binary64 mantissa exponent accuracy = first
    at shifted place ⊢
  have rounded : first.1.roundedMantissa < 2 ^ 81 := by
    have up := rounded_le first.1
    omega
  have final := (@shiftToTarget_le first.1.roundedMantissa 81 first.2 971 .exact
    (log2_lt_of_lt (by omega) rounded) (by omega) (by omega) (by omega)).2
  split
  · cases sign <;> rfl
  · exact isFinite_packed _ final

theorem root_small {mantissa : Nat} {exponent : Int} (fits : Fits mantissa exponent) :
    (sqrtCore Format.binary64 mantissa exponent).1 < 2 ^ 80 ∧
      (sqrtCore Format.binary64 mantissa exponent).2.1 ≤ 485 := by
  obtain ⟨below, least, most, -⟩ := fits
  constructor
  · change Nat.sqrt (mantissa <<< (exponent - 2 * min (exponent / 2)
      (max (((mantissa.log2 : Int) + 1 + exponent + 1) / 2 - 53) (-1074))).toNat) < 2 ^ 80
    generalize amount : (exponent - _).toNat = shift
    have near : shift ≤ 105 := by omega
    rw [Nat.sqrt_lt, Nat.shiftLeft_eq]
    calc mantissa * 2 ^ shift < 2 ^ 53 * 2 ^ shift := by gcongr
      _ ≤ 2 ^ 53 * 2 ^ 105 := Nat.mul_le_mul_left _ (Nat.pow_le_pow_right two_pos near)
      _ ≤ 2 ^ 80 * 2 ^ 80 := by norm_num
  · change min (exponent / 2) _ ≤ 485
    refine (min_le_left _ _).trans ?_
    omega

theorem isFinite_sqrt (finite : number.isFinite = true) (upward : Upward number.toModel.unpack) :
    number.sqrt.isFinite = true := by
  obtain ⟨x, known⟩ := isFinite_iff.mp finite
  have denotes := value?_eq_some_iff.mp known
  change (packed (UnpackedFloat.sqrt Format.binary64 number.toModel.unpack)).isFinite = true
  generalize number.toModel.unpack = unpacked at denotes upward
  cases denotes with
  | zero sign => cases sign <;> rfl
  | positive mantissa exponent nonzero fits =>
      obtain ⟨small, low⟩ := root_small fits
      exact isFinite_round .positive _ small low
  | negative mantissa exponent nonzero fits => cases upward

end ScriptHost.Decimal
