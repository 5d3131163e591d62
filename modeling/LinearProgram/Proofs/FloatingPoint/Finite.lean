import LinearProgram.Decimal.Binary
import LinearProgram.Proofs.FloatingPoint.Rounding

/-!
# Finite floating-point values

A floating-point value is finite if its exponent bits are not all set.  Two
infinities and one value that is no number are left, and `Binary.ofFloat` tells
all of them apart.

Arithmetic leaves the finite values by overflow only.  A negation never does, a
quotient by a large number neither, and a product only if it is an infinity.

* `Binary.isFinite_iff`: the values that stand for a number are the finite ones.
* `Binary.eq_of_ofFloat_undefined`, `Binary.eq_of_ofFloat_infinite`: the others.
* `isFinite_neg`, `isFinite_mul`, `isFinite_div`, `isFinite_ofNat`: finite results.
-/

namespace LinearProgram

open Float.Model (UnpackedFloat Format totalExponent)
open Float.Model.UnpackedFloat

/-! ## What a value stands for -/

namespace Binary

open FloatingPoint (signField exponentField mantissaField ofFields ofFields_cases)

/-- A value is its bits. -/
theorem eq_of_toBits {x y : Float} (same : x.toBits = y.toBits) : x = y := by
  obtain ⟨⟨bits, valid⟩⟩ := x
  obtain ⟨⟨bits', valid'⟩⟩ := y
  obtain rfl : bits = bits' := same
  rfl

section Fields

variable (x : Float)

theorem toNat_exponentField :
    (exponentField x.toModel).toNat = x.toBits.toNat / twoTo 52 % twoTo 11 := by
  unfold exponentField unpackExponent
  rw [BitVec.toNat_cast, BitVec.extractLsb_toNat, Nat.shiftRight_eq_div_pow]
  rfl

theorem toNat_mantissaField : (mantissaField x.toModel).toNat = x.toBits.toNat % twoTo 52 := by
  unfold mantissaField unpackMantissa
  rw [BitVec.toNat_cast, BitVec.extractLsb_toNat, Nat.shiftRight_zero]
  rfl

theorem exponentField_eq_top_iff :
    exponentField x.toModel = -1#11 ↔ (exponentField x.toModel).toNat = 2047 :=
  ⟨fun top => by rw [top]; rfl, fun top => BitVec.eq_of_toNat_eq top⟩

theorem isFinite_iff_exponentField :
    x.isFinite = true ↔ (exponentField x.toModel).toNat ≠ 2047 := by
  change (ofFields (signField x.toModel) (exponentField x.toModel)
    (mantissaField x.toModel)).isFinite = true ↔ _
  rcases ofFields_cases (exponentField x.toModel) (mantissaField x.toModel) with
    ⟨top, _, value⟩ | ⟨top, _, value⟩ | ⟨least, _, value⟩ | ⟨least, _, value⟩ | ⟨below, _, value⟩
  · rw [value, top]
    exact iff_of_false Bool.false_ne_true (not_not_intro rfl)
  · rw [value, top]
    exact iff_of_false Bool.false_ne_true (not_not_intro rfl)
  · rw [value, least]
    exact iff_of_true rfl (by decide)
  · rw [value, least]
    exact iff_of_true rfl (by decide)
  · rw [value]
    exact iff_of_true rfl (Nat.ne_of_lt below)

/-- What a value stands for, by its fields. -/
theorem ofFloat_eq : ofFloat x =
    if (exponentField x.toModel).toNat = 2047 then
      if (mantissaField x.toModel).toNat = 0 then infinite (decide (twoTo 63 ≤ x.toBits.toNat))
      else undefined
    else if (exponentField x.toModel).toNat = 0 then
      finite (decide (twoTo 63 ≤ x.toBits.toNat)) (mantissaField x.toModel).toNat leastExponent
    else
      finite (decide (twoTo 63 ≤ x.toBits.toNat))
        (leastMantissa + (mantissaField x.toModel).toNat)
        (leastExponent + (exponentField x.toModel).toNat - 1) := by
  rw [toNat_exponentField, toNat_mantissaField]
  rfl

end Fields

variable {x : Float}

/-- The values that stand for a number are the finite ones. -/
theorem isFinite_iff :
    x.isFinite = true ↔
      ∃ negative mantissa exponent, ofFloat x = .finite negative mantissa exponent := by
  rw [isFinite_iff_exponentField, ofFloat_eq]
  constructor
  · intro other
    rw [if_neg other]
    split <;> exact ⟨_, _, _, rfl⟩
  · rintro ⟨negative, mantissa, exponent, number⟩ top
    rw [if_pos top] at number
    split at number <;> cases number

/-- There is only one value that is no number. -/
theorem eq_of_ofFloat_undefined (none : ofFloat x = .undefined) : x = 0.0 / 0.0 := by
  rw [ofFloat_eq] at none
  split at none
  · next top =>
    split at none
    · cases none
    · next nonzero =>
      have mantissa : mantissaField x.toModel ≠ 0#52 := by
        intro zero
        rw [zero] at nonzero
        exact nonzero rfl
      have bits := x.toModel.valid.eq_packedNaN ((exponentField_eq_top_iff x).mpr top) mantissa
      exact eq_of_toBits (UInt64.toBitVec_inj.mp bits)
  · split at none <;> cases none

/-- There are only two infinities. -/
theorem eq_of_ofFloat_infinite {negative : Bool} (infinity : ofFloat x = .infinite negative) :
    x = if negative then -1.0 / 0.0 else 1.0 / 0.0 := by
  rw [ofFloat_eq] at infinity
  split at infinity
  · next top =>
    split at infinity
    · next zero =>
      cases infinity
      have bound : x.toBits.toNat < 2 ^ 64 := x.toBits.toBitVec.isLt
      have places : twoTo 52 = 2 ^ 52 ∧ twoTo 11 = 2 ^ 11 ∧ twoTo 63 = 2 ^ 63 := ⟨rfl, rfl, rfl⟩
      rw [toNat_exponentField, places.1, places.2.1] at top
      rw [toNat_mantissaField, places.1] at zero
      rw [places.2.2]
      apply eq_of_toBits
      apply UInt64.toNat_inj.mp
      by_cases negative : 2 ^ 63 ≤ x.toBits.toNat
      · rw [if_pos (decide_eq_true negative)]
        have bits : (-1.0 / 0.0 : Float).toBits.toNat = 2 ^ 63 + 2047 * 2 ^ 52 := by decide +kernel
        omega
      · rw [if_neg (by simpa using negative)]
        have bits : (1.0 / 0.0 : Float).toBits.toNat = 2047 * 2 ^ 52 := by decide +kernel
        omega
    · cases infinity
  · split at infinity <;> cases infinity

end Binary

namespace FloatingPoint

/-! ## Operations -/

theorem exponentAtMost_of_isFinite {x : Float} (finite : x.isFinite = true) :
    ExponentAtMost 971 x.toModel.unpack := by
  change x.toModel.unpack.isFinite = true at finite
  cases unpacked : x.toModel.unpack with
  | notANumber | infinity _ =>
    rw [unpacked] at finite
    exact absurd finite Bool.false_ne_true
  | zero s => trivial
  | finite s m e pos => exact (ofFields_finite_bounds unpacked).2

theorem isFinite_unpack_pack {u : UnpackedFloat} (bound : ExponentAtMost 971 u) :
    (Float.Model.pack u).unpack.isFinite = true :=
  (exponentAtMost_unpack_pack (by decide) (by decide) bound).isFinite

section Operands

variable {x y : Float}

theorem isFinite_neg (finite : x.isFinite = true) : (-x).isFinite = true := by
  refine isFinite_unpack_pack (u := x.toModel.unpack.neg) ?_
  rcases (exponentAtMost_of_isFinite finite).unpack_cases with
    ⟨s, unpacked⟩ | ⟨s, m, e, pos, unpacked, _, exponent⟩
  · rw [unpacked]
    trivial
  · rw [unpacked]
    exact exponent

/-- Whether a number has the magnitude four or more. -/
def isLarge : UnpackedFloat → Bool
  | .finite _ m e _ => 2 < totalExponent m e
  | _ => false

theorem isFinite_of_isLarge (large : isLarge x.toModel.unpack = true) : x.isFinite = true := by
  change x.toModel.unpack.isFinite = true
  cases unpacked : x.toModel.unpack with
  | notANumber | infinity _ =>
    rw [unpacked] at large
    exact absurd large Bool.false_ne_true
  | zero _ | finite _ _ _ _ => rfl

/-- Dividing by a large number keeps a number in range. -/
theorem isFinite_div (finite : x.isFinite = true) (large : isLarge y.toModel.unpack = true) :
    (x / y).isFinite = true := by
  refine isFinite_unpack_pack (u := div Format.binary64 x.toModel.unpack y.toModel.unpack) ?_
  rcases (exponentAtMost_of_isFinite (isFinite_of_isLarge large)).unpack_cases with
    ⟨s', divisor⟩ | ⟨s', m', e', pos', divisor, _, _⟩
  · rw [divisor] at large
    exact absurd large Bool.false_ne_true
  rw [divisor] at large ⊢
  replace large : 2 < totalExponent m' e' := of_decide_eq_true large
  rcases (exponentAtMost_of_isFinite finite).unpack_cases with
    ⟨s, unpacked⟩ | ⟨s, m, e, pos, unpacked, places, exponent⟩
  · rw [unpacked]
    trivial
  · rw [unpacked]
    refine exponentAtMost_div (by decide) ?_
    unfold totalExponent at *
    omega

theorem isFinite_mul_unpacked {u v : UnpackedFloat} (finite : u.isFinite = true)
    (finite' : v.isFinite = true) : (mul Format.binary64 u v).isFinite = true := by
  cases u with
  | notANumber | infinity _ => exact absurd finite Bool.false_ne_true
  | zero s =>
    cases v with
    | notANumber | infinity _ => exact absurd finite' Bool.false_ne_true
    | zero _ | finite _ _ _ _ => rfl
  | finite s m e pos =>
    cases v with
    | notANumber | infinity _ => exact absurd finite' Bool.false_ne_true
    | zero _ => rfl
    | finite s' m' e' pos' => exact isFinite_roundWithAccuracy _ _ _ _

/-- A product of numbers is a number, unless it is too large. -/
theorem isFinite_mul (finite : x.isFinite = true) (finite' : y.isFinite = true)
    (fits : (x * y).isInf = false) : (x * y).isFinite = true := by
  rcases isFinite_or_isInf_unpack_pack (isFinite_mul_unpacked finite finite') with inRange | large
  · exact inRange
  · exact absurd (fits.symm.trans large) Bool.false_ne_true

end Operands

/-! ## Whole numbers -/

theorem totalExponent_shiftLeft_le (m k : Nat) (e : Int) :
    totalExponent (m <<< k) (e - k) ≤ totalExponent m e := by
  unfold totalExponent
  by_cases zero : m <<< k = 0
  · rw [zero, Nat.log2_zero]
    omega
  have bits : (m <<< k).log2 < m.log2 + 1 + k := by
    rw [Nat.log2_lt zero, Nat.shiftLeft_eq, Nat.pow_add]
    exact (Nat.mul_lt_mul_right (Nat.two_pow_pos k)).mpr Nat.lt_log2_self
  omega

theorem exponentAtMost_round {k : Int} {s : Sign} {m : Nat} {e : Int} (least : -1074 ≤ k)
    (total : totalExponent m e ≤ k + 52) :
    ExponentAtMost k (round Format.binary64 s m e) := by
  refine exponentAtMost_roundWithAccuracy least ?_
    (Int.le_trans (totalExponent_shiftLeft_le m _ e) total)
  rw [targetExponent_eq]
  omega

section Small

variable {n : Nat} (small : n < 2 ^ 64)

include small

theorem totalExponent_of_lt : totalExponent n 0 ≤ 64 := by
  unfold totalExponent
  by_cases zero : n = 0
  · rw [zero, Nat.log2_zero]
    decide
  · have bits := (Nat.log2_lt zero).mpr small
    omega

theorem exponentAtMost_ofNat : ExponentAtMost 12 (UnpackedFloat.ofNat Format.binary64 n) := by
  unfold UnpackedFloat.ofNat ofInt UnpackedFloat.normalize
  have total := totalExponent_of_lt small
  split
  · next negative =>
    rw [Int.compare_eq_lt] at negative
    omega
  · trivial
  · exact exponentAtMost_round (by decide) total

end Small

/-- Small numbers stay finite when multiplied by one, as whole numbers are when they are read. -/
theorem isFinite_mul_one {x : Float} (bound : ExponentAtMost 12 x.toModel.unpack) :
    (x * Float.exactlyRepresentablePowersOfTen[0]).isFinite = true := by
  have one : (Float.exactlyRepresentablePowersOfTen[0]).toModel.unpack =
      .finite .positive (2 ^ 52) (-52) (by decide) := rfl
  have total : totalExponent (2 ^ 52) (-52) = 1 := by decide
  refine isFinite_unpack_pack (u := mul Format.binary64 x.toModel.unpack
    (Float.exactlyRepresentablePowersOfTen[0]).toModel.unpack) ?_
  rw [one]
  rcases bound.unpack_cases with ⟨s, unpacked⟩ | ⟨s, m, e, pos, unpacked, places, exponent⟩
  · rw [unpacked]
    trivial
  · rw [unpacked]
    refine exponentAtMost_mul (by decide) (by omega) ?_
    rw [total]
    unfold totalExponent
    omega

/-- A whole number times a power of ten is rounded as a product. -/
theorem ofScientific_eq_mul {n k : Nat} (pos : 0 < n) (small : k ≤ 2 ^ 11) :
    ∃ m, ∃ pos' : 0 < m, m = n <<< 53 ∧ UnpackedFloat.ofScientific Format.binary64 n k =
      mul Format.binary64 (.finite .positive m (-53) pos')
        (.finite .positive (10 ^ k) 0 (Nat.pow_pos (by decide))) := by
  have notLarge : ¬ (k : Int) > 2 ^ 11 := by omega
  have notSmall : ¬ (k : Int) < -(2 ^ 11 + n.log2) := by omega
  refine ⟨n <<< 53, by rw [Nat.shiftLeft_eq]; exact Nat.mul_pos pos (Nat.two_pow_pos 53), rfl, ?_⟩
  unfold UnpackedFloat.ofScientific
  rw [dif_neg (Nat.ne_of_gt pos), if_neg notLarge, if_neg notSmall, if_pos (Int.natCast_nonneg k)]
  rfl

theorem exponentAtMost_ofScientific {n : Nat} (pos : 0 < n) (small : n < 2 ^ 64) :
    ExponentAtMost 13 (UnpackedFloat.ofScientific Format.binary64 n (0 : Nat)) := by
  obtain ⟨m, pos', shift, product⟩ := ofScientific_eq_mul (k := 0) pos (by decide)
  have total := totalExponent_of_lt small
  have shifted := totalExponent_shiftLeft_le n 53 0
  have one : totalExponent (10 ^ 0) 0 = 1 := by decide
  rw [← shift, (by decide : (0 : Int) - (53 : Nat) = -53)] at shifted
  rw [product]
  exact exponentAtMost_mul (by decide) (by decide) (by omega)

theorem isFinite_ofNat {n : Nat} (small : n < 2 ^ 64) : (Float.ofNat n).isFinite = true := by
  have unfolded : Float.ofNat n = Float.ofScientific n false 0 := rfl
  rw [unfolded]
  unfold Float.ofScientific
  split
  · have value : n.toUInt64.toNat = n := Nat.mod_eq_of_lt small
    have bound := exponentAtMost_ofNat small
    rw [← value] at bound
    exact isFinite_mul_one (x := n.toUInt64.toFloat)
      (exponentAtMost_unpack_pack (by decide) (by decide) bound)
  · next large =>
    have pos : 0 < n := by omega
    exact (exponentAtMost_unpack_pack (by decide) (by decide)
      (exponentAtMost_ofScientific pos small)).isFinite

end FloatingPoint

end LinearProgram
