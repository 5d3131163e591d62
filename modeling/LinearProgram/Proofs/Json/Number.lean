import LinearProgram.Json.Report
import LinearProgram.Proofs.FloatingPoint.Finite

/-!
# Numbers that are read are finite

A numeral is read by multiplying or dividing a whole number below `2 ^ 64` by
powers of ten.  Products that overflow are refused.  Quotients cannot overflow,
because every power of ten but the first is large.  So whatever is read is
finite, and it is written as a number again.

* `isLarge_powerOfTen`: the powers of ten that are divisors are large.
* `isFinite_of_toFloat?`: every number that is read is finite.
-/

namespace LinearProgram.Numeral

open Float.Model (Format totalExponent)
open Float.Model.UnpackedFloat
open FloatingPoint

/-! ## Powers of ten -/

/-- A large number of many places is packed with its exponent and stays large. -/
theorem isLarge_unpack_pack {s : Sign} {m : Nat} {e : Int} {pos : 0 < m} (place : m.log2 = 52)
    (least : -50 ≤ e) (greatest : e ≤ 971) :
    isLarge (Float.Model.pack (.finite s m e pos)).unpack = true := by
  have packed := pack_of_log2_eq s pos greatest place
  generalize exponent : BitVec.ofNat 11 (e + 1075).toNat = field at packed
  have value : field.toNat = (e + 1075).toNat := by
    rw [← exponent, BitVec.toNat_ofNat, Nat.mod_eq_of_lt (by omega)]
  have below : field ≠ -1#11 := by
    rintro rfl
    change 2047 = (e + 1075).toNat at value
    omega
  have normal : field ≠ 0#11 := by
    rintro rfl
    change 0 = (e + 1075).toNat at value
    omega
  change isLarge (unpack Format.binary64 (pack Format.binary64 (.finite s m e pos))) = true
  rw [packed, unpack_packComponents]
  unfold ofFields
  rw [if_neg below, if_neg normal]
  refine decide_eq_true ?_
  change 2 < ((1#1 ++ BitVec.ofNat 52 m).toNat.log2 : Int) + 1 + (field.toNat - 1075)
  rw [log2_append_one]
  omega

/-- How many binary places a power of ten has beside those of a whole number. -/
theorem log2_mul_pow_bounds {m k : Nat} (pos : 0 < m) (low : 1 ≤ k) (high : k ≤ 307) :
    m.log2 + 3 ≤ (m * 10 ^ k).log2 ∧ (m * 10 ^ k).log2 < m.log2 + 1021 := by
  have power_pos : 0 < 10 ^ k := Nat.pow_pos (by decide)
  constructor
  · have eight : 2 ^ 3 ≤ 10 ^ k := Nat.le_trans (by decide : 2 ^ 3 ≤ 10 ^ 1)
      (Nat.pow_le_pow_right (by decide) low)
    rw [Nat.le_log2 (Nat.ne_of_gt (Nat.mul_pos pos power_pos)), Nat.pow_add]
    exact Nat.mul_le_mul (Nat.log2_self_le (Nat.ne_of_gt pos)) eight
  · have places : (10 ^ k).log2 < 1020 := (Nat.log2_lt (Nat.ne_of_gt power_pos)).mpr <|
      Nat.lt_of_le_of_lt (Nat.pow_le_pow_right (by decide) high)
        (by decide +kernel : 10 ^ 307 < 2 ^ 1020)
    have product := log2_mul_lt pos power_pos
    omega

/-- Above the table of exact powers a power is a rounded product. -/
theorem isLarge_powerOfTen_of_inexact {k : Nat} (above : 22 < k) (below : k ≤ 307) :
    isLarge (powerOfTen k).toModel.unpack = true := by
  obtain ⟨m, pos, shift, product⟩ := ofScientific_eq_mul (n := 1) (k := k) (by decide) (by omega)
  have places : m.log2 = 53 := by
    rw [shift]
    decide
  obtain ⟨atLeast, atMost⟩ := log2_mul_pow_bounds pos (by omega : 1 ≤ k) below
  rw [places] at atLeast atMost
  have total : totalExponent (m * 10 ^ k) (-53) = (m * 10 ^ k).log2 - 52 := by
    unfold totalExponent
    omega
  obtain ⟨m', e', pos', rounded, place, least, greatest⟩ :=
    exists_roundWithAccuracy (s := .positive) (a := .exact) (by omega : 52 ≤ (m * 10 ^ k).log2)
      (by omega : -1021 ≤ totalExponent (m * 10 ^ k) (-53))
  have power : mul Format.binary64 (.finite .positive m (-53) pos)
      (.finite .positive (10 ^ k) 0 (Nat.pow_pos (by decide))) = .finite .positive m' e' pos' :=
    rounded
  unfold powerOfTen Float.ofScientific
  rw [dif_neg (by omega)]
  change isLarge (Float.Model.pack (ofScientific Format.binary64 1 k)).unpack = true
  rw [product, power]
  exact isLarge_unpack_pack place (by omega) (by omega)

theorem isLarge_powerOfTen {k : Nat} (pos : 0 < k) (small : k ≤ largestPower) :
    isLarge (powerOfTen k).toModel.unpack = true := by
  by_cases exact : k ≤ 22
  · have table : ∀ k : Fin 23, 0 < k.val → isLarge (powerOfTen k.val).toModel.unpack = true := by
      decide +kernel
    exact table ⟨k, by omega⟩ pos
  by_cases last : k = largestPower
  · -- The last power is so large that the bounds do not tell it from an infinity.
    rw [last]
    decide +kernel
  · have below : k < 308 := Nat.lt_of_le_of_ne small last
    exact isLarge_powerOfTen_of_inexact (by omega) (by omega)

theorem isFinite_powerOfTen {k : Nat} (small : k ≤ largestPower) :
    (powerOfTen k).isFinite = true := by
  cases k with
  | zero => decide +kernel
  | succ k => exact isFinite_of_isLarge (isLarge_powerOfTen (Nat.succ_pos k) small)

/-! ## Reading a numeral -/

theorem collect_lt {n : Nat} (ds : List Digit) (small : n < sizeLimit) :
    (collect n ds).1 < sizeLimit := by
  induction ds generalizing n with
  | nil => exact small
  | cons d ds ih =>
    unfold collect
    split
    · next fits => exact ih fits
    · exact small

section Scale

variable {x : Float} {e : Nat} (finite : x.isFinite = true)

include finite

theorem isFinite_scaleUp? {y : Float} (scaled : scaleUp? x e = some y) : y.isFinite = true := by
  unfold scaleUp? at scaled
  split at scaled
  · next small =>
    dsimp only at scaled
    split at scaled
    · cases scaled
    · next fits =>
      cases scaled
      exact isFinite_mul finite (isFinite_powerOfTen small) (Bool.eq_false_iff.mpr fits)
  · split at scaled <;> cases scaled
    exact finite

theorem isFinite_scaleDown (pos : 0 < e) : (scaleDown x e).isFinite = true := by
  induction x, e using scaleDown.induct with
  | case1 x e small =>
    rw [scaleDown, if_pos small]
    exact isFinite_div finite (isLarge_powerOfTen pos small)
  | case2 x e large zero =>
    rw [scaleDown, if_neg large, if_pos zero]
    exact finite
  | case3 x e large nonzero ih =>
    rw [scaleDown, if_neg large, if_neg nonzero]
    refine ih (isFinite_div finite (isLarge_powerOfTen (by decide) (Nat.le_refl _))) ?_
    omega

end Scale

/-- Every number that is read is finite. -/
theorem isFinite_of_toFloat? {n : Numeral} {x : Float} (read : n.toFloat? = some x) :
    x.isFinite = true := by
  unfold toFloat? at read
  dsimp only at read
  generalize before : collect 0 (wholeDigits n.whole) = b at read
  generalize after : collect b.1 n.fraction = a at read
  have whole : b.1 < sizeLimit := by
    rw [← before]
    exact collect_lt _ (by decide)
  have digits : a.1 < sizeLimit := by
    rw [← after]
    exact collect_lt _ whole
  have start : (Float.ofNat a.1).isFinite = true := isFinite_ofNat digits
  obtain ⟨magnitude, scaled, signed⟩ := Option.map_eq_some_iff.mp read
  have finite : magnitude.isFinite = true := by
    split at scaled
    · exact isFinite_scaleUp? start scaled
    · cases scaled
      exact isFinite_scaleDown start (by omega)
  split at signed <;> cases signed
  · exact isFinite_neg finite
  · exact finite

end LinearProgram.Numeral
