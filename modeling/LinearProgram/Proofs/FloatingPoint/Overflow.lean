import Mathlib.Algebra.Order.Field.Power
import Mathlib.Algebra.Order.Ring.Rat
import Mathlib.Tactic.FieldSimp
import Mathlib.Tactic.NormNum
import Mathlib.Tactic.Positivity
import Mathlib.Tactic.Ring
import LinearProgram.Proofs.FloatingPoint.Sign

/-!
# Overflow

An operation on numbers gives a number or an infinity, but for a division by
zero.  So a computation that divides by other numbers only and never meets an
infinity never meets a value that is no number either.

A quotient is computed exactly and rounded once.  A quotient by a positive value
overflows only if the exact quotient is at least the largest number there is.

* `isFinite_add_mul`, `isFinite_sub_mul`, `isFinite_div_of_ne_zero`: a result
  that is no infinity is a number.
* `largest_mul_le_of_not_lt`: the size of a quotient that overflows.
-/

namespace LinearProgram.FloatingPoint

open Float.Model (UnpackedFloat Format totalExponent)
open Float.Model.UnpackedFloat

/-! ## Results before they are packed -/

theorem isFinite_normalize (m e : Int) (s : Sign) :
    (UnpackedFloat.normalize Format.binary64 m e s).isFinite = true := by
  unfold UnpackedFloat.normalize
  split
  · exact isFinite_roundWithAccuracy _ _ _ _
  · rfl
  · exact isFinite_roundWithAccuracy _ _ _ _

theorem cases_of_isFinite {u : UnpackedFloat} (finite : u.isFinite = true) :
    (∃ s, u = .zero s) ∨ ∃ s m e, ∃ pos : 0 < m, u = .finite s m e pos := by
  cases u with
  | notANumber | infinity _ => exact absurd finite Bool.false_ne_true
  | zero s => exact Or.inl ⟨s, rfl⟩
  | finite s m e pos => exact Or.inr ⟨s, m, e, pos, rfl⟩

/-- Numbers give a number before it is packed, and a number and an infinity give an infinity. -/
structure KeepsNumbers (op : UnpackedFloat → UnpackedFloat → UnpackedFloat) : Prop where
  isFinite : ∀ {u v}, u.isFinite = true → v.isFinite = true → (op u v).isFinite = true
  isInf : ∀ {u} s, u.isFinite = true → (op u (.infinity s)).isInf = true

theorem keepsNumbers_add : KeepsNumbers (add Format.binary64) where
  isFinite finite finite' := by
    rcases cases_of_isFinite finite with ⟨s, rfl⟩ | ⟨s, m, e, pos, rfl⟩ <;>
    rcases cases_of_isFinite finite' with ⟨s', rfl⟩ | ⟨s', m', e', pos', rfl⟩
    · unfold add
      dsimp only
      split <;> rfl
    · rfl
    · rfl
    · exact isFinite_normalize _ _ _
  isInf s finite := by
    rcases cases_of_isFinite finite with ⟨_, rfl⟩ | ⟨_, _, _, _, rfl⟩ <;> rfl

theorem keepsNumbers_sub : KeepsNumbers (sub Format.binary64) where
  isFinite finite finite' := by
    rcases cases_of_isFinite finite with ⟨s, rfl⟩ | ⟨s, m, e, pos, rfl⟩ <;>
    rcases cases_of_isFinite finite' with ⟨s', rfl⟩ | ⟨s', m', e', pos', rfl⟩
    · unfold sub
      dsimp only
      split <;> rfl
    · rfl
    · rfl
    · exact isFinite_normalize _ _ _
  isInf s finite := by
    rcases cases_of_isFinite finite with ⟨_, rfl⟩ | ⟨_, _, _, _, rfl⟩ <;> rfl

/-- A packed result that is no infinity is a number. -/
theorem isFinite_unpack_pack_of_fits {u : UnpackedFloat} (finite : u.isFinite = true)
    (fits : (Float.Model.pack u).unpack.isInf = false) :
    (Float.Model.pack u).unpack.isFinite = true := by
  rcases isFinite_or_isInf_unpack_pack finite with inRange | large
  · exact inRange
  · cases fits.symm.trans large

theorem KeepsNumbers.isFinite_of_fits {op : UnpackedFloat → UnpackedFloat → UnpackedFloat}
    (keeps : KeepsNumbers op) {u v : UnpackedFloat} (finite : u.isFinite = true)
    (other : v.isFinite = true ∨ v.isInf = true)
    (fits : (Float.Model.pack (op u v)).unpack.isInf = false) :
    (Float.Model.pack (op u v)).unpack.isFinite = true := by
  rcases other with finite' | infinite
  · exact isFinite_unpack_pack_of_fits (keeps.isFinite finite finite') fits
  · cases v with
    | infinity s =>
      have large := keeps.isInf s finite
      cases result : op u (.infinity s) with
      | infinity s' =>
        rw [result] at fits
        cases s' <;> cases fits
      | notANumber | zero _ | finite _ _ _ _ =>
        rw [result] at large
        cases large
    | notANumber | zero _ | finite _ _ _ _ => cases infinite

/-! ## Operations -/

theorem isFinite_zero : (0.0 : Float).isFinite = true := by decide

theorem isFinite_one : (1.0 : Float).isFinite = true := by decide

section Operands

variable {x y z : Float}

theorem isFinite_or_isInf_mul (finite : x.isFinite = true) (finite' : y.isFinite = true) :
    (x * y).isFinite = true ∨ (x * y).isInf = true :=
  isFinite_or_isInf_unpack_pack (isFinite_mul_unpacked finite finite')

section AddMul

variable (first : x.isFinite = true) (second : y.isFinite = true) (third : z.isFinite = true)

include first second third

theorem isFinite_add_mul (fits : (x + y * z).isInf = false) : (x + y * z).isFinite = true :=
  keepsNumbers_add.isFinite_of_fits first (isFinite_or_isInf_mul second third) fits

theorem isFinite_sub_mul (fits : (x - y * z).isInf = false) : (x - y * z).isFinite = true :=
  keepsNumbers_sub.isFinite_of_fits first (isFinite_or_isInf_mul second third) fits

end AddMul

theorem isFinite_div_of_ne_zero (finite : x.isFinite = true) (finite' : y.isFinite = true)
    (nonzero : (y == 0.0) = false) (fits : (x / y).isInf = false) : (x / y).isFinite = true := by
  refine isFinite_unpack_pack_of_fits
    (u := div Format.binary64 x.toModel.unpack y.toModel.unpack) ?_ fits
  obtain ⟨s', m', e', pos', divisor⟩ := unpack_of_ne_zero finite' nonzero
  rw [divisor]
  change x.toModel.unpack.isFinite = true at finite
  rcases cases_of_isFinite finite with ⟨s, dividend⟩ | ⟨s, m, e, pos, dividend⟩
  · rw [dividend]
    rfl
  · rw [dividend]
    exact isFinite_roundWithAccuracy _ _ _ _

end Operands

/-! ## Comparison -/

section Comparison

variable {x y : Float}

theorem lt_iff_unpacked : x < y ↔ x.toModel.unpack.lt y.toModel.unpack = true := by
  change decide (x.toModel.unpack.lt y.toModel.unpack = true) = true ↔ _
  exact decide_eq_true_iff

/-- Comparison does not look at the sign of a zero. -/
theorem lt_zero_unpacked (u : UnpackedFloat) (s s' : Sign) : u.lt (.zero s) = u.lt (.zero s') := by
  cases u with
  | notANumber | zero _ => rfl
  | infinity t | finite t _ _ _ => cases t <;> rfl

/-- Only a value that is not zero lies above a bound that is not negative. -/
theorem ne_zero_of_lt (nonneg : ¬ x < 0.0) (above : x < y) : (y == 0.0) = false := by
  rw [lt_iff_unpacked] at nonneg above
  change y.toModel.unpack.beq (0.0 : Float).toModel.unpack = false
  rw [unpack_zero] at nonneg ⊢
  generalize y.toModel.unpack = v at above
  cases v with
  | notANumber => rfl
  | zero s => exact absurd (lt_zero_unpacked _ s .positive ▸ above) nonneg
  | infinity s | finite s _ _ _ => cases s <;> rfl

theorem ne_zero_of_lt_zero (negative : x < 0.0) : (x == 0.0) = false := by
  rw [lt_iff_unpacked] at negative
  change x.toModel.unpack.beq (0.0 : Float).toModel.unpack = false
  rw [unpack_zero] at negative ⊢
  generalize x.toModel.unpack = u at negative
  cases u with
  | notANumber => rfl
  | zero _ => cases negative
  | infinity s | finite s _ _ _ => cases s <;> rfl

/-- What lies below a negative value is negative. -/
theorem lt_zero_of_lt (below : x < y) (negative : y < 0.0) : x < 0.0 := by
  rw [lt_iff_unpacked] at below negative ⊢
  rw [unpack_zero] at negative ⊢
  generalize x.toModel.unpack = u at below
  generalize y.toModel.unpack = v at below negative
  cases v with
  | notANumber | zero _ => cases negative
  | infinity t | finite t _ _ _ =>
    cases t with
    | positive => cases negative
    | negative =>
      cases u with
      | notANumber | zero _ => cases below
      | infinity s | finite s _ _ _ =>
        cases s with
        | negative => rfl
        | positive => cases below

/-- The values above zero. -/
theorem zero_lt_cases (positive : 0.0 < x) :
    x.toModel.unpack = .infinity .positive ∨
      ∃ m e, ∃ pos : 0 < m, x.toModel.unpack = .finite .positive m e pos := by
  rw [lt_iff_unpacked, unpack_zero] at positive
  generalize x.toModel.unpack = u at positive
  cases u with
  | notANumber | zero _ => cases positive
  | infinity s =>
    cases s with
    | negative => cases positive
    | positive => exact Or.inl rfl
  | finite s m e pos =>
    cases s with
    | negative => cases positive
    | positive => exact Or.inr ⟨m, e, pos, rfl⟩

theorem unpack_infinity : (1.0 / 0.0 : Float).toModel.unpack = .infinity .positive := rfl

theorem lt_infinity (below : x.isFinite = true ∨ x.toModel.unpack = .infinity .negative) :
    x < 1.0 / 0.0 := by
  rw [lt_iff_unpacked, unpack_infinity]
  rcases below with finite | negative
  · rcases cases_of_isFinite finite with ⟨s, unpacked⟩ | ⟨s, m, e, pos, unpacked⟩ <;>
    rw [unpacked] <;> rfl
  · rw [negative]
    rfl

end Comparison

/-! ## Quotients that overflow -/

/-- The number behind an unpacked value, exactly; zero if there is none. -/
def unpackedValue : UnpackedFloat → Rat
  | .finite s m e _ => s.apply m * 2 ^ e
  | _ => 0

/-- The number that a floating-point value stands for, exactly; zero if it stands for none. -/
def exactValue (x : Float) : Rat := unpackedValue x.toModel.unpack

/-- The largest number that a floating-point value can stand for. -/
def largest : Rat := (2 ^ 53 - 1 : Nat) * 2 ^ (971 : Int)

theorem largest_le : largest ≤ 2 ^ (1024 : Int) := by
  have two : (2 : Rat) ≠ 0 := by decide
  calc largest ≤ 2 ^ 53 * 2 ^ (971 : Int) := by
        unfold largest
        gcongr
        norm_num
    _ = 2 ^ (1024 : Int) := by
        rw [← zpow_natCast, ← zpow_add₀ two]
        rfl

/-- Below the largest number, rounding gives a number that fits. -/
theorem exponentAtMost_of_lt_largest {s : Sign} {m : Nat} {e : Int} {a : Accuracy}
    (exponent : e ≤ 971) (below : m < (2 ^ 53 - 1) * 2 ^ (971 - e).toNat) :
    ExponentAtMost 971 (roundWithAccuracy Format.binary64 s m e a) := by
  by_cases inside : totalExponent m e ≤ 1023
  · exact exponentAtMost_roundWithAccuracy (by decide) exponent inside
  -- The leading place is the highest one there is, and there is room for the carry.
  have bits : m.log2 < 53 + (971 - e).toNat := by
    by_cases zero : m = 0
    · rw [zero, Nat.log2_zero]
      omega
    rw [Nat.log2_lt zero, Nat.pow_add]
    exact below.trans ((Nat.mul_lt_mul_right (Nat.two_pow_pos _)).mpr (by decide))
  have first := shiftToTargetExponent_snd m e a
  have bound := (roundedMantissa_bounds (shiftToTargetExponent Format.binary64 m e a).1).2
  have shift : (max (totalExponent m e - 53) (-1074) - e).toNat = (971 - e).toNat := by
    unfold totalExponent at *
    omega
  rw [shiftToTargetExponent_fst, shift] at bound
  have quotient := (Nat.div_lt_iff_lt_mul (Nat.two_pow_pos _)).mpr below
  have carry : (shiftToTargetExponent Format.binary64 m e a).1.roundedMantissa.log2 < 53 := by
    by_cases zero : (shiftToTargetExponent Format.binary64 m e a).1.roundedMantissa = 0
    · rw [zero, Nat.log2_zero]
      decide
    · rw [Nat.log2_lt zero]
      omega
  apply exponentAtMost_of_shifted (by decide)
  · unfold totalExponent at *
    omega
  · unfold totalExponent at *
    omega

/-- A quotient of mantissas, cut off at a place, is at most the exact quotient. -/
theorem mul_le_of_le_div {m m' c : Nat} {e e' a k : Int} (place : a ≤ e - e') (top : a ≤ k)
    (pos : 0 < m') (bound : c * 2 ^ (k - a).toNat ≤ m <<< (e - e' - a).toNat / m') :
    (c * 2 ^ k * (m' * 2 ^ e') : Rat) ≤ m * 2 ^ e := by
  have two : (2 : Rat) ≠ 0 := by decide
  rw [Nat.le_div_iff_mul_le pos, Nat.shiftLeft_eq] at bound
  have whole : (c * 2 ^ (k - a) * m' : Rat) ≤ m * 2 ^ (e - e' - a) := by
    have powers : ((k - a).toNat : Int) = k - a ∧ ((e - e' - a).toNat : Int) = e - e' - a := by
      omega
    rw [← powers.1, ← powers.2, zpow_natCast, zpow_natCast]
    exact_mod_cast bound
  calc (c * 2 ^ k * (m' * 2 ^ e') : Rat) = c * 2 ^ (k - a) * m' * 2 ^ (a + e') := by
        rw [zpow_sub₀ two, zpow_add₀ two]
        field_simp
    _ ≤ m * 2 ^ (e - e' - a) * 2 ^ (a + e') := by gcongr
    _ = m * 2 ^ e := by
        rw [mul_assoc, ← zpow_add₀ two]
        congr 2
        omega

theorem zpow_totalExponent_le {m : Nat} (e : Int) (pos : 0 < m) :
    (2 : Rat) ^ (totalExponent m e - 1) ≤ m * 2 ^ e := by
  have least : (2 : Rat) ^ m.log2 ≤ m := by
    exact_mod_cast Nat.log2_self_le (Nat.ne_of_gt pos)
  have places : totalExponent m e - 1 = m.log2 + e := by
    unfold totalExponent
    omega
  rw [places, zpow_add₀ (by decide), zpow_natCast]
  gcongr

theorem le_zpow_totalExponent (m : Nat) (e : Int) : (m * 2 ^ e : Rat) ≤ 2 ^ totalExponent m e := by
  have most : (m : Rat) ≤ 2 ^ (m.log2 + 1) := by
    exact_mod_cast Nat.lt_log2_self.le
  have places : totalExponent m e = (m.log2 + 1 : Nat) + e := by
    unfold totalExponent
    omega
  rw [places, zpow_add₀ (by decide), zpow_natCast]
  gcongr

/-- A quotient of numbers that does not fit is at least the largest number. -/
theorem largest_mul_le_of_div {s s' : Sign} {m m' : Nat} {e e' : Int} {pos : 0 < m} {pos' : 0 < m'}
    (large : ¬ ExponentAtMost 971
      (div Format.binary64 (.finite s m e pos) (.finite s' m' e' pos'))) :
    largest * (m' * 2 ^ e') ≤ m * 2 ^ e := by
  have aligned : (divCore Format.binary64 m e m' e').2.1 =
      min (e - e') (max (totalExponent m e - totalExponent m' e' - 53) (-1074)) := rfl
  -- The quotient is cut off at a place that fits, unless the leading places alone tell.
  by_cases far : 1025 ≤ totalExponent m e - totalExponent m' e'
  · calc largest * (m' * 2 ^ e') ≤ 2 ^ (1024 : Int) * 2 ^ totalExponent m' e' :=
          mul_le_mul largest_le (le_zpow_totalExponent m' e') (by positivity) (by positivity)
      _ = 2 ^ (1024 + totalExponent m' e') := (zpow_add₀ (by decide) _ _).symm
      _ ≤ 2 ^ (totalExponent m e - 1) := zpow_le_zpow_right₀ (by decide) (by omega)
      _ ≤ m * 2 ^ e := zpow_totalExponent_le e pos
  · have inside : (divCore Format.binary64 m e m' e').2.1 ≤ 971 := by
      rw [aligned]
      omega
    have bound : (2 ^ 53 - 1) * 2 ^ (971 - (divCore Format.binary64 m e m' e').2.1).toNat ≤
        (divCore Format.binary64 m e m' e').1 := by
      by_contra below
      exact large (exponentAtMost_of_lt_largest inside (not_le.mp below))
    exact mul_le_of_le_div (aligned ▸ min_le_left _ _) inside pos' bound

/-- A quotient of numbers, by a positive one, that is packed as something above all numbers. -/
theorem largest_mul_le_of_unpack_div {s : Sign} {m m' : Nat} {e e' : Int} {pos : 0 < m}
    {pos' : 0 < m'} {w : UnpackedFloat}
    (quotient : w = div Format.binary64 (.finite s m e pos) (.finite .positive m' e' pos'))
    (large : (Float.Model.pack w).unpack.isFinite = false)
    (above : (Float.Model.pack w).unpack ≠ .infinity .negative) :
    largest * unpackedValue (.finite .positive m' e' pos') ≤ unpackedValue (.finite s m e pos) := by
  have rounded : w = roundWithAccuracy Format.binary64 (s / .positive) _ _ _ := quotient
  rcases roundWithAccuracy_cases (s / .positive) _ _ _ with zero | ⟨m₁, pos₁, number⟩
  · rw [rounded, zero, isFinite_unpack_pack (u := .zero _) trivial] at large
    cases large
  · rw [number] at rounded
    rw [rounded] at large above quotient
    rcases unpack_pack_finite (s / .positive) pos₁ with inRange | ⟨beyond, infinity⟩
    · cases inRange.symm.trans large
    · cases s with
      | negative => exact absurd infinity above
      | positive =>
        have large : ¬ ExponentAtMost 971
            (div Format.binary64 (.finite .positive m e pos) (.finite .positive m' e' pos')) := by
          rw [← quotient]
          exact beyond
        exact largest_mul_le_of_div large

/-- A number divided by a positive value is below infinity, unless the exact quotient is at least
the largest number. -/
theorem largest_mul_le_of_not_lt {x y : Float} (finite : x.isFinite = true) (positive : 0.0 < y)
    (above : ¬ x / y < 1.0 / 0.0) : y.isFinite = true ∧ largest * exactValue y ≤ exactValue x := by
  obtain ⟨large, other⟩ := not_or.mp (mt lt_infinity above)
  change ¬ (Float.Model.pack (div _ x.toModel.unpack y.toModel.unpack)).unpack.isFinite = true
    at large
  change (Float.Model.pack (div _ x.toModel.unpack y.toModel.unpack)).unpack ≠ _ at other
  have notZero : ∀ s, div Format.binary64 x.toModel.unpack y.toModel.unpack ≠ .zero s := by
    intro s zero
    rw [zero] at large
    exact large (isFinite_unpack_pack (u := .zero s) trivial)
  unfold exactValue
  change y.toModel.unpack.isFinite = true ∧ _
  rcases (exponentAtMost_of_isFinite finite).unpack_cases with
    ⟨s, dividend⟩ | ⟨s, m, e, pos, dividend, _⟩ <;>
  rcases zero_lt_cases positive with divisor | ⟨m', e', pos', divisor⟩
  all_goals rw [dividend, divisor] at large other notZero ⊢
  · exact absurd rfl (notZero _)
  · exact absurd rfl (notZero _)
  · exact absurd rfl (notZero _)
  · exact ⟨rfl, largest_mul_le_of_unpack_div rfl (Bool.eq_false_iff.mpr large) other⟩

end LinearProgram.FloatingPoint
