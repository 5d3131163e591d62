import Mathlib.Algebra.GroupWithZero.Nat

/-!
# Exponents of rounded values

An operation on floating-point values computes its result with as many binary
places as it likes, rounds it to fifty-three of them and packs it.  A result can
be packed as a number as long as its last place is not too high.  Here the last
place is bounded through rounding and packing, from the number of places before:
rounding carries at most once, so the leading place goes up by at most one.

The exponent of a value is that of its last place, and its total exponent that
of its leading place.  The last place of a packed value is at least the
`-1074`th and at most the `971`st.

* `exponentAtMost_roundWithAccuracy`: the last place after rounding.
* `exists_roundWithAccuracy`: rounding keeps the leading place of a number with
  enough places, or moves it up by one.
* `ofFields_cases`: what the fields of a packed number stand for.
* `exponentAtMost_unpack_pack`: packing keeps a last place that fits.
* `unpack_pack_finite`: packing turns any other number into an infinity.
-/

namespace LinearProgram.FloatingPoint

open Float.Model (UnpackedFloat Format totalExponent)
open Float.Model.UnpackedFloat

/-! ## Shifting and rounding -/

/-- A number whose last binary place is bounded. -/
def ExponentAtMost (k : Int) : UnpackedFloat → Prop
  | .zero _ => True
  | .finite _ _ e _ => e ≤ k
  | _ => False

theorem mantissa_shiftRight (em : ExtendedMantissa) (k : Nat) :
    (em >>> k).mantissa = em.mantissa / 2 ^ k := by
  induction k generalizing em with
  | zero => simp [HShiftRight.hShiftRight, Nat.repeat]
  | succ k ih =>
    have step : (em >>> (k + 1)).mantissa = (em >>> k).mantissa / 2 := rfl
    rw [step, ih, Nat.div_div_eq_div_mul, Nat.pow_succ]

/-- Rounding goes up by at most one unit. -/
theorem roundedMantissa_bounds (em : ExtendedMantissa) :
    em.mantissa ≤ em.roundedMantissa ∧ em.roundedMantissa ≤ em.mantissa + 1 := by
  obtain ⟨m, round, sticky⟩ := em
  cases round <;> cases sticky <;>
    simp only [ExtendedMantissa.roundedMantissa, ExtendedMantissa.accuracy,
      Accuracy.roundToNearestEven] <;> omega

theorem mantissa_ofMantissaAndAccuracy (m : Nat) (a : Accuracy) :
    (ExtendedMantissa.ofMantissaAndAccuracy m a).mantissa = m := by
  rcases a with _ | ⟨_ | _ | _⟩ <;> rfl

theorem targetExponent_eq (t : Int) :
    Format.binary64.targetExponent t = max (t - 53) (-1074) := rfl

/-- The exponent to which a mantissa is shifted. -/
theorem shiftToTargetExponent_snd (m : Nat) (e : Int) (a : Accuracy) :
    (shiftToTargetExponent Format.binary64 m e a).2 =
      max e (max (totalExponent m e - 53) (-1074)) := by
  simp only [shiftToTargetExponent, shiftToExponent, targetExponent_eq]
  omega

theorem shiftToTargetExponent_fst (m : Nat) (e : Int) (a : Accuracy) :
    (shiftToTargetExponent Format.binary64 m e a).1.mantissa =
      m / 2 ^ (max (totalExponent m e - 53) (-1074) - e).toNat := by
  simp only [shiftToTargetExponent, shiftToExponent, targetExponent_eq, mantissa_shiftRight,
    mantissa_ofMantissaAndAccuracy]

/-- Rounding carries into at most one more digit. -/
theorem log2_le_of_le_div {m r s : Nat} (bound : r ≤ m / 2 ^ s + 1) :
    r.log2 ≤ m.log2 - s + 1 := by
  by_cases zero : r = 0
  · simp [zero]
  rw [← Nat.lt_succ_iff, Nat.log2_lt zero]
  have power : m / 2 ^ s < 2 ^ (m.log2 - s + 1) := by
    rw [Nat.div_lt_iff_lt_mul (Nat.two_pow_pos s), ← Nat.pow_add]
    exact Nat.lt_of_lt_of_le Nat.lt_log2_self (Nat.pow_le_pow_right (by decide) (by omega))
  calc r ≤ 2 ^ (m.log2 - s + 1) := by omega
    _ < 2 ^ (m.log2 - s + 1 + 1) := Nat.pow_lt_pow_right (by decide) (by omega)

/-- A rounded mantissa is shifted once more, since rounding may have carried into one more digit. -/
def shiftAgain (m : Nat) (e : Int) (a : Accuracy) : ExtendedMantissa × Int :=
  shiftToTargetExponent Format.binary64 (shiftToTargetExponent Format.binary64 m e a).1.roundedMantissa
    (shiftToTargetExponent Format.binary64 m e a).2 .exact

/-- Rounding gives a number, with the sign that it was given. -/
theorem roundWithAccuracy_cases (s : Sign) (m : Nat) (e : Int) (a : Accuracy) :
    roundWithAccuracy Format.binary64 s m e a = .zero s ∨
      ∃ m', ∃ pos : 0 < m',
        roundWithAccuracy Format.binary64 s m e a = .finite s m' (shiftAgain m e a).2 pos := by
  by_cases zero : (shiftAgain m e a).1.mantissa = 0
  · exact Or.inl (dif_pos zero)
  · exact Or.inr ⟨_, _, dif_neg zero⟩

theorem isFinite_roundWithAccuracy (s : Sign) (m : Nat) (e : Int) (a : Accuracy) :
    (roundWithAccuracy Format.binary64 s m e a).isFinite = true := by
  rcases roundWithAccuracy_cases s m e a with zero | ⟨m', pos, number⟩
  · rw [zero]
    rfl
  · rw [number]
    rfl

/-- The last place after rounding, from the one after the first shift and the digits left there. -/
theorem exponentAtMost_of_shifted {k : Int} {s : Sign} {m : Nat} {e : Int} {a : Accuracy}
    (least : -1074 ≤ k) (exponent : (shiftToTargetExponent Format.binary64 m e a).2 ≤ k)
    (total : totalExponent (shiftToTargetExponent Format.binary64 m e a).1.roundedMantissa
      (shiftToTargetExponent Format.binary64 m e a).2 ≤ k + 53) :
    ExponentAtMost k (roundWithAccuracy Format.binary64 s m e a) := by
  rcases roundWithAccuracy_cases s m e a with zero | ⟨m', pos, number⟩
  · rw [zero]
    trivial
  · rw [number]
    change (shiftAgain m e a).2 ≤ k
    rw [shiftAgain, shiftToTargetExponent_snd]
    omega

theorem exponentAtMost_roundWithAccuracy {k : Int} {s : Sign} {m : Nat} {e : Int} {a : Accuracy}
    (least : -1074 ≤ k) (exponent : e ≤ k) (total : totalExponent m e ≤ k + 52) :
    ExponentAtMost k (roundWithAccuracy Format.binary64 s m e a) := by
  have first := shiftToTargetExponent_snd m e a
  have bound := (roundedMantissa_bounds (shiftToTargetExponent Format.binary64 m e a).1).2
  rw [shiftToTargetExponent_fst] at bound
  have carry := log2_le_of_le_div bound
  apply exponentAtMost_of_shifted least
  · omega
  · unfold totalExponent at *
    omega

/-- Fifty-three places are left if there are as many, or the power of two above them all. -/
theorem roundedMantissa_shiftToTargetExponent {m : Nat} {e : Int} {a : Accuracy}
    (places : 52 ≤ m.log2) (normal : -1021 ≤ totalExponent m e) :
    2 ^ 52 ≤ (shiftToTargetExponent Format.binary64 m e a).1.roundedMantissa ∧
      (shiftToTargetExponent Format.binary64 m e a).1.roundedMantissa ≤ 2 ^ 53 := by
  have nonzero : m ≠ 0 := by
    rintro rfl
    exact absurd places (by decide)
  have shift : (max (totalExponent m e - 53) (-1074) - e).toNat = m.log2 - 52 := by
    unfold totalExponent at *
    omega
  have low : 2 ^ 52 ≤ m / 2 ^ (m.log2 - 52) := by
    rw [Nat.le_div_iff_mul_le (Nat.two_pow_pos _), ← Nat.pow_add, Nat.add_sub_of_le places]
    exact Nat.log2_self_le nonzero
  have high : m / 2 ^ (m.log2 - 52) < 2 ^ 53 := by
    rw [Nat.div_lt_iff_lt_mul (Nat.two_pow_pos _), ← Nat.pow_add,
      (by omega : 53 + (m.log2 - 52) = m.log2 + 1)]
    exact Nat.lt_log2_self
  have bounds := roundedMantissa_bounds (shiftToTargetExponent Format.binary64 m e a).1
  rw [shiftToTargetExponent_fst, shift] at bounds
  omega

/-- Such a mantissa is shifted once more only if it is the power of two. -/
theorem shiftToTargetExponent_of_places {r : Nat} {e : Int} (low : 2 ^ 52 ≤ r) (high : r ≤ 2 ^ 53)
    (least : -1074 ≤ e) :
    (shiftToTargetExponent Format.binary64 r e .exact).1.mantissa ≠ 0 ∧
      (shiftToTargetExponent Format.binary64 r e .exact).1.mantissa.log2 = 52 ∧
      e ≤ (shiftToTargetExponent Format.binary64 r e .exact).2 ∧
      (shiftToTargetExponent Format.binary64 r e .exact).2 ≤ e + 1 := by
  rw [shiftToTargetExponent_fst, shiftToTargetExponent_snd]
  rcases Nat.lt_or_ge r (2 ^ 53) with inside | carried
  · have place : r.log2 = 52 := (Nat.log2_eq_iff (by omega)).mpr ⟨low, inside⟩
    have total : totalExponent r e = e + 53 := by
      unfold totalExponent
      omega
    have none : (max (totalExponent r e - 53) (-1074) - e).toNat = 0 := by omega
    rw [none, Nat.pow_zero, Nat.div_one]
    omega
  · obtain rfl : r = 2 ^ 53 := Nat.le_antisymm high carried
    have total : totalExponent (2 ^ 53) e = e + 54 := by
      unfold totalExponent
      rw [Nat.log2_two_pow]
      omega
    have one : (max (totalExponent (2 ^ 53) e - 53) (-1074) - e).toNat = 1 := by omega
    rw [one]
    exact ⟨by decide, by decide, by omega, by omega⟩

/-- A number that has as many places as fit keeps its leading place, or is rounded up to the next
one. -/
theorem exists_roundWithAccuracy {s : Sign} {m : Nat} {e : Int} {a : Accuracy}
    (places : 52 ≤ m.log2) (normal : -1021 ≤ totalExponent m e) :
    ∃ m' e', ∃ pos : 0 < m', roundWithAccuracy Format.binary64 s m e a = .finite s m' e' pos ∧
      m'.log2 = 52 ∧ totalExponent m e - 53 ≤ e' ∧ e' ≤ totalExponent m e - 52 := by
  have first := shiftToTargetExponent_snd m e a
  obtain ⟨low, high⟩ := roundedMantissa_shiftToTargetExponent (a := a) places normal
  have exponent : (shiftToTargetExponent Format.binary64 m e a).2 = totalExponent m e - 53 := by
    unfold totalExponent at *
    omega
  obtain ⟨nonzero, place, atLeast, atMost⟩ := shiftToTargetExponent_of_places low high
    (by omega : -1074 ≤ (shiftToTargetExponent Format.binary64 m e a).2)
  refine ⟨_, (shiftAgain m e a).2, _, dif_neg nonzero, place, ?_, ?_⟩ <;>
    unfold shiftAgain <;>
    omega

theorem log2_mul_lt {m m' : Nat} (pos : 0 < m) (pos' : 0 < m') :
    (m * m').log2 < m.log2 + m'.log2 + 2 := by
  rw [Nat.log2_lt (Nat.ne_of_gt (Nat.mul_pos pos pos'))]
  calc m * m' < 2 ^ (m.log2 + 1) * 2 ^ (m'.log2 + 1) :=
        Nat.mul_lt_mul'' Nat.lt_log2_self Nat.lt_log2_self
    _ = 2 ^ (m.log2 + m'.log2 + 2) := by rw [← Nat.pow_add]; congr 1; omega

theorem exponentAtMost_mul {k : Int} {s s' : Sign} {m m' : Nat} {e e' : Int} {pos : 0 < m}
    {pos' : 0 < m'} (least : -1074 ≤ k) (exponent : e + e' ≤ k)
    (total : totalExponent m e + totalExponent m' e' ≤ k + 52) :
    ExponentAtMost k (mul Format.binary64 (.finite s m e pos) (.finite s' m' e' pos')) := by
  have product := log2_mul_lt pos pos'
  refine exponentAtMost_roundWithAccuracy least exponent ?_
  unfold totalExponent at *
  omega

theorem log2_div_le {m m' s : Nat} (pos : 0 < m') (nonzero : m <<< s / m' ≠ 0) :
    (m <<< s / m').log2 + m'.log2 ≤ m.log2 + s := by
  rw [← Nat.lt_succ_iff, ← Nat.pow_lt_pow_iff_right (show 1 < 2 by decide), Nat.pow_add]
  calc 2 ^ (m <<< s / m').log2 * 2 ^ m'.log2 ≤ m <<< s / m' * m' :=
        Nat.mul_le_mul (Nat.log2_self_le nonzero) (Nat.log2_self_le (Nat.ne_of_gt pos))
    _ ≤ m <<< s := Nat.div_mul_le_self _ _
    _ = m * 2 ^ s := Nat.shiftLeft_eq m s
    _ < 2 ^ (m.log2 + 1) * 2 ^ s :=
        (Nat.mul_lt_mul_right (Nat.two_pow_pos s)).mpr Nat.lt_log2_self
    _ = 2 ^ (m.log2 + s).succ := by rw [← Nat.pow_add]; congr 1; omega

/-- A quotient has as many binary places as the numbers suggest, or one more, and may be rounded up
to a power of two. -/
theorem exponentAtMost_div {k : Int} {s s' : Sign} {m m' : Nat} {e e' : Int} {pos : 0 < m}
    {pos' : 0 < m'} (least : -1074 ≤ k)
    (total : totalExponent m e - totalExponent m' e' < k + 52) :
    ExponentAtMost k (div Format.binary64 (.finite s m e pos) (.finite s' m' e' pos')) := by
  have aligned : (divCore Format.binary64 m e m' e').2.1 =
      min (e - e') (max (totalExponent m e - totalExponent m' e' - 53) (-1074)) := rfl
  have exponent : (divCore Format.binary64 m e m' e').2.1 ≤ k := by
    rw [aligned]
    omega
  have quotient : (divCore Format.binary64 m e m' e').1 =
      m <<< (e - e' - (divCore Format.binary64 m e m' e').2.1).toNat / m' := rfl
  have total' : totalExponent (divCore Format.binary64 m e m' e').1
      (divCore Format.binary64 m e m' e').2.1 ≤ k + 52 := by
    generalize (divCore Format.binary64 m e m' e').2.1 = t at *
    rw [quotient]
    unfold totalExponent at *
    by_cases zero : m <<< (e - e' - t).toNat / m' = 0
    · rw [zero, Nat.log2_zero]
      omega
    · have bits := log2_div_le pos' zero
      omega
  exact exponentAtMost_roundWithAccuracy least exponent total'

/-! ## The fields of a packed number -/

/-- The sign that the first bit stands for. -/
abbrev signField (x : Float.Model) : Sign :=
  Sign.ofBitVec (@unpackSign Format.binary64 x.toBits.toBitVec)

/-- The bits of the exponent. -/
abbrev exponentField (x : Float.Model) : BitVec 11 :=
  @unpackExponent Format.binary64 x.toBits.toBitVec

/-- The bits of the mantissa, without the leading one. -/
abbrev mantissaField (x : Float.Model) : BitVec 52 :=
  @unpackMantissa Format.binary64 x.toBits.toBitVec

theorem toNat_pos_of_ne_zero {m : BitVec 52} (nonzero : m ≠ 0#52) : 0 < m.toNat :=
  Nat.pos_of_ne_zero fun zero => nonzero (BitVec.eq_of_toNat_eq zero)

/-- The mantissa with the leading one that its field leaves out. -/
theorem toNat_append_one (m : BitVec 52) : (1#1 ++ m).toNat = 2 ^ 52 + m.toNat := by
  rw [BitVec.toNat_append, ← Nat.shiftLeft_add_eq_or_of_lt m.isLt]
  rfl

theorem log2_append_one (m : BitVec 52) : (1#1 ++ m).toNat.log2 = 52 := by
  have bound := m.isLt
  rw [toNat_append_one, Nat.log2_eq_iff (by omega)]
  omega

theorem append_one_pos (m : BitVec 52) : 0 < (1#1 ++ m).toNat := by
  rw [toNat_append_one]
  omega

/-- What three fields stand for. -/
def ofFields (s : Sign) (e : BitVec 11) (m : BitVec 52) : UnpackedFloat :=
  if e = -1#11 then
    if m = 0#52 then .infinity s else .notANumber
  else if e = 0#11 then
    if zero : m = 0#52 then .zero s
    else .finite s m.toNat ((e.toNat : Int) - 1075 + 1) (toNat_pos_of_ne_zero zero)
  else
    .finite s (1#1 ++ m).toNat ((e.toNat : Int) - 1075) (append_one_pos m)

/-- Fields stand for an infinity, for no number, for zero, for a number with fewer places than fit or
for one with all of them, and the sign is that of its field. -/
theorem ofFields_cases (e : BitVec 11) (m : BitVec 52) :
    (e = -1#11 ∧ m = 0#52 ∧ ∀ s, ofFields s e m = .infinity s) ∨
    (e = -1#11 ∧ m ≠ 0#52 ∧ ∀ s, ofFields s e m = .notANumber) ∨
    (e = 0#11 ∧ m = 0#52 ∧ ∀ s, ofFields s e m = .zero s) ∨
    (e = 0#11 ∧ ∃ pos, ∀ s, ofFields s e m = .finite s m.toNat (-1074) pos) ∨
    (e.toNat < 2047 ∧
      ∃ pos, ∀ s, ofFields s e m = .finite s (1#1 ++ m).toNat ((e.toNat : Int) - 1075) pos) := by
  by_cases top : e = -1#11
  · by_cases zero : m = 0#52
    · exact Or.inl ⟨top, zero, fun _ => (if_pos top).trans (if_pos zero)⟩
    · exact Or.inr (Or.inl ⟨top, zero, fun _ => (if_pos top).trans (if_neg zero)⟩)
  refine Or.inr (Or.inr ?_)
  by_cases least : e = 0#11
  · subst least
    by_cases zero : m = 0#52
    · exact Or.inl ⟨rfl, zero, fun _ => (if_neg top).trans ((if_pos rfl).trans (dif_pos zero))⟩
    · exact Or.inr (Or.inl ⟨rfl, toNat_pos_of_ne_zero zero,
        fun _ => (if_neg top).trans ((if_pos rfl).trans (dif_neg zero))⟩)
  · have bound := e.isLt
    have below : e.toNat ≠ 2047 := fun same => top (BitVec.eq_of_toNat_eq same)
    exact Or.inr (Or.inr ⟨by omega, append_one_pos m,
      fun _ => (if_neg top).trans (if_neg least)⟩)

theorem unpack_eq_ofFields (x : Float.Model) :
    x.unpack = ofFields (signField x) (exponentField x) (mantissaField x) := rfl

/-- The sign is read where it was written. -/
theorem ofBitVec_unpackSign (s : Sign) (e : BitVec 11) (m : BitVec 52) :
    Sign.ofBitVec (unpackSign (packComponents Format.binary64 s e m)) = s := by
  have first : unpackSign (packComponents Format.binary64 s e m) = s.toBitVec := by
    apply BitVec.eq_of_getElem_eq
    intro i bound
    obtain rfl : i = 0 := by omega
    change (BitVec.extractLsb 63 63 (s.toBitVec ++ e ++ m))[0] = _
    have bit : (s.toBitVec ++ e ++ m)[63] = s.toBitVec[0] := by
      rw [BitVec.getElem_append, dif_neg (by decide), BitVec.getElem_append]
      rfl
    simpa using bit
  rw [first]
  cases s <;> rfl

theorem unpack_packComponents (s : Sign) (e : BitVec 11) (m : BitVec 52) :
    unpack Format.binary64 (packComponents Format.binary64 s e m) = ofFields s e m := by
  change ofFields (Sign.ofBitVec (unpackSign (packComponents Format.binary64 s e m)))
    (unpackExponent (packComponents Format.binary64 s e m))
    (unpackMantissa (packComponents Format.binary64 s e m)) = _
  rw [ofBitVec_unpackSign, unpackExponent_packComponents, unpackMantissa_packComponents]

/-- The mantissas and exponents that fields can stand for. -/
theorem ofFields_finite_bounds {s s' : Sign} {e : BitVec 11} {m : BitVec 52} {m' : Nat} {e' : Int}
    {pos : 0 < m'} (number : ofFields s e m = .finite s' m' e' pos) : m'.log2 < 53 ∧ e' ≤ 971 := by
  rcases ofFields_cases e m with ⟨_, _, value⟩ | ⟨_, _, value⟩ | ⟨_, _, value⟩ | ⟨_, _, value⟩ |
    ⟨below, _, value⟩ <;>
  cases (value s).symm.trans number
  · rw [Nat.log2_lt (Nat.ne_of_gt pos)]
    exact ⟨Nat.lt_trans m.isLt (by decide), by decide⟩
  · rw [log2_append_one]
    omega

theorem exponentAtMost_ofFields {k : Int} {s : Sign} {e : BitVec 11} {m : BitVec 52}
    (least : -1074 ≤ k) (greatest : k ≤ 971) (bound : (e.toNat : Int) - 1075 ≤ k) :
    ExponentAtMost k (ofFields s e m) := by
  have below : e ≠ -1#11 := by
    rintro rfl
    change (2047 : Int) - 1075 ≤ k at bound
    omega
  rcases ofFields_cases e m with ⟨top, _⟩ | ⟨top, _⟩ | ⟨_, _, value⟩ | ⟨_, _, value⟩ |
    ⟨_, _, value⟩
  · exact absurd top below
  · exact absurd top below
  · rw [value]
    trivial
  · rw [value]
    exact least
  · rw [value]
    exact bound

/-! ## Packing -/

section Pack

variable (s : Sign) {m : Nat} {e : Int} (pos : 0 < m)

/-- A number with all its places is packed without the leading one. -/
theorem pack_of_log2_eq (greatest : e ≤ 971) (places : m.log2 = 52) :
    pack Format.binary64 (.finite s m e pos) =
      packComponents Format.binary64 s (BitVec.ofNat 11 (e + 1075).toNat) (BitVec.ofNat 52 m) := by
  have fits : ¬ 2 ^ 11 ≤ (e + 1023 + 52 : Int).toNat + 1 := by omega
  have normal : m.log2 + 1 = 53 := by omega
  have exponent : e + 1023 + 52 = e + 1075 := by omega
  refine (if_neg fits).trans ((if_pos normal).trans ?_)
  change packComponents Format.binary64 s (BitVec.ofNat 11 (e + 1023 + 52).toNat) _ = _
  rw [exponent]

/-- A number with fewer places is packed without its exponent. -/
theorem pack_of_log2_ne (greatest : e ≤ 971) (places : m.log2 ≠ 52) :
    pack Format.binary64 (.finite s m e pos) =
      packComponents Format.binary64 s 0#11 (BitVec.ofNat 52 m) := by
  have fits : ¬ 2 ^ 11 ≤ (e + 1023 + 52 : Int).toNat + 1 := by omega
  have subnormal : ¬ m.log2 + 1 = 53 := by omega
  exact (if_neg fits).trans (if_neg subnormal)

theorem pack_finite (greatest : e ≤ 971) :
    ∃ e' : BitVec 11, ∃ m', pack Format.binary64 (.finite s m e pos) =
      packComponents Format.binary64 s e' m' ∧ (e'.toNat : Int) ≤ max 0 (e + 1075) := by
  by_cases places : m.log2 = 52
  · refine ⟨_, _, pack_of_log2_eq s pos greatest places, ?_⟩
    rw [BitVec.toNat_ofNat, Nat.mod_eq_of_lt (by omega)]
    omega
  · exact ⟨_, _, pack_of_log2_ne s pos greatest places, Int.le_max_left 0 _⟩

end Pack

theorem exponentAtMost_unpack_pack {k : Int} {u : UnpackedFloat} (least : -1074 ≤ k)
    (greatest : k ≤ 971) (bound : ExponentAtMost k u) :
    ExponentAtMost k (Float.Model.pack u).unpack := by
  cases u with
  | notANumber | infinity _ => exact absurd bound id
  | zero s =>
    change ExponentAtMost k (unpack Format.binary64 (packComponents Format.binary64 s 0#11 0#52))
    rw [unpack_packComponents]
    trivial
  | finite s m e pos =>
    change e ≤ k at bound
    obtain ⟨e', m', packed, field⟩ := pack_finite s pos (Int.le_trans bound greatest)
    change ExponentAtMost k (unpack Format.binary64 (pack Format.binary64 (.finite s m e pos)))
    rw [packed, unpack_packComponents]
    exact exponentAtMost_ofFields least greatest (by omega)

theorem ExponentAtMost.isFinite {k : Int} {u : UnpackedFloat} (bound : ExponentAtMost k u) :
    u.isFinite = true := by
  cases u with
  | notANumber | infinity _ => exact absurd bound id
  | zero _ | finite _ _ _ _ => rfl

/-- A packed number is a number again, unless it is too large, and then it keeps its sign. -/
theorem unpack_pack_finite (s : Sign) {m : Nat} {e : Int} (pos : 0 < m) :
    (Float.Model.pack (.finite s m e pos)).unpack.isFinite = true ∨
      (¬ e ≤ 971 ∧ (Float.Model.pack (.finite s m e pos)).unpack = .infinity s) := by
  by_cases bound : e ≤ 971
  · have fits : ExponentAtMost 971 (.finite s m e pos) := bound
    exact Or.inl (exponentAtMost_unpack_pack (by decide) (by decide) fits).isFinite
  · have large : 2 ^ 11 ≤ (e + 1023 + 52 : Int).toNat + 1 := by omega
    have packed : pack Format.binary64 (.finite s m e pos) = packedInfinity Format.binary64 s :=
      if_pos large
    change _ ∨ (_ ∧ unpack Format.binary64 (pack Format.binary64 (.finite s m e pos)) = _)
    rw [packed]
    cases s <;> exact Or.inr ⟨bound, rfl⟩

theorem isFinite_or_isInf_unpack_pack {u : UnpackedFloat} (finite : u.isFinite = true) :
    (Float.Model.pack u).unpack.isFinite = true ∨ (Float.Model.pack u).unpack.isInf = true := by
  cases u with
  | notANumber | infinity _ => exact absurd finite Bool.false_ne_true
  | zero s => cases s <;> exact Or.inl rfl
  | finite s m e pos =>
    rcases unpack_pack_finite s pos with inRange | ⟨_, infinity⟩
    · exact Or.inl inRange
    · rw [infinity]
      exact Or.inr rfl

theorem ExponentAtMost.unpack_cases {k : Int} {x : Float.Model}
    (bound : ExponentAtMost k x.unpack) :
    (∃ s, x.unpack = .zero s) ∨
    ∃ s m e, ∃ pos : 0 < m, x.unpack = .finite s m e pos ∧ m.log2 < 53 ∧ e ≤ k := by
  cases unpacked : x.unpack with
  | notANumber | infinity _ =>
    rw [unpacked] at bound
    exact absurd bound id
  | zero s => exact Or.inl ⟨s, rfl⟩
  | finite s m e pos =>
    rw [unpacked] at bound
    exact Or.inr ⟨s, m, e, pos, rfl, (ofFields_finite_bounds unpacked).1, bound⟩

end LinearProgram.FloatingPoint
