import Mathlib.Logic.Function.Basic
import LinearProgram.Proofs.FloatingPoint.Finite
import LinearProgram.Scalar

/-!
# Signs of floating-point values

A floating-point value is its three fields, and packing writes back the fields
that unpacking read.  The sign is a bit of its own, and negation changes this bit
and no other.  So a negation is never rounded, and it can be undone.  Comparison
with zero looks at the bit alone, except that it takes both zeros for one value:
of a number and its negative, one is below zero, unless it is zero.

* `FloatingPoint.pack_toModel_unpack`: a value is packed into the bits it came from.
* `FloatingPoint.unpack_neg`: a negated value, unpacked.
* `FloatingPoint.neg_involutive`: negation can be undone.
* `FloatingPoint.neg_lt_zero_iff`: the sign of a number that is not zero.
-/

namespace LinearProgram.FloatingPoint

open Float.Model (UnpackedFloat Format)
open Float.Model.UnpackedFloat

/-! ## Packing a value again -/

/-- The bits of a value are those of its three fields. -/
theorem packComponents_fields (x : Float.Model) :
    packComponents Format.binary64 (signField x) (exponentField x) (mantissaField x) =
      x.toBits.toBitVec := by
  have field : ∀ b : BitVec 1, (Sign.ofBitVec b).toBitVec = b := by decide
  unfold packComponents signField
  rw [field]
  change x.toBits.toBitVec.extractLsb' 63 1 ++ x.toBits.toBitVec.extractLsb' 52 11 ++
    x.toBits.toBitVec.extractLsb' 0 52 = _
  rw [BitVec.extractLsb'_append_extractLsb'_eq_extractLsb' (by rfl : 63 = 52 + 11),
    BitVec.extractLsb'_append_extractLsb'_eq_extractLsb' (by rfl : 52 = 0 + 52)]
  exact BitVec.extractLsb'_eq_self

theorem ofNat_append_one (m : BitVec 52) : BitVec.ofNat 52 (1#1 ++ m).toNat = m := by
  rw [BitVec.ofNat_toNat, BitVec.setWidth_append]
  simp

theorem ofFields_eq_notANumber_iff {s : Sign} {e : BitVec 11} {m : BitVec 52} :
    ofFields s e m = .notANumber ↔ e = -1#11 ∧ m ≠ 0#52 := by
  constructor
  · intro number
    rcases ofFields_cases e m with ⟨_, _, value⟩ | ⟨top, nonzero, _⟩ | ⟨_, _, value⟩ |
      ⟨_, _, value⟩ | ⟨_, _, value⟩
    · cases (value s).symm.trans number
    · exact ⟨top, nonzero⟩
    · cases (value s).symm.trans number
    · cases (value s).symm.trans number
    · cases (value s).symm.trans number
  · rintro ⟨top, nonzero⟩
    exact (if_pos top).trans (if_neg nonzero)

/-- What fields stand for is packed into these fields, if it is a number or an infinity. -/
theorem pack_ofFields (s : Sign) {e : BitVec 11} {m : BitVec 52}
    (number : ofFields s e m ≠ .notANumber) :
    pack Format.binary64 (ofFields s e m) = packComponents Format.binary64 s e m := by
  rcases ofFields_cases e m with ⟨rfl, rfl, value⟩ | ⟨_, _, value⟩ | ⟨rfl, rfl, value⟩ |
    ⟨rfl, pos, value⟩ | ⟨below, _, value⟩
  · rw [value]
    rfl
  · exact absurd (value s) number
  · rw [value]
    rfl
  · have few : m.toNat.log2 < 52 := (Nat.log2_lt (Nat.ne_of_gt pos)).mpr m.isLt
    rw [value, pack_of_log2_ne _ _ (by decide) (Nat.ne_of_lt few), BitVec.ofNat_toNat,
      BitVec.setWidth_eq]
  · rw [value, pack_of_log2_eq _ _ (by omega) (log2_append_one m), ofNat_append_one,
      Int.sub_add_cancel, Int.toNat_natCast, BitVec.ofNat_toNat, BitVec.setWidth_eq]

/-- A value is packed into the bits that it was unpacked from. -/
theorem pack_toModel_unpack (x : Float) :
    pack Format.binary64 x.toModel.unpack = x.toModel.toBits.toBitVec := by
  rw [unpack_eq_ofFields]
  by_cases number : ofFields (signField x.toModel) (exponentField x.toModel)
      (mantissaField x.toModel) = .notANumber
  · -- There is one pattern for what is not a number.
    obtain ⟨top, nonzero⟩ := ofFields_eq_notANumber_iff.mp number
    rw [number, x.toModel.valid.eq_packedNaN top nonzero]
    rfl
  · rw [pack_ofFields _ number, packComponents_fields]

/-- Values that are the same unpacked are the same. -/
theorem eq_of_unpack_eq {x y : Float} (same : x.toModel.unpack = y.toModel.unpack) : x = y := by
  apply Binary.eq_of_toBits
  apply UInt64.toBitVec_inj.mp
  change x.toModel.toBits.toBitVec = y.toModel.toBits.toBitVec
  rw [← pack_toModel_unpack, ← pack_toModel_unpack, same]

/-! ## Negation -/

theorem neg_neg_unpacked (u : UnpackedFloat) : u.neg.neg = u := by
  have signs : ∀ s : Sign, - -s = s := fun s => by cases s <;> rfl
  cases u with
  | notANumber => rfl
  | infinity s | zero s | finite s m e pos =>
    unfold UnpackedFloat.neg
    dsimp only
    rw [signs]

/-- The sign has a field of its own. -/
theorem ofFields_neg (s : Sign) (e : BitVec 11) (m : BitVec 52) :
    ofFields (-s) e m = (ofFields s e m).neg := by
  rcases ofFields_cases e m with ⟨_, _, value⟩ | ⟨_, _, value⟩ | ⟨_, _, value⟩ | ⟨_, _, value⟩ |
    ⟨_, _, value⟩ <;>
  · rw [value, value]
    rfl

/-- A negated value, unpacked: nothing is rounded. -/
theorem unpack_neg (x : Float) : (-x).toModel.unpack = x.toModel.unpack.neg := by
  change unpack Format.binary64 (pack Format.binary64 x.toModel.unpack.neg) = _
  rw [unpack_eq_ofFields x.toModel, ← ofFields_neg]
  by_cases number : ofFields (-signField x.toModel) (exponentField x.toModel)
      (mantissaField x.toModel) = .notANumber
  · rw [number]
    rfl
  · rw [pack_ofFields _ number, unpack_packComponents]

theorem neg_involutive : Function.Involutive fun x : Float => -x := by
  intro x
  apply eq_of_unpack_eq
  rw [unpack_neg, unpack_neg, neg_neg_unpacked]

/-! ## Comparison with zero -/

theorem unpack_zero : (0.0 : Float).toModel.unpack = .zero .positive := rfl

/-- A finite value that does not count as zero. -/
theorem unpack_of_ne_zero {x : Float} (finite : x.isFinite = true) (nonzero : (x == 0.0) = false) :
    ∃ s m e, ∃ pos : 0 < m, x.toModel.unpack = .finite s m e pos := by
  rcases (exponentAtMost_of_isFinite finite).unpack_cases with
    ⟨s, unpacked⟩ | ⟨s, m, e, pos, unpacked, _⟩
  · change x.toModel.unpack.beq (0.0 : Float).toModel.unpack = false at nonzero
    rw [unpacked, unpack_zero] at nonzero
    cases nonzero
  · exact ⟨s, m, e, pos, unpacked⟩

theorem lt_zero_iff {x : Float} {s : Sign} {m : Nat} {e : Int} {pos : 0 < m}
    (unpacked : x.toModel.unpack = .finite s m e pos) : x < 0.0 ↔ s = .negative := by
  change decide ((x.toModel.unpack.lt (0.0 : Float).toModel.unpack) = true) = true ↔ _
  rw [unpacked, unpack_zero]
  cases s with
  | negative => exact iff_of_true rfl rfl
  | positive => exact iff_of_false Bool.false_ne_true nofun

/-- Of a number that is not zero and its negative, one is below zero. -/
theorem neg_lt_zero_iff {x : Float} (finite : x.isFinite = true) (nonzero : (x == 0.0) = false) :
    -x < 0.0 ↔ ¬ x < 0.0 := by
  obtain ⟨s, m, e, pos, unpacked⟩ := unpack_of_ne_zero finite nonzero
  have negated : (-x).toModel.unpack = .finite (-s) m e pos := by
    rw [unpack_neg, unpacked]
    rfl
  rw [lt_zero_iff unpacked, lt_zero_iff negated]
  cases s with
  | negative => exact iff_of_false nofun (not_not_intro rfl)
  | positive => exact iff_of_true rfl nofun

end LinearProgram.FloatingPoint
