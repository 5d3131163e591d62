import LinearProgram.Json.Number
import LinearProgram.Json.Token

/-!
# Written numerals are read back

A numeral is written as a sign, its whole part, its digits after the point and
its power of ten, of which each may be missing but the whole part.  The reader
takes the parts off in this order.  It knows where digits end because what
follows them is never a digit, and it accepts the whole part because a whole
number is written without leading zeros.

* `numeralOfChars?_chars`: every numeral is read back from its characters.
* `isNumberChar_of_mem_chars`: all of them may stand in a number.
-/

namespace LinearProgram

/-! ## Digits -/

namespace Digit

theorem ofChar?_toChar (d : Digit) : ofChar? d.toChar = some d := by
  revert d
  decide

theorem isDigit_toChar (d : Digit) : d.toChar.isDigit = true := by
  revert d
  decide

theorem toNat_toChar (d : Digit) : d.toChar.toNat - '0'.toNat = d.val := by
  revert d
  decide

/-- A digit is none of the other characters. -/
theorem ne_of_isDigit {c d : Char} (digit : c.isDigit = true) (other : d.isDigit = false) :
    c ≠ d := by
  rintro rfl
  exact Bool.false_ne_true (other.symm.trans digit)

theorem ofChar?_of_isDigit {c : Char} (digit : c.isDigit = true) :
    ∃ d, ofChar? c = some d ∧ d.toChar = c := by
  have bounds : 48 ≤ c.toNat ∧ c.toNat ≤ 57 := by
    simpa [Char.isDigit, UInt32.le_iff_toNat_le] using digit
  refine ⟨_, if_pos digit, ?_⟩
  unfold toChar
  rw [Fin.val_ofNat, Nat.mod_eq_of_lt (by omega), Nat.add_sub_of_le bounds.1, Char.ofNat_toNat]

theorem map_toChar_filterMap {cs : List Char} (digits : ∀ c ∈ cs, c.isDigit = true) :
    (cs.filterMap ofChar?).map toChar = cs := by
  induction cs with
  | nil => rfl
  | cons c cs ih =>
    obtain ⟨d, read, same⟩ := ofChar?_of_isDigit (digits c List.mem_cons_self)
    rw [List.filterMap_cons_some read, List.map_cons, same,
      ih fun c mem => digits c (List.mem_cons_of_mem _ mem)]

end Digit

/-! ## Whole numbers -/

namespace Numeral

theorem isDigit_of_mem_natChars {n : Nat} {c : Char} (mem : c ∈ natChars n) :
    c.isDigit = true :=
  Nat.isDigit_of_mem_toDigits (by decide) (by decide) mem

theorem map_toChar_wholeDigits (n : Nat) : (wholeDigits n).map Digit.toChar = natChars n :=
  Digit.map_toChar_filterMap fun _ => isDigit_of_mem_natChars

theorem natChars_ne_nil (n : Nat) : natChars n ≠ [] := Nat.toDigits_ne_nil

theorem wholeDigits_ne_nil (n : Nat) : wholeDigits n ≠ [] := by
  intro none
  have chars := map_toChar_wholeDigits n
  rw [none] at chars
  exact natChars_ne_nil n chars.symm

theorem natOfDigits_wholeDigits (n : Nat) : Json.natOfDigits (wholeDigits n) = n := by
  have value : Json.natOfDigits (wholeDigits n) =
      Nat.ofDigitChars 10 ((wholeDigits n).map Digit.toChar) 0 := by
    simp only [Nat.ofDigitChars_eq_foldl, List.foldl_map, Digit.toNat_toChar]
    rfl
  rw [value, map_toChar_wholeDigits]
  exact Nat.ofDigitChars_ten_toDigits

/-- A positive number has no leading zeros: those of a tenth of it come first. -/
theorem head?_natChars_ne {n : Nat} (pos : 0 < n) : (natChars n).head? ≠ some '0' := by
  induction n using Nat.strongRecOn with
  | ind n ih =>
    by_cases small : n < 10
    · have chars : natChars n = [n.digitChar] := Nat.toDigits_of_lt_base small
      rw [chars, List.head?_cons]
      intro zero
      exact absurd (Nat.digitChar_eq_zero.mp (Option.some.inj zero)) (by omega)
    · have chars : natChars n = natChars (n / 10) ++ [(n % 10).digitChar] :=
        Nat.toDigits_of_base_le (by decide) (by omega)
      obtain ⟨c, cs, tenth⟩ := List.exists_cons_of_ne_nil (natChars_ne_nil (n / 10))
      have first := ih (n / 10) (by omega) (by omega)
      rw [tenth] at chars first
      rw [chars]
      exact first

/-- The first digit of a whole number is zero for the number zero only. -/
theorem wholeDigits_cases (n : Nat) :
    ∃ d ds, wholeDigits n = d :: ds ∧ (d.val = 0 → ds = []) := by
  obtain ⟨d, ds, digits⟩ := List.exists_cons_of_ne_nil (wholeDigits_ne_nil n)
  refine ⟨d, ds, digits, fun zero => ?_⟩
  rcases Nat.eq_zero_or_pos n with rfl | pos
  · exact (List.cons.inj (digits.symm.trans (show wholeDigits 0 = [0] by decide))).2
  · have chars := map_toChar_wholeDigits n
    rw [digits, List.map_cons] at chars
    refine absurd ?_ (head?_natChars_ne pos)
    rw [← chars, List.head?_cons]
    unfold Digit.toChar
    rw [zero]

end Numeral

/-! ## Reading a numeral -/

namespace Json

/-- Characters before which the digits of a number end. -/
def EndsDigits (rest : List Char) : Prop := ∀ c ∈ rest.head?, c.isDigit = false

theorem endsDigits_nil : EndsDigits [] := nofun

theorem endsDigits_cons {c : Char} (other : c.isDigit = false) (rest : List Char) :
    EndsDigits (c :: rest) := by
  rintro _ ⟨⟩
  exact other

theorem digitsThenRest_of_endsDigits {rest : List Char} (ends : EndsDigits rest) :
    digitsThenRest rest = ([], rest) := by
  cases rest with
  | nil => rfl
  | cons c cs =>
    have other : Digit.ofChar? c = none := if_neg (by rw [ends c rfl]; decide)
    rw [digitsThenRest, other]

theorem digitsThenRest_map_toChar (ds : List Digit) {rest : List Char} (ends : EndsDigits rest) :
    digitsThenRest (ds.map Digit.toChar ++ rest) = (ds, rest) := by
  induction ds with
  | nil => exact digitsThenRest_of_endsDigits ends
  | cons d ds ih =>
    rw [List.map_cons, List.cons_append, digitsThenRest, Digit.ofChar?_toChar, ih]

theorem digitsThenRest_natChars (n : Nat) {rest : List Char} (ends : EndsDigits rest) :
    digitsThenRest (Numeral.natChars n ++ rest) = (Numeral.wholeDigits n, rest) := by
  rw [← Numeral.map_toChar_wholeDigits]
  exact digitsThenRest_map_toChar _ ends

theorem exponentOfChars?_sign (e : Int) :
    exponentOfChars? ((if e < 0 then '-' else '+') :: Numeral.natChars e.natAbs) = some e := by
  have digits : digitsThenRest (Numeral.natChars e.natAbs) =
      (Numeral.wholeDigits e.natAbs, []) := by
    simpa using digitsThenRest_natChars e.natAbs endsDigits_nil
  obtain ⟨d, ds, whole, _⟩ := Numeral.wholeDigits_cases e.natAbs
  have value := Numeral.natOfDigits_wholeDigits e.natAbs
  rw [whole] at digits value
  by_cases negative : e < 0
  · simp only [exponentOfChars?, if_pos negative, digits, value, if_true]
    congr 1
    omega
  · simp only [exponentOfChars?, if_neg negative, digits, value]
    rw [if_neg Bool.false_ne_true]
    congr 1
    omega

/-- The characters of a power of ten, if there is one. -/
def powerChars (exponent : Option Int) : List Char :=
  (exponent.map (Numeral.exponentChars true)).getD []

theorem powerChars_some (e : Int) :
    powerChars (some e) = 'e' :: (if e < 0 then '-' else '+') :: Numeral.natChars e.natAbs := by
  by_cases negative : e < 0 <;> simp [powerChars, Numeral.exponentChars, negative]

theorem endsDigits_powerChars (exponent : Option Int) : EndsDigits (powerChars exponent) := by
  cases exponent with
  | none => exact endsDigits_nil
  | some e =>
    rw [powerChars_some]
    exact endsDigits_cons rfl _

theorem powerOfChars?_powerChars (negative : Bool) (whole : Nat) (fraction : List Digit)
    (exponent : Option Int) :
    powerOfChars? negative whole fraction (powerChars exponent) =
      some ⟨negative, whole, fraction, exponent⟩ := by
  cases exponent with
  | none => rfl
  | some e =>
    rw [powerChars_some, powerOfChars?, if_pos (Or.inl rfl), exponentOfChars?_sign]
    rfl

/-- The characters after the point, if there are any, and the point. -/
def fractionChars (fraction : List Digit) : List Char :=
  if fraction.isEmpty then [] else '.' :: fraction.map Digit.toChar

theorem unsignedOfChars?_parts (negative : Bool) (whole : Nat) (fraction : List Digit)
    (exponent : Option Int) :
    unsignedOfChars? negative
        (Numeral.natChars whole ++ (fractionChars fraction ++ powerChars exponent)) =
      some ⟨negative, whole, fraction, exponent⟩ := by
  obtain ⟨d, ds, digits, zero⟩ := Numeral.wholeDigits_cases whole
  have ends : EndsDigits (fractionChars fraction ++ powerChars exponent) := by
    cases fraction with
    | nil => exact endsDigits_powerChars exponent
    | cons d ds => exact endsDigits_cons rfl _
  have accepted : (d.val = 0 && !ds.isEmpty) = false := by
    by_cases leading : d.val = 0 <;> simp [leading, zero]
  have value := Numeral.natOfDigits_wholeDigits whole
  have read := digitsThenRest_natChars whole ends
  rw [digits] at value read
  rw [unsignedOfChars?, read]
  simp only [accepted, value]
  cases fraction with
  | nil =>
    -- A power of ten does not begin with a point.
    have plain := powerOfChars?_powerChars negative whole [] exponent
    cases exponent with
    | none => exact plain
    | some e =>
      rw [powerChars_some] at plain ⊢
      exact plain
  | cons f fs =>
    have after := digitsThenRest_map_toChar (f :: fs) (endsDigits_powerChars exponent)
    have plain := powerOfChars?_powerChars negative whole (f :: fs) exponent
    have point : fractionChars (f :: fs) ++ powerChars exponent =
      '.' :: ((f :: fs).map Digit.toChar ++ powerChars exponent) := rfl
    rw [point]
    simp only [after]
    exact plain

/-! ## The characters of a numeral -/

theorem chars_eq (n : Numeral) :
    n.chars true = (if n.negative then ['-'] else []) ++
      (Numeral.natChars n.whole ++ (fractionChars n.fraction ++ powerChars n.exponent)) := by
  unfold Numeral.chars fractionChars powerChars
  simp only [List.append_assoc]

/-- A whole number is written with at least one digit. -/
theorem exists_natChars_append (n : Nat) (rest : List Char) :
    ∃ c cs, Numeral.natChars n ++ rest = c :: cs ∧ c.isDigit = true := by
  obtain ⟨c, cs, chars⟩ := List.exists_cons_of_ne_nil (Numeral.natChars_ne_nil n)
  refine ⟨c, cs ++ rest, by rw [chars, List.cons_append], ?_⟩
  exact Numeral.isDigit_of_mem_natChars (by rw [chars]; exact List.mem_cons_self)

/-- Every numeral is read back. -/
theorem numeralOfChars?_chars (n : Numeral) : numeralOfChars? (n.chars true) = some n := by
  obtain ⟨negative, whole, fraction, exponent⟩ := n
  have read := unsignedOfChars?_parts negative whole fraction exponent
  rw [chars_eq]
  cases negative with
  | true => exact read
  | false =>
    obtain ⟨c, cs, chars, digit⟩ :=
      exists_natChars_append whole (fractionChars fraction ++ powerChars exponent)
    have unsigned : c ≠ '-' := Digit.ne_of_isDigit digit rfl
    simp only [Bool.false_eq_true, if_false, List.nil_append]
    rw [chars] at read ⊢
    unfold numeralOfChars?
    split
    · next same => exact absurd (List.cons.inj same).1 unsigned
    · exact read

theorem exists_cons_chars (n : Numeral) :
    ∃ c cs, n.chars true = c :: cs ∧ (c = '-' ∨ c.isDigit = true) := by
  rw [chars_eq]
  cases n.negative with
  | true => exact ⟨_, _, rfl, Or.inl rfl⟩
  | false =>
    obtain ⟨c, cs, chars, digit⟩ :=
      exists_natChars_append n.whole (fractionChars n.fraction ++ powerChars n.exponent)
    exact ⟨c, cs, chars, Or.inr digit⟩

theorem isNumberChar_of_isDigit {c : Char} (digit : c.isDigit = true) : isNumberChar c = true := by
  simp [isNumberChar, digit]

theorem isNumberChar_of_mem_natChars {n : Nat} {c : Char} (mem : c ∈ Numeral.natChars n) :
    isNumberChar c = true :=
  isNumberChar_of_isDigit (Numeral.isDigit_of_mem_natChars mem)

theorem isNumberChar_of_mem_fractionChars {fraction : List Digit} {c : Char}
    (mem : c ∈ fractionChars fraction) : isNumberChar c = true := by
  cases fraction with
  | nil => exact absurd mem List.not_mem_nil
  | cons d ds =>
    rcases List.mem_cons.mp mem with rfl | digit
    · rfl
    · obtain ⟨d, _, rfl⟩ := List.mem_map.mp digit
      exact isNumberChar_of_isDigit d.isDigit_toChar

theorem isNumberChar_of_mem_powerChars {exponent : Option Int} {c : Char}
    (mem : c ∈ powerChars exponent) : isNumberChar c = true := by
  cases exponent with
  | none => exact absurd mem List.not_mem_nil
  | some e =>
    rw [powerChars_some] at mem
    rcases List.mem_cons.mp mem with rfl | mem
    · rfl
    rcases List.mem_cons.mp mem with rfl | mem
    · split <;> rfl
    · exact isNumberChar_of_mem_natChars mem

theorem isNumberChar_of_mem_chars {n : Numeral} {c : Char} (mem : c ∈ n.chars true) :
    isNumberChar c = true := by
  rw [chars_eq] at mem
  rcases List.mem_append.mp mem with sign | mem
  · split at sign
    · rw [List.mem_singleton.mp sign]
      rfl
    · exact absurd sign List.not_mem_nil
  rcases List.mem_append.mp mem with whole | mem
  · exact isNumberChar_of_mem_natChars whole
  rcases List.mem_append.mp mem with fraction | power
  · exact isNumberChar_of_mem_fractionChars fraction
  · exact isNumberChar_of_mem_powerChars power

end Json

end LinearProgram
