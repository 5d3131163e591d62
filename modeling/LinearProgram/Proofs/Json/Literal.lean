import Mathlib.Tactic.IntervalCases
import LinearProgram.Json.Token
import LinearProgram.Json.Writer

/-!
# String literals are read back

Every character is written in its own way, whatever stands around it: as itself,
with a one-letter escape, or with a numeric escape of four digits.  The scanner
turns each way into one unit of the literal.  A numeric escape is written for
control characters only, so it never is half of a surrogate pair, and the units
denote the characters that were written.

* `foldlM_step_writeString`: scanning a literal adds its token and nothing else.
-/

namespace LinearProgram.Json

/-! ## Machines that read one thing after the other -/

section Machine

variable {State Input : Type} {step : State → Input → Option State} {s s' : State}

theorem foldlM_cons_of_step {x : Input} (read : step s x = some s') (xs : List Input) :
    (x :: xs).foldlM step s = xs.foldlM step s' := by
  rw [List.foldlM_cons, read]
  rfl

theorem foldlM_append_of_foldlM {xs : List Input} (read : xs.foldlM step s = some s')
    (ys : List Input) : (xs ++ ys).foldlM step s = ys.foldlM step s' := by
  rw [List.foldlM_append, read]
  rfl

end Machine

/-! ## Units -/

/-- The unit as which a character is read: control characters without an escape of one letter are
written as a number. -/
def unitOf (c : Char) : Unit16 :=
  if c.toNat < 0x20 ∧ c ∉ ['\x08', '\x0c', '\n', '\r', '\t'] then .code c.toNat else .char c

theorem charsOfUnits?_code {n : Nat} (control : n < 0x20) (rest : List Unit16) :
    charsOfUnits? (.code n :: rest) = (charsOfUnits? rest).map (Char.ofNat n :: ·) := by
  have high : isHighSurrogate n = false := by simp [isHighSurrogate]; omega
  have low : isLowSurrogate n = false := by simp [isLowSurrogate]; omega
  cases rest with
  | nil => simp [charsOfUnits?, high, low]
  | cons u rest => cases u <;> simp [charsOfUnits?, high, low]

theorem charsOfUnits?_unitOf (c : Char) (rest : List Unit16) :
    charsOfUnits? (unitOf c :: rest) = (charsOfUnits? rest).map (c :: ·) := by
  unfold unitOf
  split
  · next control => rw [charsOfUnits?_code control.1, Char.ofNat_toNat]
  · rw [charsOfUnits?]

theorem charsOfUnits?_map_unitOf (cs : List Char) :
    charsOfUnits? (cs.map unitOf) = some cs := by
  induction cs with
  | nil => rfl
  | cons c cs ih =>
    rw [List.map_cons, charsOfUnits?_unitOf, ih]
    rfl

/-! ## Scanning -/

theorem eq_ofNat_of_control {c : Char} (control : c.toNat < 0x20) :
    ∃ n < 0x20, c = Char.ofNat n :=
  ⟨c.toNat, control, c.ofNat_toNat.symm⟩

/-- Each character is read as one unit. -/
theorem foldlM_step_escape (tokens : List Token) (units : List Unit16) (c : Char) :
    (escape c).foldlM Scanner.step ⟨tokens, .string units⟩ =
      some ⟨tokens, .string (unitOf c :: units)⟩ := by
  by_cases control : c.toNat < 0x20
  · obtain ⟨n, bound, rfl⟩ := eq_ofNat_of_control control
    interval_cases n <;> rfl
  · have unit : unitOf c = .char c := if_neg fun both => control both.1
    rw [unit]
    by_cases quote : c = '"'
    · subst quote
      rfl
    by_cases backslash : c = '\\'
    · subst backslash
      rfl
    have plain : escape c = [c] := by
      have other : ∀ d : Char, d.toNat < 0x20 → c ≠ d := by
        rintro d small rfl
        exact control small
      simp only [escape, if_neg quote, if_neg backslash, if_neg control,
        if_neg (other '\x08' (by decide)), if_neg (other '\x0c' (by decide)),
        if_neg (other '\n' (by decide)), if_neg (other '\r' (by decide)),
        if_neg (other '\t' (by decide))]
    rw [plain]
    simp [Scanner.step, quote, backslash, control]

theorem foldlM_step_writeChars (tokens : List Token) (cs : List Char) (units : List Unit16)
    (after : List Char) :
    (writeChars cs after).foldlM Scanner.step ⟨tokens, .string units⟩ =
      ('"' :: after).foldlM Scanner.step ⟨tokens, .string ((cs.map unitOf).reverse ++ units)⟩ := by
  induction cs generalizing units with
  | nil => rfl
  | cons c cs ih =>
    rw [writeChars, foldlM_append_of_foldlM (foldlM_step_escape tokens units c), ih, List.map_cons,
      List.reverse_cons, List.append_assoc, List.singleton_append]

/-- A literal is scanned as its token. -/
theorem foldlM_step_writeString (tokens : List Token) (s : Option String) (after : List Char) :
    (writeString s after).foldlM Scanner.step ⟨tokens, .nothing⟩ =
      after.foldlM Scanner.step ⟨.string s :: tokens, .nothing⟩ := by
  cases s with
  | none => rfl
  | some s =>
    have opened : Scanner.step ⟨tokens, .nothing⟩ '"' = some ⟨tokens, .string []⟩ := rfl
    have closed : Scanner.step ⟨tokens, .string (s.toList.map unitOf).reverse⟩ '"' =
        some ⟨.string (some s) :: tokens, .nothing⟩ := by
      simp [Scanner.step, charsOfUnits?_map_unitOf]
    rw [writeString, foldlM_cons_of_step opened, foldlM_step_writeChars, List.append_nil,
      foldlM_cons_of_step closed]

end LinearProgram.Json
