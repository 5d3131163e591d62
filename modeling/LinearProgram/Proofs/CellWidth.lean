import Mathlib.Data.Nat.Digits.Defs
import LinearProgram.Proofs.Course
import LinearProgram.Proofs.Table
import LinearProgram.Report.Print

/-!
# Which reports are printed to the end

The cells of a step's table are the labels of its columns and the values of its
entries.  A value is shown with two places, and since floating-point values are
bounded, so is the number of its characters, far below what a column can hold.  So
only a label can be too long, and since all steps of a report have the same columns,
either all of their tables are rendered or none is.

* `length_displayValue_le`: how long the text of a value is at most.
* `Step.exists_table?_iff`: the table of a step.
* `Solver.finished_printed_iff`: a whole report.
-/

namespace LinearProgram

/-! ## Texts of values -/

/-- The parts of a finite value are bounded. -/
theorem Binary.lt_of_ofBits {bits : UInt64} {negative : Bool} {mantissa : Nat} {exponent : Int}
    (finite : Binary.ofBits bits = .finite negative mantissa exponent) :
    mantissa < twoTo 53 ∧ exponent ≤ 971 := by
  have small : bits.toNat % twoTo 52 < twoTo 52 := Nat.mod_lt _ (Nat.two_pow_pos 52)
  have limited : bits.toNat / twoTo 52 % twoTo 11 < twoTo 11 := Nat.mod_lt _ (Nat.two_pow_pos 11)
  have eleven : twoTo 11 = 2048 := rfl
  have double : twoTo 53 = twoTo 52 * 2 := Nat.pow_succ 2 52
  unfold ofBits leastMantissa leastExponent at finite
  dsimp only at finite
  split_ifs at finite with top zero bottom
  · cases finite
    omega
  · cases finite
    omega

theorem mul_two_pow_lt {m e a b : Nat} (small : m < 2 ^ a) (bounded : e ≤ b) :
    m * 2 ^ e < 2 ^ (a + b) :=
  calc m * 2 ^ e ≤ m * 2 ^ b := Nat.mul_le_mul_left m (Nat.pow_le_pow_right (by decide) bounded)
    _ < 2 ^ a * 2 ^ b := Nat.mul_lt_mul_of_pos_right small (Nat.two_pow_pos b)
    _ = 2 ^ (a + b) := (Nat.pow_add 2 a b).symm

/-- Two binary digits are less than a decimal one, and two places take two more of these. -/
theorem lt_ten_pow {x units n : Nat} (scaled : x < 2 ^ (2 * n)) (rounded : units ≤ x * 100 + 1) :
    units < 10 ^ (n + 2) := by
  have four : 2 ^ (2 * n) ≤ 10 ^ n :=
    calc 2 ^ (2 * n) = (2 ^ 2) ^ n := Nat.pow_mul 2 2 n
      _ ≤ 10 ^ n := Nat.pow_le_pow_left (by decide) n
  have hundred : 10 ^ (n + 2) = 10 ^ n * 100 := Nat.pow_add 10 n 2
  omega

theorem Numeral.length_natChars_le {n k : Nat} (pos : 0 < k) (below : n < 10 ^ k) :
    (natChars n).length ≤ k :=
  Nat.toDigits_length 10 n k pos below

theorem Digit.length_lastDigits (count n : Nat) (after : List Digit) :
    (lastDigits count n after).length = count + after.length := by
  induction count generalizing n after with
  | zero => rw [lastDigits, Nat.zero_add]
  | succ count ih =>
    rw [lastDigits, ih, List.length_cons]
    omega

/-- A number in units of a power of one tenth: a sign, the digits before the point, the point and the
places. -/
theorem Numeral.length_text_ofUnits_le (negative : Bool) {places units k : Nat} (pos : 0 < k)
    (below : units < 10 ^ k) :
    ((Numeral.ofUnits negative places units).text false).length ≤ 1 + k + (1 + places) := by
  have sign : (if negative then ['-'] else []).length ≤ 1 := by cases negative <;> decide
  have whole : (natChars (units / tenTo places)).length ≤ k :=
    length_natChars_le pos ((Nat.div_le_self _ _).trans_lt below)
  have fraction : ∀ ds : List Digit,
      (if ds.isEmpty then [] else '.' :: ds.map Digit.toChar).length ≤ 1 + ds.length := by
    intro ds
    cases ds with
    | nil => exact Nat.zero_le _
    | cons d ds => simp [Nat.add_comm]
  have places_eq := Digit.length_lastDigits places units []
  have behind := fraction (Digit.lastDigits places units [])
  rw [text, ← String.length_toList, String.toList_ofList]
  unfold chars ofUnits
  simp only [List.length_append, Option.map_none, Option.getD_none, List.length_nil] at places_eq ⊢
  omega

theorem roundToEven_le (num den : Nat) : roundToEven num den ≤ num + 1 := by
  have quotient : num / den ≤ num := Nat.div_le_self _ _
  unfold roundToEven
  dsimp only
  split <;> omega

/-- The largest value has 309 digits before the point; this bound is easier to come by. -/
theorem length_fixedText_le (x : Float) : (fixedText 2 x).length ≤ 518 := by
  unfold fixedText
  cases value : Binary.ofFloat x with
  | undefined => decide
  | infinite negative => cases negative <;> decide
  | finite negative mantissa exponent =>
    obtain ⟨small, bounded⟩ := Binary.lt_of_ofBits value
    have scaled : mantissa * Binary.twoTo exponent.toNat < 2 ^ (53 + 971) :=
      mul_two_pow_lt small (by omega)
    rw [show 53 + 971 = 2 * 512 from rfl] at scaled
    have rounded := roundToEven_le (mantissa * Binary.twoTo exponent.toNat * Numeral.tenTo 2)
      (Binary.twoTo (-exponent).toNat)
    exact Numeral.length_text_ofUnits_le negative (by decide) (lt_ten_pow scaled rounded)

theorem length_displayValue_le (x : Float) : (displayValue x).length ≤ 518 := by
  unfold displayValue
  split
  · next negative _ => cases negative <;> decide
  · split
    · decide
    · exact length_fixedText_le x

/-! ## Tables of steps -/

namespace Step

/-- A label that fits does so also below the name of the column. -/
theorem length_basisNames_le {s : Step Float}
    (short : ∀ label ∈ s.tableau.layout.labels, label.length ≤ Table.widthLimit) :
    ∀ name ∈ s.tableau.basisNames, name.length ≤ Table.widthLimit := by
  intro name mem
  rcases List.mem_append.mp mem with basic | last
  · obtain ⟨r, -, rfl⟩ := List.mem_map.mp basic
    rw [Layout.label, List.getD_eq_getElem?_getD]
    cases at_basic : s.tableau.layout.labels[r.basic]? with
    | none => exact Nat.zero_le _
    | some label => exact short label (List.mem_of_getElem? at_basic)
  · rw [List.mem_singleton.mp last]
    decide

/-- Values are never too long for a table, so it is rendered exactly if its labels are short. -/
theorem fits_cells_iff (s : Step Float) : Table.Fits s.cells ↔
    ∀ label ∈ s.tableau.layout.labels, label.length ≤ Table.widthLimit := by
  constructor
  · intro fits label mem
    exact fits _ List.mem_cons_self label (List.mem_cons_of_mem _ mem)
  · intro short row row_mem cell cell_mem
    rcases List.mem_cons.mp row_mem with rfl | below
    · rcases List.mem_cons.mp cell_mem with rfl | label
      · decide
      · exact short cell label
    · rw [← List.map_uncurry_zip_eq_zipWith] at below
      obtain ⟨⟨name, entries⟩, pair, rfl⟩ := List.mem_map.mp below
      rcases List.mem_cons.mp cell_mem with rfl | value
      · exact length_basisNames_le short cell (List.of_mem_zip pair).1
      · obtain ⟨x, -, rfl⟩ := List.mem_map.mp value
        exact (length_displayValue_le x).trans (by decide)

theorem exists_table?_iff (s : Step Float) : (∃ text, s.table? = some text) ↔
    ∀ label ∈ s.tableau.layout.labels, label.length ≤ Table.widthLimit :=
  (Table.exists_render?_iff s.cells).trans s.fits_cells_iff

end Step

/-! ## Reports -/

namespace Printout

theorem finished_andThen_iff (first next : Printout) :
    (first.andThen next).finished = true ↔ first.finished = true ∧ next.finished = true := by
  unfold andThen
  cases ended : first.finished with
  | false => simp [ended]
  | true => simp

theorem finished_join_iff (parts : List Printout) :
    (join parts).finished = true ↔ ∀ part ∈ parts, part.finished = true := by
  induction parts with
  | nil => exact iff_of_true rfl nofun
  | cons part rest ih =>
    rw [List.forall_mem_cons, ← ih]
    exact finished_andThen_iff part (join rest)

end Printout

theorem Step.finished_printed_iff (s : Step Float) :
    s.printed.finished = true ↔ ∃ text, s.table? = some text := by
  unfold printed
  cases s.table? with
  | none => simp
  | some text => simp [Printout.ofText]

theorem Report.finished_printedText_iff (names : List String) (withSteps : Bool)
    (r : Report Float) : (r.printedText names withSteps).finished = true ↔
      withSteps = false ∨ ∀ s ∈ r.steps, ∃ text, s.table? = some text := by
  unfold printedText
  rw [Printout.finished_andThen_iff, Printout.finished_join_iff]
  cases withSteps with
  | false => simp [Printout.ofText]
  | true => simp [Printout.ofText, Step.finished_printed_iff]

namespace Solver

/-- A report is printed to the end unless its steps are to be shown as tables and a column has a
label that is too long for one. -/
theorem finished_printed_iff (s : Solver Float) (p : Problem Float) (format : OutputFormat)
    (names : List String) (withSteps : Bool) :
    ((s.report p (s.trail (Tableau.ofProblem p))).printed format names withSteps).finished = true ↔
      ¬ (withSteps = true ∧ format = .pretty ∧
        ∃ label ∈ p.layout.labels, Table.widthLimit < label.length) := by
  have tables : (∀ x ∈ (s.report p (s.trail (Tableau.ofProblem p))).steps,
      ∃ text, x.table? = some text) ↔
      ∀ label ∈ p.layout.labels, label.length ≤ Table.widthLimit := by
    constructor
    · intro rendered
      have first := List.mem_of_head? (s.head_steps_report p (Tableau.ofProblem p))
      exact (Step.exists_table?_iff _).mp (rendered _ first)
    · intro short x mem
      rw [x.exists_table?_iff, s.layout_of_mem_steps p mem]
      exact short
  cases format with
  | json => simp [Report.printed, Printout.ofText]
  | pretty =>
    rw [Report.printed, Report.finished_printedText_iff, tables]
    simp [imp_iff_not_or]

end Solver

end LinearProgram
