import LinearProgram.Proofs.Course

/-!
# A larger budget

Two runs of one problem that differ only in their budgets record the same until
the smaller budget is spent.  If it is never spent, they are the same run.  If
it is, the larger budget goes on from the tableau in which the smaller one
stopped.  The budget is shared by two loops and looked at once more after each,
so the statement is about whole trails: `Trail.CutShort` relates the trail of
the smaller budget to that of the larger one, and every part of a run keeps it.
-/

namespace LinearProgram

variable {α : Type}

/-- The first trail is the second one unless it has spent its budget, and then the second one
begins with all that it recorded. -/
structure Trail.CutShort (budget : Nat) (t u : Trail α) : Prop where
  same : t.verdict ≠ .limitReached → u = t
  spent : t.verdict = .limitReached → t.iterations = budget ∧ t.moments <+: u.moments

namespace Trail.CutShort

variable {budget : Nat} {t u : Trail α}

theorem refl (finished : t.verdict ≠ .limitReached) : CutShort budget t t :=
  ⟨fun _ => rfl, fun limit => absurd limit finished⟩

theorem after (cut : CutShort budget t u) (ms : List (Moment α)) :
    CutShort budget (t.after ms) (u.after ms) := by
  constructor
  · intro finished
    rw [cut.same finished]
  · intro limit
    obtain ⟨count, pre⟩ := cut.spent limit
    exact ⟨count, (List.prefix_append_right_inj ms).mpr pre⟩

end Trail.CutShort

variable [Scalar α]

/-! ## One loop -/

namespace Tableau

variable {stage : Stage} {t : Tableau α} {c : Nat}

theorem improve_of_none (none_enters : t.enteringColumn (stage == .first) = none)
    (budget n : Nat) : t.improve stage budget n = ⟨[], t, n, stage, .optimal⟩ := by
  cases budget <;> simp [improve, none_enters]

theorem improve_succ_of_none (entering : t.enteringColumn (stage == .first) = some c)
    (none_leaves : t.leavingRow c = none) (budget n : Nat) :
    t.improve stage (budget + 1) n = ⟨[], t, n, stage, .unbounded c⟩ := by
  simp [improve, entering, none_leaves]

theorem improve_succ_of_some {i : Nat} (entering : t.enteringColumn (stage == .first) = some c)
    (leaving : t.leavingRow c = some i) (budget n : Nat) :
    t.improve stage (budget + 1) n = ((t.pivot i c).improve stage budget (n + 1)).after
      [⟨.pivot stage (t.pivotAt (n + 1) i c), t⟩] := by
  simp [improve, entering, leaving]

/-- The induction is on the smaller budget: at zero it is spent or not needed, and above zero both
loops take the same step. -/
theorem cutShort_improve (stage : Stage) (budget extra n : Nat) (t : Tableau α) :
    Trail.CutShort (n + budget) (t.improve stage budget n)
      (t.improve stage (budget + extra) n) := by
  induction budget generalizing n t with
  | zero =>
    cases entering : t.enteringColumn (stage == .first) with
    | none =>
      rw [improve_of_none entering, improve_of_none entering]
      exact .refl nofun
    | some c =>
      have stopped : t.improve stage 0 n = ⟨[], t, n, stage, .limitReached⟩ := by
        simp [improve, entering]
      rw [stopped]
      exact ⟨fun finished => absurd rfl finished, fun _ => ⟨rfl, List.nil_prefix⟩⟩
  | succ budget ih =>
    rw [Nat.add_right_comm budget 1 extra]
    cases entering : t.enteringColumn (stage == .first) with
    | none =>
      rw [improve_of_none entering, improve_of_none entering]
      exact .refl nofun
    | some c =>
      cases leaving : t.leavingRow c with
      | none =>
        rw [improve_succ_of_none entering leaving, improve_succ_of_none entering leaving]
        exact .refl nofun
      | some i =>
        rw [improve_succ_of_some entering leaving, improve_succ_of_some entering leaving,
          Nat.add_comm budget 1, ← Nat.add_assoc]
        exact (ih (n + 1) (t.pivot i c)).after _

end Tableau

/-! ## A whole run -/

namespace Solver

/-- The settings with so much more budget. -/
def extend (s : Solver α) (extra : Nat) : Solver α :=
  { s with maxIterations := s.maxIterations + extra }

variable (s : Solver α) (extra : Nat) (t : Tableau α)

theorem cutShort_secondPhase (costs : List α) {n : Nat} (within : n ≤ s.maxIterations) :
    Trail.CutShort s.maxIterations (s.secondPhase costs n t)
      ((s.extend extra).secondPhase costs n t) := by
  have spent : n + (s.maxIterations - n) = s.maxIterations := by omega
  have more : (s.extend extra).maxIterations - n = s.maxIterations - n + extra := by
    show s.maxIterations + extra - n = _
    omega
  have loop := Tableau.cutShort_improve .second (s.maxIterations - n) extra n
    ((t.driveOut s.tolerance n (List.range t.constraintCount)).2.loadObjective costs)
  rw [spent, ← more] at loop
  exact loop.after _

theorem cutShort_firstPhase :
    Trail.CutShort s.maxIterations (s.firstPhase t) ((s.extend extra).firstPhase t) := by
  have loop := Tableau.cutShort_improve .first s.maxIterations extra 0 t.priceArtificials
  rwa [Nat.zero_add] at loop

/-- Whatever comes after it, a run with artificial variables records the first phase. -/
theorem firstPhase_prefix_bothPhases :
    ⟨.priceArtificials, t.priceArtificials⟩ :: (s.firstPhase t).moments <+:
      (s.bothPhases t).moments := by
  rcases s.bothPhases_cases t with ⟨_, eq⟩ | ⟨_, _, eq⟩ | ⟨_, _, eq⟩
  · rw [eq]
    exact List.prefix_rfl
  · rw [eq]
    exact List.prefix_rfl
  · rw [eq]
    exact List.prefix_append (_ :: (s.firstPhase t).moments) _

theorem cutShort_bothPhases :
    Trail.CutShort s.maxIterations (s.bothPhases t) ((s.extend extra).bothPhases t) := by
  have first := s.cutShort_firstPhase extra t
  have longer := (s.extend extra).bothPhases_cases t
  rcases s.bothPhases_cases t with ⟨limit, eq⟩ | ⟨finished, above, eq⟩ | ⟨finished, within, eq⟩
  · obtain ⟨count, pre⟩ := first.spent limit
    rw [eq]
    refine ⟨fun finished => absurd limit finished, fun _ => ⟨count, ?_⟩⟩
    exact ((List.prefix_cons_inj _).mpr pre).trans
      ((s.extend extra).firstPhase_prefix_bothPhases t)
  · rw [residual, first.same finished] at longer
    rcases longer with ⟨limit, _⟩ | ⟨_, _, longer_eq⟩ | ⟨_, within, _⟩
    · exact absurd limit finished
    · rw [eq, longer_eq]
      exact .refl nofun
    · exact absurd above within
  · rw [residual, first.same finished] at longer
    rcases longer with ⟨limit, _⟩ | ⟨_, above, _⟩ | ⟨_, _, longer_eq⟩
    · exact absurd limit finished
    · exact absurd above within
    · rw [eq, longer_eq]
      exact ((s.cutShort_secondPhase extra _ _ (s.iterations_firstPhase_le t)).after _).after _

theorem cutShort_trail :
    Trail.CutShort s.maxIterations (s.trail t) ((s.extend extra).trail t) := by
  unfold trail
  refine Trail.CutShort.after ?_ _
  split
  · have loop := Tableau.cutShort_improve .only s.maxIterations extra 0 t
    rwa [Nat.zero_add] at loop
  · exact s.cutShort_bothPhases extra t

/-- Where the smaller budget stops, the larger one passes by with the same rows. -/
theorem rows_at_stop (p : Problem α) (limit : (s.trail t).verdict = .limitReached) :
    ∃ m, ((s.extend extra).moments p t)[(s.trail t).moments.length]? = some m ∧
      m.tableau.layout = (s.trail t).tableau.layout ∧
      m.tableau.rows = (s.trail t).tableau.rows := by
  obtain ⟨_, rest, moments_eq⟩ := (s.cutShort_trail extra t).spent limit
  have course := (s.extend extra).course_moments p t
  rw [Solver.moments, ← moments_eq, List.append_assoc] at course ⊢
  obtain ⟨b, before, after⟩ := Course.append_iff.mp course
  have same : b.tableau = (s.trail t).tableau := before.unique (s.course_trail t)
  rw [List.getElem?_append_right le_rfl, Nat.sub_self]
  -- At the least, the end of the larger run is still to be recorded.
  generalize eq : rest ++ _ = later at after ⊢
  cases after with
  | nil => exact absurd eq (by simp)
  | cons step _ =>
    refine ⟨_, rfl, ?_⟩
    rw [step.tableau_eq, same]
    simp

/-- A run that does not run out of budget does not depend on it.  A run that does has chosen as
many pivots as the budget allows, and a larger budget records the same steps up to the last one,
and there the same rows. -/
theorem solve_budget_mono {p : Problem α} (valid : p.validate s.twoPhase = .ok ()) {larger : Nat}
    (le : s.maxIterations ≤ larger) :
    ∃ short long, s.solve p = .ok short ∧
      { s with maxIterations := larger }.solve p = .ok long ∧
      (short.solution.status ≠ .iterationLimitReached → long = short) ∧
      (short.solution.status = .iterationLimitReached →
        short.solution.iterations = s.maxIterations ∧
        short.steps.dropLast <+: long.steps ∧
        ∃ stop passing, short.steps.getLast? = some stop ∧
          long.steps[short.steps.length - 1]? = some passing ∧
          passing.tableau.layout = stop.tableau.layout ∧
          passing.tableau.rows = stop.tableau.rows) := by
  obtain ⟨extra, rfl⟩ := Nat.exists_eq_add_of_le le
  have cut := s.cutShort_trail extra (Tableau.ofProblem p)
  refine ⟨_, _, s.solve_of_validate valid, (s.extend extra).solve_of_validate valid,
    fun status => ?_, fun status => ?_⟩
  · have finished : (s.trail (Tableau.ofProblem p)).verdict ≠ .limitReached := by
      intro limit
      exact status (congrArg Verdict.status limit)
    rw [cut.same finished]
    rfl
  · have limit : (s.trail (Tableau.ofProblem p)).verdict = .limitReached :=
      Verdict.eq_limitReached_of_status status
    obtain ⟨count, rest, moments_eq⟩ := cut.spent limit
    obtain ⟨m, at_stop, layout, rows⟩ := s.rows_at_stop extra (Tableau.ofProblem p) p limit
    rw [report_steps, report_steps, Step.length_ofMoments, Step.getElem?_ofMoments, moments,
      Step.ofMoments_concat, List.dropLast_concat, List.getLast?_concat, List.length_append,
      List.length_singleton, Nat.add_sub_cancel, at_stop]
    refine ⟨count, ?_, _, _, rfl, rfl, layout, rows⟩
    rw [moments, ← moments_eq, List.append_assoc]
    exact Step.ofMoments_prefix _ _

/-- A lower and an upper bound, which take one pivot in each phase. -/
def interval : Problem Rat :=
  { names := ["x1"]
    objective := ⟨[1], .maximize⟩
    constraints := [⟨"floor", [1], .ge, 1⟩, ⟨"cap", [1], .le, 4⟩] }

theorem solve_budget_mono_interval :
    ∃ short long, (Solver.mk 1 0 true).solve interval = .ok short ∧
      (Solver.mk 10 0 true).solve interval = .ok long ∧
      short.solution.status = .iterationLimitReached ∧ long.solution.status = .optimal ∧
      short.solution.iterations = 1 ∧ short.steps.dropLast <+: long.steps ∧
      short.steps.length = 5 := by
  obtain ⟨short, long, short_solved, long_solved, _, spent⟩ :=
    solve_budget_mono (Solver.mk 1 0 true) (p := interval) rfl (by decide : 1 ≤ 10)
  have limit : short.solution.status = .iterationLimitReached :=
    status_of_solve short_solved (by decide +kernel)
  obtain ⟨count, pre, _⟩ := spent limit
  exact ⟨short, long, short_solved, long_solved, limit,
    status_of_solve long_solved (by decide +kernel), count, pre,
    eq_of_solve (·.steps.length) short_solved (by decide +kernel)⟩

end Solver

end LinearProgram
