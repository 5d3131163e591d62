import LinearProgram.Proofs.Reach
import LinearProgram.Proofs.Shape

/-!
# The course of a run

`Proofs/Reach.lean` says which tableaux one loop reaches and forgets what is
recorded on the way.  This module keeps the record: a configuration is how far a
run has got, its tableau and its count of pivots; `Transition` is one recorded
moment, with exactly the conditions under which a run records it; `Course` is
any number of them in a row.

* `Solver.course_moments`: what a report records is a course from the starting
  tableau to the end.
* `Course.append_iff` and `Course.forall_mem`: a course can be cut anywhere, and
  what every transition keeps holds at every moment.
* `Transition.tableau_eq` and `Transition.outcome_eq`: the recorded tableau
  follows from the one before it, and the next one from the record.
* `Course.unique`: a course is determined by where it starts and what it records.
* `Solver.course_between`: two steps of a report as parts of its course.
-/

namespace LinearProgram

/-- How far a run has got. -/
inductive Control : Type where
  /-- Nothing is recorded. -/
  | opening
  /-- The starting tableau is recorded, and its artificial variables wait to be priced. -/
  | pricing
  | improving (stage : Stage)
  /-- Between the phases, with the rows that still have to be looked at. -/
  | exchanging (rows : List Nat)
  | finished

structure Configuration (α : Type) : Type where
  control : Control
  tableau : Tableau α
  iterations : Nat

variable {α : Type}

/-! ## Numbered moments -/

namespace Step

variable (ms ns : List (Moment α))

@[simp] theorem length_ofMoments : (ofMoments ms).length = ms.length :=
  List.length_mapIdx

theorem getElem?_ofMoments (k : Nat) :
    (ofMoments ms)[k]? = ms[k]?.map fun m => ⟨k + 1, m.event, m.tableau⟩ :=
  List.getElem?_mapIdx

theorem mem_ofMoments {x : Step α} (mem : x ∈ ofMoments ms) :
    ∃ k m, ms[k]? = some m ∧ x = ⟨k + 1, m.event, m.tableau⟩ := by
  obtain ⟨k, at_k⟩ := List.mem_iff_getElem?.mp mem
  rw [getElem?_ofMoments] at at_k
  obtain ⟨m, m_at, rfl⟩ := Option.map_eq_some_iff.mp at_k
  exact ⟨k, m, m_at, rfl⟩

theorem map_event_ofMoments : (ofMoments ms).map Step.event = ms.map Moment.event := by
  refine List.ext_getElem? fun k => ?_
  simp only [List.getElem?_map, getElem?_ofMoments, Option.map_map]
  rfl

theorem ofMoments_concat (m : Moment α) :
    ofMoments (ms ++ [m]) = ofMoments ms ++ [⟨ms.length + 1, m.event, m.tableau⟩] :=
  List.mapIdx_concat

/-- Numbers do not depend on what comes later. -/
theorem ofMoments_prefix : ofMoments ms <+: ofMoments (ms ++ ns) := by
  unfold ofMoments
  rw [List.mapIdx_append]
  exact List.prefix_append _ _

end Step

variable [Scalar α]

/-! ## What an event does -/

namespace Event

/-- The tableau in which an event happens, from the one before it and the problem's own costs. -/
def setup (costs : List α) : Event α → Tableau α → Tableau α
  | priceArtificials, t => t.priceArtificials
  | restoreObjective, t => t.loadObjective costs
  | _, t => t

/-- The tableau after an event, from the one in which it happens. -/
def outcome : Event α → Tableau α → Tableau α
  | pivot _ p, t => t.pivot p.row p.column
  | driveOut p, t => (t.clearRhs p.row).pivot p.row p.column
  | _, t => t

/-- Whether the two rules chose the event, which counts against the budget. -/
def isChosen : Event α → Bool
  | pivot .. => true
  | _ => false

@[simp] theorem setup_layout (costs : List α) (e : Event α) (t : Tableau α) :
    (e.setup costs t).layout = t.layout := by
  cases e <;> rfl

@[simp] theorem setup_rows (costs : List α) (e : Event α) (t : Tableau α) :
    (e.setup costs t).rows = t.rows := by
  cases e <;> rfl

@[simp] theorem outcome_layout (e : Event α) (t : Tableau α) :
    (e.outcome t).layout = t.layout := by
  cases e <;> simp [outcome]

end Event

/-! ## Transitions -/

/-- No column can enter, or no row can leave for the one that does. -/
def Tableau.Stopped (withArtificials : Bool) (t : Tableau α) : Prop :=
  ∀ c, t.enteringColumn withArtificials = some c → t.leavingRow c = none

/-- Where a run goes from its starting tableau. -/
def Tableau.opened (t : Tableau α) : Control :=
  if t.layout.artificials = 0 then .improving .only else .pricing

/-- The rows that driving out has still to look at.  It begins with all of them, when the loop of
the first phase has stopped within the threshold, and passes by those without a column. -/
inductive Pending (s : Solver α) (start : Tableau α) : Control → Tableau α → List Nat → Prop
  | handOver {t : Tableau α} :
    t.Stopped true → ¬ s.tolerance * start.rhsScale < -t.objective.rhs →
    Pending s start (.improving .first) t (List.range t.constraintCount)
  | rest {t : Tableau α} {rows : List Nat} : Pending s start (.exchanging rows) t rows
  | skip {control : Control} {t : Tableau α} {i : Nat} {rows : List Nat} :
    Pending s start control t (i :: rows) → t.driveOutColumn s.tolerance i = none →
    Pending s start control t rows

/-- One recorded moment of a run from a starting tableau. -/
inductive Transition (s : Solver α) (start : Tableau α) :
    Configuration α → Moment α → Configuration α → Prop
  | start {t : Tableau α} {n : Nat} :
    Transition s start ⟨.opening, t, n⟩ ⟨.start, t⟩ ⟨t.opened, t, n⟩
  | priceArtificials {t : Tableau α} {n : Nat} :
    Transition s start ⟨.pricing, t, n⟩ ⟨.priceArtificials, t.priceArtificials⟩
      ⟨.improving .first, t.priceArtificials, n⟩
  | pivot {stage : Stage} {t : Tableau α} {n c i : Nat} :
    n < s.maxIterations → t.enteringColumn (stage == .first) = some c →
    t.leavingRow c = some i →
    Transition s start ⟨.improving stage, t, n⟩ ⟨.pivot stage (t.pivotAt (n + 1) i c), t⟩
      ⟨.improving stage, t.pivot i c, n + 1⟩
  | driveOut {control : Control} {t : Tableau α} {n c i : Nat} {rows : List Nat} :
    Pending s start control t (i :: rows) → t.driveOutColumn s.tolerance i = some c →
    Transition s start ⟨control, t, n⟩ ⟨.driveOut (t.pivotAt n i c), t⟩
      ⟨.exchanging rows, (t.clearRhs i).pivot i c, n⟩
  | restoreObjective {control : Control} {t : Tableau α} {n : Nat} :
    Pending s start control t [] →
    Transition s start ⟨control, t, n⟩
      ⟨.restoreObjective, t.loadObjective start.objective.cells⟩
      ⟨.improving .second, t.loadObjective start.objective.cells, n⟩
  | finish {stage : Stage} {t : Tableau α} {n : Nat} {v : Verdict α} {x : Solution α} :
    Transition s start ⟨.improving stage, t, n⟩ ⟨.finish v x, t⟩ ⟨.finished, t, n⟩

/-- Any number of recorded moments. -/
inductive Course (s : Solver α) (start : Tableau α) :
    Configuration α → List (Moment α) → Configuration α → Prop
  | nil {a : Configuration α} : Course s start a [] a
  | cons {a b c : Configuration α} {m : Moment α} {ms : List (Moment α)} :
    Transition s start a m b → Course s start b ms c → Course s start a (m :: ms) c

variable {s : Solver α} {start : Tableau α} {a b c d : Configuration α} {m : Moment α}
  {ms ns : List (Moment α)}

theorem Pending.control_eq {control : Control} {t : Tableau α} {rows : List Nat}
    (pending : Pending s start control t rows) :
    control = .improving .first ∨ ∃ left, control = .exchanging left := by
  induction pending with
  | handOver => exact Or.inl rfl
  | rest => exact Or.inr ⟨_, rfl⟩
  | skip _ _ ih => exact ih

namespace Transition

/-- The recorded tableau is the one before, made ready for the event. -/
theorem tableau_eq (step : Transition s start a m b) :
    m.tableau = m.event.setup start.objective.cells a.tableau := by
  cases step <;> rfl

/-- The tableau after a moment is the recorded one with the event carried out. -/
theorem outcome_eq (step : Transition s start a m b) : b.tableau = m.event.outcome m.tableau := by
  cases step <;> rfl

theorem iterations_eq (step : Transition s start a m b) :
    b.iterations = a.iterations + if m.event.isChosen then 1 else 0 := by
  cases step <;> rfl

/-- A pivot is numbered by the chosen pivots so far, itself included. -/
theorem pivot_iteration (step : Transition s start a m b) {p : Pivot α}
    (pivot : m.event.pivot? = some p) : p.iteration = b.iterations := by
  cases step with
  | pivot => cases pivot; rfl
  | driveOut => cases pivot; rfl
  | start | priceArtificials | restoreObjective | finish => cases pivot

/-- After a pivot, the artificial variables are not priced any more. -/
theorem not_pricing (step : Transition s start a m b) {p : Pivot α}
    (pivot : m.event.pivot? = some p) : b.control ≠ .pricing := by
  cases step with
  | pivot => nofun
  | driveOut => nofun
  | start | priceArtificials | restoreObjective | finish => cases pivot

theorem pricing (step : Transition s start a m b) (event : m.event = .priceArtificials) :
    a.control = .pricing := by
  cases step with
  | priceArtificials => rfl
  | start | pivot | driveOut | restoreObjective | finish => cases event

theorem restored (step : Transition s start a m b) (event : m.event = .restoreObjective) :
    b = ⟨.improving .second, m.tableau, b.iterations⟩ := by
  cases step with
  | restoreObjective => rfl
  | start | priceArtificials | pivot | driveOut | finish => cases event

end Transition

/-! ## Courses -/

namespace Course

theorem append (first : Course s start a ms b) (second : Course s start b ns c) :
    Course s start a (ms ++ ns) c := by
  induction first with
  | nil => exact second
  | cons step _ ih => exact .cons step (ih second)

theorem concat (first : Course s start a ms b) (step : Transition s start b m c) :
    Course s start a (ms ++ [m]) c :=
  first.append (.cons step .nil)

theorem append_iff :
    Course s start a (ms ++ ns) c ↔ ∃ b, Course s start a ms b ∧ Course s start b ns c := by
  constructor
  · intro course
    induction ms generalizing a with
    | nil => exact ⟨a, .nil, course⟩
    | cons m ms ih =>
      cases course with
      | cons step rest =>
        obtain ⟨b, before, after⟩ := ih rest
        exact ⟨b, .cons step before, after⟩
  · rintro ⟨b, before, after⟩
    exact before.append after

/-- A course past a moment, cut before and after it. -/
theorem cut (course : Course s start a (ms ++ m :: ns) d) :
    ∃ b c, Course s start a ms b ∧ Transition s start b m c ∧ Course s start c ns d := by
  obtain ⟨b, before, rest⟩ := append_iff.mp course
  cases rest with
  | cons step after => exact ⟨b, _, before, step, after⟩

/-- Nothing is recorded after the end. -/
theorem of_finished (course : Course s start a ms b) (finished : a.control = .finished) :
    ms = [] ∧ b = a := by
  cases course with
  | nil => exact ⟨rfl, rfl⟩
  | cons step _ =>
    cases step with
    | driveOut pending | restoreObjective pending =>
      rcases pending.control_eq with first | ⟨left, exchanging⟩
      · cases first.symm.trans finished
      · cases exchanging.symm.trans finished
    | start | priceArtificials | pivot | finish => cases finished

theorem at_moment (course : Course s start a ms d) {k : Nat} (at_k : ms[k]? = some m) :
    ∃ b c, Course s start a (ms.take k) b ∧ Transition s start b m c ∧
      Course s start c (ms.drop (k + 1)) d := by
  obtain ⟨k_lt, rfl⟩ := List.getElem?_eq_some_iff.mp at_k
  apply cut
  rw [← List.drop_eq_getElem_cons k_lt, List.take_append_drop]
  exact course

/-- Two moments in a row. -/
theorem successive (course : Course s start a ms d) {k : Nat} {m' : Moment α}
    (at_k : ms[k]? = some m) (at_next : ms[k + 1]? = some m') :
    ∃ b c e, Transition s start b m c ∧ Transition s start c m' e := by
  obtain ⟨b, c, _, step, rest⟩ := course.at_moment at_k
  have at_head : (ms.drop (k + 1))[0]? = some m' := by
    rw [List.getElem?_drop, Nat.add_zero]
    exact at_next
  obtain ⟨c', e, none_before, next, _⟩ := rest.at_moment at_head
  cases none_before
  exact ⟨b, c, e, step, next⟩

/-- What every transition keeps holds at the end, and what it says of its moment holds of all. -/
theorem forall_mem {I : Configuration α → Prop} {P : Moment α → Prop}
    (step : ∀ {a m b}, Transition s start a m b → I a → I b ∧ P m)
    (course : Course s start a ms b) (init : I a) : I b ∧ ∀ m ∈ ms, P m := by
  induction course with
  | nil => exact ⟨init, fun m mem => absurd mem List.not_mem_nil⟩
  | cons first _ ih =>
    obtain ⟨next, here⟩ := step first init
    obtain ⟨last, later⟩ := ih next
    exact ⟨last, List.forall_mem_cons.mpr ⟨here, later⟩⟩

theorem keeps {I : Configuration α → Prop}
    (step : ∀ {a m b}, Transition s start a m b → I a → I b)
    (course : Course s start a ms b) (init : I a) : I b :=
  (course.forall_mem (P := fun _ => True) (fun taken kept => ⟨step taken kept, trivial⟩) init).1

/-- What every transition keeps that records something fit holds at the end of a course that records
nothing else. -/
theorem keeps_of_recorded {I : Configuration α → Prop} {Fit : Moment α → Prop}
    (step : ∀ {a m b}, Transition s start a m b → Fit m → I a → I b)
    (course : Course s start a ms b) (fits : ∀ m ∈ ms, Fit m) (init : I a) : I b := by
  induction course with
  | nil => exact init
  | cons first _ ih =>
    obtain ⟨here, later⟩ := List.forall_mem_cons.mp fits
    exact ih later (step first here init)

/-- All that is recorded after the objective has been restored is reached by the loop. -/
theorem loopReach {t : Tableau α} {n : Nat}
    (course : Course s start ⟨.improving .second, t, n⟩ ms b) :
    ∀ m ∈ ms, Tableau.LoopReach false t m.tableau := by
  refine (course.forall_mem
    (I := fun a => (a.control = .improving .second ∨ a.control = .finished) ∧
      Tableau.LoopReach false t a.tableau)
    (fun step kept => ?_) ⟨Or.inl rfl, .refl⟩).2
  obtain ⟨control, reach⟩ := kept
  cases step with
  | @pivot stage t n c i _ entering leaving =>
    rcases control with second | finished
    · cases second
      exact ⟨⟨Or.inl rfl, reach.tail (.pivot entering leaving)⟩, reach⟩
    · cases finished
  | finish => exact ⟨⟨Or.inr rfl, reach⟩, reach⟩
  | start | priceArtificials => rcases control with second | finished <;> contradiction
  | driveOut pending | restoreObjective pending =>
    rcases pending.control_eq with rfl | ⟨left, rfl⟩ <;>
    rcases control with second | finished
    · cases second
    · cases finished
    · cases second
    · cases finished

/-- The tableau at the end of a course is the outcome of the last thing recorded. -/
theorem tableau_eq (course : Course s start a ms b) :
    b.tableau = ms.foldl (fun _ m => m.event.outcome m.tableau) a.tableau := by
  induction course with
  | nil => rfl
  | cons step _ ih => rw [ih, step.outcome_eq, List.foldl_cons]

/-- What is recorded determines the tableau, also under other settings. -/
theorem unique {s' : Solver α} {start' : Tableau α} (course : Course s start a ms b)
    (other : Course s' start' a ms c) : b.tableau = c.tableau :=
  course.tableau_eq.trans other.tableau_eq.symm

theorem iterations_eq (course : Course s start a ms b) :
    b.iterations = a.iterations + ms.countP fun m => m.event.isChosen := by
  induction course with
  | nil => rfl
  | cons step _ ih =>
    rw [ih, step.iterations_eq, List.countP_cons]
    omega

/-- The budget is never exceeded. -/
theorem iterations_le (course : Course s start a ms b) (init : a.iterations ≤ s.maxIterations) :
    b.iterations ≤ s.maxIterations := by
  refine course.keeps (I := fun a => a.iterations ≤ s.maxIterations) (fun step within => ?_) init
  cases step with
  | pivot below => exact below
  | start | priceArtificials | driveOut | restoreObjective | finish => exact within

end Course

/-! ## Every run is a course -/

/-- What the steps of a report record, without their numbers. -/
def Report.moments (r : Report α) : List (Moment α) := r.steps.map fun x => ⟨x.event, x.tableau⟩

namespace Trail

/-- Where a trail ends, before its end is recorded. -/
def last (t : Trail α) : Configuration α := ⟨.improving t.stage, t.tableau, t.iterations⟩

end Trail

namespace Tableau

theorem improve_stage (stage : Stage) (budget n : Nat) (t : Tableau α) :
    (t.improve stage budget n).stage = stage := by
  induction budget generalizing n t with
  | zero =>
    unfold improve
    split <;> rfl
  | succ budget ih =>
    unfold improve
    split
    · rfl
    · split
      · rfl
      · exact ih _ _

theorem course_improve (stage : Stage) {budget n : Nat} (t : Tableau α)
    (within : n + budget ≤ s.maxIterations) :
    Course s start ⟨.improving stage, t, n⟩ (t.improve stage budget n).moments
      (t.improve stage budget n).last := by
  induction budget generalizing n t with
  | zero =>
    unfold improve
    split <;> exact .nil
  | succ budget ih =>
    unfold improve
    split
    · exact .nil
    · next c entering =>
      split
      · exact .nil
      · next i leaving =>
        exact .cons (.pivot (by omega) entering leaving) (ih (t.pivot i c) (by omega))

/-- A loop that did not run out of budget has stopped. -/
theorem stopped_improve {stage : Stage} {budget n : Nat} {t : Tableau α}
    (finished : (t.improve stage budget n).verdict ≠ .limitReached) :
    (t.improve stage budget n).tableau.Stopped (stage == .first) := by
  intro c entering
  rcases improve_verdict_cases stage budget n t with
    ⟨_, none_enters⟩ | ⟨d, _, enters, none_leaves⟩ | limit
  · cases entering.symm.trans none_enters
  · cases entering.symm.trans enters
    exact none_leaves
  · exact absurd limit finished

/-- Driving out records one moment for each row that it exchanges, and leaves no row to look at. -/
theorem course_driveOut {control : Control} {t : Tableau α} {rows : List Nat} {n : Nat}
    (pending : Pending s start control t rows) :
    ∃ left, Pending s start left (t.driveOut s.tolerance n rows).2 [] ∧
      Course s start ⟨control, t, n⟩ (t.driveOut s.tolerance n rows).1
        ⟨left, (t.driveOut s.tolerance n rows).2, n⟩ := by
  induction rows generalizing control t with
  | nil => exact ⟨control, pending, .nil⟩
  | cons i rows ih =>
    rw [driveOut]
    split
    · next none_found => exact ih (.skip pending none_found)
    · next c found =>
      obtain ⟨left, done, course⟩ := ih (t := (t.clearRhs i).pivot i c) .rest
      exact ⟨left, done, .cons (.driveOut pending found) course⟩

end Tableau

namespace Solver

theorem course_secondPhase {t : Tableau α} {n : Nat} (stopped : t.Stopped true)
    (threshold : ¬ s.tolerance * start.rhsScale < -t.objective.rhs)
    (within : n ≤ s.maxIterations) :
    Course s start ⟨.improving .first, t, n⟩ (s.secondPhase start.objective.cells n t).moments
      (s.secondPhase start.objective.cells n t).last := by
  obtain ⟨left, done, exchanged⟩ :=
    Tableau.course_driveOut (n := n) (.handOver stopped threshold)
  exact (exchanged.concat (.restoreObjective done)).append
    (Tableau.course_improve .second _ (by omega))

theorem last_firstPhase (s : Solver α) (t : Tableau α) :
    (s.firstPhase t).last =
      ⟨.improving .first, (s.firstPhase t).tableau, (s.firstPhase t).iterations⟩ := by
  rw [Trail.last, firstPhase, Tableau.improve_stage]

theorem course_firstPhase (s : Solver α) (t : Tableau α) :
    Course s t ⟨.improving .first, t.priceArtificials, 0⟩ (s.firstPhase t).moments
      (s.firstPhase t).last :=
  Tableau.course_improve .first t.priceArtificials (Nat.zero_add _).le

theorem iterations_firstPhase_le (s : Solver α) (t : Tableau α) :
    (s.firstPhase t).iterations ≤ s.maxIterations :=
  (s.course_firstPhase t).iterations_le (Nat.zero_le _)

theorem course_bothPhases (s : Solver α) (t : Tableau α) :
    Course s t ⟨.pricing, t, 0⟩ (s.bothPhases t).moments (s.bothPhases t).last := by
  have first := s.course_firstPhase t
  rcases s.bothPhases_cases t with ⟨_, eq⟩ | ⟨_, _, eq⟩ | ⟨finished, within, eq⟩
  · rw [eq]
    exact .cons .priceArtificials first
  · rw [eq]
    exact .cons .priceArtificials first
  · rw [eq]
    rw [last_firstPhase] at first
    exact .cons .priceArtificials (first.append
      (course_secondPhase (Tableau.stopped_improve finished) within
        (s.iterations_firstPhase_le t)))

theorem course_trail (s : Solver α) (t : Tableau α) :
    Course s t ⟨.opening, t, 0⟩ (s.trail t).moments (s.trail t).last := by
  unfold trail
  refine .cons .start ?_
  unfold Tableau.opened
  split
  · exact Tableau.course_improve .only t (Nat.zero_add _).le
  · exact s.course_bothPhases t

/-- A run that ends in the first phase is infeasible, or has run out of budget. -/
theorem limitReached_of_stage (s : Solver α) {t : Tableau α}
    (settled : (s.trail t).verdict.status = .optimal ∨
      (s.trail t).verdict.status = .iterationLimitReached)
    (stage : (s.trail t).stage = .first) :
    (s.trail t).verdict.status = .iterationLimitReached := by
  unfold trail at settled stage ⊢
  by_cases real : t.layout.artificials = 0
  · rw [if_pos real] at stage
    cases (Tableau.improve_stage .only s.maxIterations 0 t).symm.trans stage
  · rw [if_neg real] at settled stage ⊢
    rcases s.bothPhases_cases t with ⟨limit, eq⟩ | ⟨_, _, eq⟩ | ⟨_, _, eq⟩
    · rw [eq]
      exact congrArg Verdict.status limit
    · rw [eq] at settled
      rcases settled with other | other <;> cases other
    · rw [eq] at stage
      cases (Tableau.improve_stage .second _ _ _).symm.trans stage

/-- Everything that a report records, its end included. -/
def moments (s : Solver α) (p : Problem α) (t : Tableau α) : List (Moment α) :=
  (s.trail t).moments ++
    [⟨.finish (s.trail t).verdict (s.solution p (s.trail t)), (s.trail t).tableau⟩]

/-- The end is recorded last, and before it nothing announces a solution. -/
theorem solution_trail (s : Solver α) (t : Tableau α) :
    ∀ m ∈ (s.trail t).moments, m.event.solution? = none := by
  intro m mem
  obtain ⟨k, at_k⟩ := List.mem_iff_getElem?.mp mem
  obtain ⟨b, c, _, step, rest⟩ := (s.course_trail t).at_moment at_k
  cases step with
  | finish => cases (rest.of_finished rfl).2
  | start | priceArtificials | pivot | driveOut | restoreObjective => rfl

theorem course_moments (s : Solver α) (p : Problem α) (t : Tableau α) :
    Course s t ⟨.opening, t, 0⟩ (s.moments p t)
      ⟨.finished, (s.trail t).tableau, (s.trail t).iterations⟩ :=
  (s.course_trail t).concat .finish

theorem report_steps (s : Solver α) (p : Problem α) (t : Tableau α) :
    (s.report p (s.trail t)).steps = Step.ofMoments (s.moments p t) := rfl

/-- What a step shows is what the run has recorded at its position. -/
theorem getElem?_moments_of_step (s : Solver α) {p : Problem α} {t : Tableau α} {k : Nat}
    {x : Step α} (at_k : (s.report p (s.trail t)).steps[k]? = some x) :
    (s.moments p t)[k]? = some ⟨x.event, x.tableau⟩ := by
  rw [report_steps, Step.getElem?_ofMoments] at at_k
  obtain ⟨m, m_at, rfl⟩ := Option.map_eq_some_iff.mp at_k
  exact m_at

/-- Two steps of a report as parts of the run: how the run comes to the first one, what lies between
them, and how it comes to the second one. -/
theorem course_between (s : Solver α) {p : Problem α} (t : Tableau α) {j k : Nat} {x y : Step α}
    (before : j < k) (x_at : (s.report p (s.trail t)).steps[j]? = some x)
    (y_at : (s.report p (s.trail t)).steps[k]? = some y) :
    ∃ a b c d, Course s t ⟨.opening, t, 0⟩ ((s.moments p t).take j) a ∧
      Transition s t a ⟨x.event, x.tableau⟩ b ∧
      Course s t b (((s.moments p t).take k).drop (j + 1)) c ∧
      Course s t ⟨.opening, t, 0⟩ ((s.moments p t).take k) c ∧
      Transition s t c ⟨y.event, y.tableau⟩ d := by
  obtain ⟨c, d, to_c, at_c, _⟩ := (s.course_moments p t).at_moment (s.getElem?_moments_of_step y_at)
  have x_early : ((s.moments p t).take k)[j]? = some ⟨x.event, x.tableau⟩ := by
    rw [List.getElem?_take_of_lt before, s.getElem?_moments_of_step x_at]
  obtain ⟨a, b, to_a, at_a, between⟩ := to_c.at_moment x_early
  rw [List.take_take, Nat.min_eq_left before.le] at to_a
  exact ⟨a, b, c, d, to_a, at_a, between, to_c, at_c⟩

theorem moments_report (s : Solver α) (p : Problem α) (t : Tableau α) :
    (s.report p (s.trail t)).moments = s.moments p t := by
  refine List.ext_getElem? fun k => ?_
  rw [Report.moments, report_steps, List.getElem?_map, Step.getElem?_ofMoments, Option.map_map]
  exact Option.map_id_apply

theorem trail_prefix_report (s : Solver α) (p : Problem α) (t : Tableau α) :
    (s.trail t).moments <+: (s.report p (s.trail t)).moments := by
  rw [s.moments_report]
  exact List.prefix_append _ _

theorem head_steps_report (s : Solver α) (p : Problem α) (t : Tableau α) :
    (s.report p (s.trail t)).steps.head? = some ⟨1, .start, t⟩ := by
  have first : (s.moments p t)[0]? = some ⟨.start, t⟩ := rfl
  rw [report_steps, List.head?_eq_getElem?, Step.getElem?_ofMoments, first, Option.map_some]

/-- No step changes the columns. -/
theorem layout_of_mem_steps (s : Solver α) (p : Problem α) {t : Tableau α} {x : Step α}
    (mem : x ∈ (s.report p (s.trail t)).steps) : x.tableau.layout = t.layout := by
  rw [report_steps] at mem
  obtain ⟨k, m, at_k, rfl⟩ := Step.mem_ofMoments _ mem
  refine ((s.course_moments p t).forall_mem (I := fun a => a.tableau.layout = t.layout)
    (P := fun m => m.tableau.layout = t.layout) (fun step kept => ?_) rfl).2 m
    (List.mem_of_getElem? at_k)
  have here := congrArg Tableau.layout step.tableau_eq
  rw [Event.setup_layout] at here
  have next := congrArg Tableau.layout step.outcome_eq
  rw [Event.outcome_layout] at next
  exact ⟨next.trans (here.trans kept), here.trans kept⟩

end Solver

end LinearProgram
