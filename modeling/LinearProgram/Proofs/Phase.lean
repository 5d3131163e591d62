import LinearProgram.Proofs.Course

/-!
# The phase of a step

With artificial variables, a report has a stretch of steps that belong to the
first phase: from the one that prices the artificial variables up to the one
before the problem's own objective is restored.  A reader of the report finds
the stretch by these two events.  From inside the run it is found by the control
state, and `Solver.transition_of_step` says that both agree.
-/

namespace LinearProgram

variable {α : Type}

/-- The artificial variables have been priced, and the problem's own objective has not been
restored since. -/
def FirstPhaseAfter (events : List (Event α)) : Prop :=
  .priceArtificials ∈ events ∧ .restoreObjective ∉ events

/-- Whether an event is an exchange. -/
def Event.isDriveOut : Event α → Bool
  | .driveOut _ => true
  | _ => false

theorem Event.isDriveOut_eq_false_iff (e : Event α) :
    e.isDriveOut = false ↔ ∀ p, e ≠ .driveOut p := by
  cases e <;> simp [isDriveOut]

namespace Report

/-- The step at a position belongs to the first phase. -/
def InFirstPhase (r : Report α) (k : Nat) : Prop :=
  FirstPhaseAfter ((r.steps.take (k + 1)).map Step.event)

/-- No artificial variable has been driven out before the step at a position. -/
def Unexchanged (r : Report α) (k : Nat) : Prop :=
  ∀ x ∈ r.steps.take k, ∀ p, x.event ≠ .driveOut p

variable [DecidableEq α] (r : Report α) (k : Nat)

instance : Decidable (r.InFirstPhase k) :=
  inferInstanceAs (Decidable (_ ∈ (r.steps.take (k + 1)).map Step.event ∧
    _ ∉ (r.steps.take (k + 1)).map Step.event))

instance (e : Event α) : Decidable (∀ p, e ≠ .driveOut p) :=
  decidable_of_iff (e.isDriveOut = false) e.isDriveOut_eq_false_iff

instance : Decidable (r.Unexchanged k) :=
  inferInstanceAs (Decidable (∀ x ∈ r.steps.take k, ∀ p, x.event ≠ .driveOut p))

end Report

/-- What a run in this state records next belongs to the first phase, unless it restores the
objective. -/
def Control.InFirstPhase : Control → Prop
  | pricing | improving .first | exchanging _ => True
  | opening | improving .only | improving .second | finished => False

theorem firstPhaseAfter_concat (es : List (Event α)) (e : Event α) :
    FirstPhaseAfter (es ++ [e]) ↔
      (.priceArtificials ∈ es ∨ e = .priceArtificials) ∧
        .restoreObjective ∉ es ∧ e ≠ .restoreObjective := by
  simp [FirstPhaseAfter, eq_comm]

variable [Scalar α] {s : Solver α} {start t : Tableau α} {a b c : Configuration α}
  {m : Moment α} {ms : List (Moment α)} {n : Nat}

theorem Pending.inFirstPhase {control : Control} {rows : List Nat}
    (pending : Pending s start control t rows) : control.InFirstPhase := by
  rcases pending.control_eq with rfl | ⟨_, rfl⟩ <;> trivial

/-- What the events so far say about the state that a run is in. -/
structure Control.Follows (control : Control) (es : List (Event α)) : Prop where
  early : control = .opening ∨ control = .pricing → .restoreObjective ∉ es
  phase : control ≠ .finished →
    (control.InFirstPhase ↔ control = .pricing ∨ FirstPhaseAfter es)

namespace Transition

/-- A moment belongs to the first phase by its events exactly if it does so by the state before
it. -/
theorem firstPhaseAfter_iff (step : Transition s start a m b) {es : List (Event α)}
    (follows : a.control.Follows es) :
    FirstPhaseAfter (es ++ [m.event]) ↔
      a.control.InFirstPhase ∧ m.event ≠ .restoreObjective := by
  obtain ⟨early, phase⟩ := follows
  rw [firstPhaseAfter_concat]
  by_cases pricing : a.control = .pricing
  · cases step with
    | priceArtificials => simpa [Control.InFirstPhase] using early
    | start | pivot | finish => cases pricing
    | driveOut pending | restoreObjective pending =>
      rcases pending.control_eq with rfl | ⟨_, rfl⟩ <;> cases pricing
  · have other : m.event ≠ .priceArtificials := fun event => pricing (step.pricing event)
    have active : a.control ≠ .finished := by
      intro finished
      have nothing := (Course.cons step .nil).of_finished finished
      simp at nothing
    rw [phase active]
    simp [pricing, other, FirstPhaseAfter, and_assoc]

theorem follows (step : Transition s start a m b) {es : List (Event α)}
    (before : a.control.Follows es) : b.control.Follows (es ++ [m.event]) := by
  have phase := step.firstPhaseAfter_iff before
  cases step with
  | start =>
    have fresh : .restoreObjective ∉ es := before.early (Or.inl rfl)
    constructor
    · simpa using fun _ => fresh
    · unfold Tableau.opened
      split <;> simp_all [Control.InFirstPhase]
  | driveOut pending =>
    have inside := pending.inFirstPhase
    constructor
    · simp
    · simp_all [Control.InFirstPhase]
  | priceArtificials | restoreObjective | finish =>
    constructor
    · simp
    · simp_all [Control.InFirstPhase]
  | @pivot stage t n c i _ _ _ =>
    constructor
    · simp
    · cases stage <;> simp_all [Control.InFirstPhase]

end Transition

namespace Course

theorem follows (course : Course s start ⟨.opening, t, n⟩ ms b) :
    b.control.Follows (ms.map Moment.event) := by
  induction ms using List.reverseRecOn generalizing b with
  | nil =>
    cases course
    constructor <;> simp [Control.InFirstPhase, FirstPhaseAfter]
  | append_singleton ms m ih =>
    obtain ⟨a, before, last⟩ := append_iff.mp course
    cases last with
    | cons step rest =>
      cases rest
      rw [List.map_append]
      exact step.follows (ih before)

/-- A run that has begun to exchange artificial variables has recorded it. -/
theorem exists_driveOut {rows : List Nat} (course : Course s start a ms b)
    (exchanging : b.control = .exchanging rows) (init : ∀ left, a.control ≠ .exchanging left) :
    ∃ x ∈ ms, ∃ p, x.event = .driveOut p := by
  induction course with
  | nil => exact absurd exchanging (init rows)
  | @cons a b c m ms step _ ih =>
    cases step with
    | driveOut => exact ⟨_, List.mem_cons_self, _, rfl⟩
    | start =>
      obtain ⟨x, mem, event⟩ := ih exchanging (by unfold Tableau.opened; split <;> simp)
      exact ⟨x, List.mem_cons_of_mem _ mem, event⟩
    | priceArtificials | pivot | restoreObjective | finish =>
      obtain ⟨x, mem, event⟩ := ih exchanging (by simp)
      exact ⟨x, List.mem_cons_of_mem _ mem, event⟩

end Course

namespace Solver

variable {p : Problem α}

/-- The transition that a step of a report records, and what the steps up to it say about the state
before it. -/
theorem transition_of_step (s : Solver α) {k : Nat} {x : Step α}
    (at_k : (s.report p (s.trail start)).steps[k]? = some x) :
    ∃ a b, Course s start ⟨.opening, start, 0⟩ ((s.moments p start).take k) a ∧
      Transition s start a ⟨x.event, x.tableau⟩ b ∧
      ((s.report p (s.trail start)).InFirstPhase k ↔
        a.control.InFirstPhase ∧ x.event ≠ .restoreObjective) ∧
      ((s.report p (s.trail start)).Unexchanged k → ∀ rows, a.control ≠ .exchanging rows) := by
  have m_at := s.getElem?_moments_of_step at_k
  obtain ⟨a, b, before, step, _⟩ := (s.course_moments p start).at_moment m_at
  have events : ∀ j, ((s.report p (s.trail start)).steps.take j).map Step.event =
      ((s.moments p start).take j).map Moment.event := by
    intro j
    rw [s.report_steps, List.map_take, Step.map_event_ofMoments, List.map_take]
  refine ⟨a, b, before, step, ?_, fun unexchanged rows exchanging => ?_⟩
  · unfold Report.InFirstPhase
    rw [events, List.take_add_one, m_at, List.map_append]
    exact step.firstPhaseAfter_iff before.follows
  · obtain ⟨y, mem, pivot, event⟩ := before.exists_driveOut exchanging (by simp)
    have recorded :
        .driveOut pivot ∈ ((s.report p (s.trail start)).steps.take k).map Step.event := by
      rw [events]
      exact event ▸ List.mem_map_of_mem mem
    obtain ⟨z, z_mem, z_event⟩ := List.mem_map.mp recorded
    exact unexchanged z z_mem pivot z_event

end Solver

end LinearProgram
