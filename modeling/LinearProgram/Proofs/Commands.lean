import LinearProgram.CommandLine.Run
import LinearProgram.Proofs.CellWidth
import LinearProgram.Proofs.Draft.Telling
import LinearProgram.Proofs.FirstFault
import LinearProgram.Proofs.Json.Text

/-!
# Solving and checking a file agree

Both commands read the settings and the problem in the same way, and differ in
what they do with them: checking validates the problem at once, solving
validates it on the way to its starting tableau.  A fault on the way, of
whatever kind, ends either command with exit code 1 and nothing printed; the
words about it are told on the side.  So the two exit with 1 on the same files,
and otherwise the exit code of solving tells whether the solution is optimal.

There is one exception.  A run that is to print its steps breaks off where a
column has a label that is too long for a table, and has then an exit code that says
nothing about the solution.

* `Invocation.run_cases`: a command on a problem fails unless its files can be
  read, and then it comes to what it does with the problem.
* `run?_solve_check`: the exit codes and the printed text of both commands.
-/

namespace LinearProgram

/-- A problem that is not accepted is not solved, and the fault is the same. -/
theorem Solver.solve_of_fault {α : Type} [Scalar α] (s : Solver α) {p : Problem α}
    {fault : Fault α} (invalid : p.validate s.twoPhase = .error fault) :
    s.solve p = .error fault := by
  unfold solve Problem.tableau
  rw [invalid]
  rfl

namespace CommandLine

/-! ## Outcomes -/

/-- Something was wrong with a file or with the problem in it, and nothing was printed. -/
structure Outcome.Failed (o : Outcome) : Prop where
  exit : o.exit = 1
  printed : o.printed = ""

/-- Two outcomes that differ at most in what is told on the side. -/
structure Outcome.Alike (o o' : Outcome) : Prop where
  exit : o.exit = o'.exit
  printed : o.printed = o'.printed

namespace Outcome

variable {o o' o'' : Outcome}

theorem Alike.refl (o : Outcome) : o.Alike o := ⟨rfl, rfl⟩

theorem Alike.trans (first : o.Alike o') (second : o'.Alike o'') : o.Alike o'' :=
  ⟨first.exit.trans second.exit, first.printed.trans second.printed⟩

theorem Alike.failed (alike : o.Alike o') (failed : o'.Failed) : o.Failed :=
  ⟨alike.exit.trans failed.exit, alike.printed.trans failed.printed⟩

theorem after_alike (entries : List LogEntry) (o : Outcome) : (o.after entries).Alike o :=
  ⟨rfl, rfl⟩

theorem upTo_alike (level : LogLevel) (o : Outcome) : (o.upTo level).Alike o := ⟨rfl, rfl⟩

end Outcome

theorem Failure.failed_outcome (f : Failure) : f.outcome.Failed := ⟨rfl, rfl⟩

/-! ## What the files hold -/

/-- The files can be read, and they hold these settings and this problem. -/
structure Reads (files : Files) (config : Option String) (file : String) (c : Config)
    (p : Problem Float) : Prop where
  config : readConfig files config = .ok c
  problem : ∃ d, readDraft files file = .ok d ∧ d.complete = .ok p

theorem Reads.unique {files : Files} {config : Option String} {file : String} {c c' : Config}
    {p p' : Problem Float} (reads : Reads files config file c p)
    (reads' : Reads files config file c' p') : c' = c ∧ p' = p := by
  obtain ⟨d, draft, complete⟩ := reads.problem
  obtain ⟨d', draft', complete'⟩ := reads'.problem
  cases reads.config.symm.trans reads'.config
  cases draft.symm.trans draft'
  cases complete.symm.trans complete'
  exact ⟨rfl, rfl⟩

theorem withProblem_cases (files : Files) (file : String) (use : Problem Float → Outcome) :
    ((withProblem files file use).Failed ∧
      ∀ d p, readDraft files file = .ok d → d.complete ≠ .ok p) ∨
    ∃ d p, readDraft files file = .ok d ∧ d.complete = .ok p ∧
      (withProblem files file use).Alike (use p) := by
  unfold withProblem
  cases draft : readDraft files file with
  | error failure => exact Or.inl ⟨failure.failed_outcome, nofun⟩
  | ok d =>
    dsimp only
    rw [d.tells_read []]
    cases complete : d.complete with
    | error e =>
      refine Or.inl ⟨(Outcome.after_alike _ _).failed (Failure.failed_outcome _), ?_⟩
      rintro d' p ⟨⟩ complete'
      cases complete.symm.trans complete'
    | ok p => exact Or.inr ⟨d, p, rfl, complete, Outcome.after_alike _ _⟩

/-- A command that uses the problem in a file fails if its files cannot be read, and else it comes
to the use it makes of the problem. -/
theorem Invocation.run_cases (files : Files) (i : Invocation) {file : String}
    {use : Config → Problem Float → Outcome}
    (carries : ∀ c, i.command.run files c = withProblem files file (use c)) :
    ((i.run files).Failed ∧ ∀ c p, ¬ Reads files i.config file c p) ∨
    ∃ c p, Reads files i.config file c p ∧ (i.run files).Alike (use c p) := by
  unfold Invocation.run
  cases config : readConfig files i.config with
  | error failure =>
    refine Or.inl ⟨failure.failed_outcome, fun c p reads => ?_⟩
    cases config.symm.trans reads.config
  | ok c =>
    dsimp only
    rw [carries]
    have alike := Outcome.upTo_alike (c.logLevel i.quiet i.verbose)
      (withProblem files file (use c))
    rcases withProblem_cases files file (use c) with ⟨failed, unread⟩ |
      ⟨d, p, draft, complete, same⟩
    · refine Or.inl ⟨alike.failed failed, fun c' p reads => ?_⟩
      obtain ⟨d, draft, complete⟩ := reads.problem
      exact unread d p draft complete
    · exact Or.inr ⟨c, p, ⟨config, d, draft, complete⟩, alike.trans same⟩

/-- A command whose files can be read comes to the use it makes of the problem. -/
theorem Invocation.run_of_reads {files : Files} {i : Invocation} {file : String}
    {use : Config → Problem Float → Outcome}
    (carries : ∀ c, i.command.run files c = withProblem files file (use c)) {c : Config}
    {p : Problem Float} (reads : Reads files i.config file c p) :
    (i.run files).Alike (use c p) := by
  rcases i.run_cases files carries with ⟨_, unread⟩ | ⟨c', p', reads', alike⟩
  · exact absurd reads (unread c p)
  · obtain ⟨rfl, rfl⟩ := reads.unique reads'
    exact alike

/-! ## The two commands -/

/-- Solving exits with 0 for an optimal solution and with 2 for every other one. -/
def solvedExit (status : Status) : Nat :=
  match status with
  | .optimal => 0
  | .unbounded | .infeasible | .iterationLimitReached => 2

theorem solvedExit_of_ne {status : Status} (other : status ≠ .optimal) : solvedExit status = 2 := by
  cases status with
  | optimal => exact absurd rfl other
  | unbounded | infeasible | iterationLimitReached => rfl

theorem solvedExit_ne_one (status : Status) : solvedExit status ≠ 1 := by
  cases status <;> decide

theorem solvedExit_eq (x : Solution Float) :
    (if x.isOptimal then 0 else 2) = solvedExit x.status := by
  unfold Solution.isOptimal
  cases x.status <;> rfl

theorem solveAndPrint_of_fault {s : Solver Float} {p : Problem Float} {fault : Fault Float}
    (invalid : p.validate s.twoPhase = .error fault) (steps : Bool) (format : OutputFormat) :
    (solveAndPrint s p steps format).Failed := by
  unfold solveAndPrint
  rw [s.solve_of_fault invalid]
  exact Failure.failed_outcome _

theorem Outcome.exit_ofPrintout (exit : Nat) (p : Printout) :
    (ofPrintout exit p).exit = if p.finished then exit else 101 := by
  unfold ofPrintout
  split <;> rfl

/-- The steps are to be printed as tables, and a column has a label that is too long for one.  Apart
from the names of variables, the labels are as long as the numbers in them. -/
def PrintsTooWide (p : Problem Float) (steps : Bool) (format : OutputFormat) : Prop :=
  steps = true ∧ format = .pretty ∧ ∃ label ∈ p.layout.labels, 65535 < label.length

/-- A run that does not break off exits as the status says. -/
theorem solveAndPrint_of_validate {s : Solver Float} {p : Problem Float}
    (valid : p.validate s.twoPhase = .ok ()) (steps : Bool) (format : OutputFormat) :
    ∃ r, s.solve p = .ok r ∧
      (PrintsTooWide p steps format → (solveAndPrint s p steps format).exit = 101) ∧
      (¬ PrintsTooWide p steps format →
        (solveAndPrint s p steps format).exit = solvedExit r.solution.status) := by
  have finished := s.finished_printed_iff p format p.names steps
  refine ⟨_, s.solve_of_validate valid, ?_⟩
  unfold solveAndPrint
  rw [s.solve_of_validate valid]
  dsimp only
  rw [(Outcome.after_alike _ _).exit, Outcome.exit_ofPrintout, solvedExit_eq]
  exact ⟨fun wide => if_neg (mt finished.mp (not_not_intro wide)),
    fun narrow => if_pos (finished.mpr narrow)⟩

theorem checkAndPrint_of_fault {p : Problem Float} {twoPhase : Bool} {fault : Fault Float}
    (invalid : p.validate twoPhase = .error fault) (file : String) :
    (checkAndPrint file p twoPhase).Failed := by
  unfold checkAndPrint
  rw [invalid]
  exact ⟨rfl, rfl⟩

theorem checkAndPrint_of_validate {p : Problem Float} {twoPhase : Bool}
    (valid : p.validate twoPhase = .ok ()) (file : String) :
    (checkAndPrint file p twoPhase).exit = 0 := by
  unfold checkAndPrint
  rw [valid]

section Agreement

variable (files : Files) {i j : Invocation} {file : String} {maxIterations : Option Nat}
  {twoPhase steps : Bool} {format : Option OutputFormat}

theorem Command.run_solve (c : Config) :
    (Command.solve file maxIterations twoPhase steps format).run files c =
      withProblem files file fun p =>
        (solveAndPrint (solverFor c maxIterations (c.twoPhaseOr twoPhase)) p steps
          (c.formatOr format)).after
          [logSolving file (solverFor c maxIterations (c.twoPhaseOr twoPhase))] := rfl

theorem Command.run_check (c : Config) :
    (Command.check file twoPhase).run files c =
      withProblem files file fun p => checkAndPrint file p (c.twoPhaseOr twoPhase) := rfl

/-- Both commands on a problem that can be read and is valid. -/
theorem Invocation.exits_of_valid {files : Files}
    (solve : i.command = .solve file maxIterations twoPhase steps format)
    (check : j.command = .check file twoPhase) (config : j.config = i.config) {c : Config}
    {p : Problem Float} (reads : Reads files i.config file c p)
    (valid : p.validate (c.twoPhaseOr twoPhase) = .ok ()) :
    ∃ r, (solverFor c maxIterations (c.twoPhaseOr twoPhase)).solve p = .ok r ∧
      (PrintsTooWide p steps (c.formatOr format) → (i.run files).exit = 101) ∧
      (¬ PrintsTooWide p steps (c.formatOr format) →
        (i.run files).exit = solvedExit r.solution.status) ∧
      (j.run files).exit = 0 := by
  have solved := i.run_of_reads (fun c => solve ▸ Command.run_solve files c) reads
  have checked := j.run_of_reads (fun c => check ▸ Command.run_check files c) (config ▸ reads)
  obtain ⟨r, report, wide, narrow⟩ := solveAndPrint_of_validate
    (s := solverFor c maxIterations (c.twoPhaseOr twoPhase)) valid steps (c.formatOr format)
  have exit := solved.exit.trans (Outcome.after_alike _ _).exit
  exact ⟨r, report, fun tooWide => exit.trans (wide tooWide), fun fits => exit.trans (narrow fits),
    checked.exit.trans (checkAndPrint_of_validate valid file)⟩

/-- Either both commands fail, or the problem can be read and is valid. -/
theorem Invocation.solve_check_cases
    (solve : i.command = .solve file maxIterations twoPhase steps format)
    (check : j.command = .check file twoPhase) (config : j.config = i.config) :
    ((i.run files).Failed ∧ (j.run files).Failed) ∨
    ∃ c p, Reads files i.config file c p ∧ p.validate (c.twoPhaseOr twoPhase) = .ok () := by
  have checking := j.run_cases files fun c => check ▸ Command.run_check files c
  rw [config] at checking
  rcases i.run_cases files fun c => solve ▸ Command.run_solve files c with
    ⟨failed, unread⟩ | ⟨c, p, reads, solved⟩
  · rcases checking with ⟨failed', _⟩ | ⟨c, p, reads, _⟩
    · exact Or.inl ⟨failed, failed'⟩
    · exact absurd reads (unread c p)
  · have checked := j.run_of_reads (fun c => check ▸ Command.run_check files c) (config ▸ reads)
    cases valid : p.validate (c.twoPhaseOr twoPhase) with
    | error fault =>
      exact Or.inl ⟨(solved.trans (Outcome.after_alike _ _)).failed
        (solveAndPrint_of_fault valid steps _), checked.failed (checkAndPrint_of_fault valid file)⟩
    | ok => exact Or.inr ⟨c, p, reads, valid⟩

/-- Two command lines that solve and check one file, with the same settings file and the same flag
for two phases.  They exit with 1 together, and then neither prints anything.  Otherwise checking
exits with 0.  Solving then exits with 0 if the solution of the problem in the file is optimal and
with 2 if it is not, unless it breaks off at a table that is too wide. -/
theorem run?_solve_check {solveLine checkLine : List String}
    (solving : parse? solveLine = some (.invoke i)) (checking : parse? checkLine = some (.invoke j))
    (solve : i.command = .solve file maxIterations twoPhase steps format)
    (check : j.command = .check file twoPhase) (config : j.config = i.config) :
    ∃ o o', run? files solveLine = some o ∧ run? files checkLine = some o' ∧
      (o.exit = 1 ↔ o'.exit = 1) ∧
      (o.exit = 1 ∨ o'.exit = 1 → o.printed = "" ∧ o'.printed = "") ∧
      (o.exit ≠ 1 → o'.exit = 0 ∧ ∃ c p r, Reads files i.config file c p ∧
        (solverFor c maxIterations (c.twoPhaseOr twoPhase)).solve p = .ok r ∧
        (PrintsTooWide p steps (c.formatOr format) → o.exit = 101) ∧
        (¬ PrintsTooWide p steps (c.formatOr format) →
          (r.solution.status = .optimal → o.exit = 0) ∧
          (r.solution.status ≠ .optimal → o.exit = 2))) := by
  have solveRun : run? files solveLine = some (i.run files) := by
    unfold run?
    rw [solving]
    rfl
  have checkRun : run? files checkLine = some (j.run files) := by
    unfold run?
    rw [checking]
    rfl
  refine ⟨_, _, solveRun, checkRun, ?_⟩
  have cases := Invocation.solve_check_cases files solve check config
  rcases cases with ⟨failed, failed'⟩ | ⟨c, p, reads, valid⟩
  · exact ⟨⟨fun _ => failed'.exit, fun _ => failed.exit⟩,
      fun _ => ⟨failed.printed, failed'.printed⟩, fun other => absurd failed.exit other⟩
  · obtain ⟨r, report, wide, narrow, exit'⟩ :=
      Invocation.exits_of_valid solve check config reads valid
    have neither : (i.run files).exit ≠ 1 := by
      by_cases tooWide : PrintsTooWide p steps (c.formatOr format)
      · rw [wide tooWide]
        decide
      · rw [narrow tooWide]
        exact solvedExit_ne_one _
    have neither' : (j.run files).exit ≠ 1 := fun one => Nat.zero_ne_one (exit'.symm.trans one)
    have settled : ¬ PrintsTooWide p steps (c.formatOr format) →
        (r.solution.status = .optimal → (i.run files).exit = 0) ∧
        (r.solution.status ≠ .optimal → (i.run files).exit = 2) := fun fits =>
      ⟨fun status => (narrow fits).trans (congrArg solvedExit status),
        fun status => (narrow fits).trans (solvedExit_of_ne status)⟩
    refine ⟨⟨fun one => absurd one neither, fun one => absurd one neither'⟩, ?_,
      fun _ => ⟨exit', c, p, r, reads, report, wide, settled⟩⟩
    rintro (one | one)
    · exact absurd one neither
    · exact absurd one neither'

end Agreement

/-- A draft with an objective that has a gap and with one constraint, a lower bound, and settings
that ask for two phases. -/
def twoFiles : Files := fun name =>
  if name = "p.json" then
    .ok "[null, null, [1, null], [[null, [1, -1.5], \">=\", 2]]]"
  else if name = "c.yaml" then .ok "two_phase: true\n"
  else .error .notFound

theorem run?_solve_check_twoFiles :
    ∃ o o', run? twoFiles ["solve", "p.json", "-n3", "--config=c.yaml", "-sfjson"] = some o ∧
      run? twoFiles ["--config", "c.yaml", "check", "p.json"] = some o' ∧
      o.exit = 2 ∧ o'.exit = 0 := by
  have solving : parse? ["solve", "p.json", "-n3", "--config=c.yaml", "-sfjson"] =
      some (.invoke ⟨some "c.yaml", 0, false, .solve "p.json" (some 3) false true (some .json)⟩) :=
    by decide +kernel
  have checking : parse? ["--config", "c.yaml", "check", "p.json"] =
      some (.invoke ⟨some "c.yaml", 0, false, .check "p.json" false⟩) := by decide +kernel
  have unbounded : (run? twoFiles ["solve", "p.json", "-n3", "--config=c.yaml", "-sfjson"]).map
      (·.exit) = some 2 := by decide +kernel
  obtain ⟨o, o', solved, checked, _, _, neither⟩ :=
    run?_solve_check twoFiles solving checking rfl rfl rfl
  have exit : o.exit = 2 := by simpa [solved] using unbounded
  refine ⟨o, o', solved, checked, exit, (neither ?_).1⟩
  rw [exit]
  decide

/-! ## A name that is too long -/

/-- A problem without constraints that maximises nothing, over one variable. -/
def idle (name : String) : Problem Float := ⟨[name], ⟨[0], .maximize⟩, []⟩

/-- A file that holds such a problem. -/
def idleFiles (name : String) : Files := fun file =>
  if file = "p.json" then .ok (Json.array [.null, .ofTexts [name], .array [.null]]).compactText
  else .error .notFound

theorem reads_idleFiles (name : String) :
    Reads (idleFiles name) none "p.json" .empty (idle name) := by
  have text : idleFiles name "p.json" =
      .ok (Json.array [.null, .ofTexts [name], .array [.null]]).compactText := if_pos rfl
  refine ⟨rfl, ⟨none, some [name], [none], []⟩, ?_, ?_⟩
  · unfold readDraft Draft.ofJsonText?
    rw [text]
    dsimp only
    rw [Json.parse?_compactText]
    rfl
  · rw [Draft.complete_eq_fill]
    rfl

theorem validate_idle {name : String} (free : ¬ HasReservedShape name) :
    (idle name).validate false = .ok () := by
  rw [Problem.validate_eq_ok_iff_sound]
  refine ⟨List.cons_ne_nil _ _, rfl, List.nodup_singleton _, ?_, ?_, nofun, fun _ => nofun⟩
  · intro other mem
    rwa [List.mem_singleton.mp mem]
  · intro x mem
    rw [List.mem_singleton.mp mem]
    decide +kernel

theorem not_hasReservedShape_letters {n : Nat} (pos : 0 < n) :
    ¬ HasReservedShape (Table.letters n) := by
  obtain ⟨k, rfl⟩ := Nat.exists_eq_add_one.mpr pos
  have chars : (Table.letters (k + 1)).toList = 'x' :: List.replicate k 'x' := by
    rw [Table.letters, String.toList_ofList, List.replicate_succ]
  rintro (fixed | fixed | ⟨letter, digits, split, group, -, -⟩)
  · rw [fixed] at chars
    cases chars
  · rw [fixed] at chars
    cases chars
  · obtain ⟨rfl, -⟩ := List.cons.inj (chars.symm.trans split)
    rcases group with other | other <;> exact absurd other (by decide)

/-- The first table cannot be printed, so what the exit code says of the solution is lost, while the
problem is a valid one. -/
theorem run?_solve_longName :
    ∃ o o', run? (idleFiles (Table.letters 65536)) ["solve", "p.json", "--steps"] = some o ∧
      run? (idleFiles (Table.letters 65536)) ["check", "p.json"] = some o' ∧
      o.exit = 101 ∧ o'.exit = 0 := by
  have solving : parse? ["solve", "p.json", "--steps"] =
      some (.invoke ⟨none, 0, false, .solve "p.json" none false true none⟩) := by decide +kernel
  have checking : parse? ["check", "p.json"] =
      some (.invoke ⟨none, 0, false, .check "p.json" false⟩) := by decide +kernel
  have valid := validate_idle (not_hasReservedShape_letters (by decide : 0 < 65536))
  obtain ⟨_, _, wide, -, exit⟩ :=
    Invocation.exits_of_valid (i := ⟨none, 0, false, .solve "p.json" none false true none⟩)
      (j := ⟨none, 0, false, .check "p.json" false⟩) rfl rfl rfl (reads_idleFiles _) valid
  have label : Table.letters 65536 ∈ (idle (Table.letters 65536)).layout.labels := by
    rw [Layout.labels_eq]
    exact List.mem_append_left _ List.mem_cons_self
  have long : 65535 < (Table.letters 65536).length := by
    rw [Table.length_letters]
    decide
  refine ⟨_, _, ?_, ?_, wide ⟨rfl, rfl, _, label, long⟩, exit⟩
  · rw [run?, solving]
    rfl
  · rw [run?, checking]
    rfl

end CommandLine

end LinearProgram
