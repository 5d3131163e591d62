import LinearProgram.Main
import LinearProgram.Proofs.Infeasibility
import LinearProgram.Proofs.Soundness
import LinearProgram.Proofs.Course
import LinearProgram.Proofs.Replay
import LinearProgram.Proofs.Budget
import LinearProgram.Proofs.Labels
import LinearProgram.Proofs.UnitBasis
import LinearProgram.Proofs.KeptArtificials
import LinearProgram.Proofs.ObjectiveRow
import LinearProgram.Proofs.Feasibility
import LinearProgram.Proofs.ObjectiveValue
import LinearProgram.Proofs.Basis
import LinearProgram.Proofs.Rewriting
import LinearProgram.Proofs.Cycling
import LinearProgram.Proofs.Termination
import LinearProgram.Proofs.Progress
import LinearProgram.Proofs.Sense
import LinearProgram.Proofs.Sheet.Access
import LinearProgram.Proofs.Sheet.Operations
import LinearProgram.Proofs.Sheet.Choice
import LinearProgram.Proofs.Sheet.Solve
import LinearProgram.Proofs.Sheet.Start
import LinearProgram.Proofs.Sheet.Agreement
import LinearProgram.Proofs.Renaming
import LinearProgram.Proofs.OnePhase
import LinearProgram.Proofs.Commands
import LinearProgram.Proofs.Json.RoundTrip
import LinearProgram.Proofs.FloatingPoint.Sign
import LinearProgram.Proofs.Negation
import LinearProgram.Proofs.StandardForm
import LinearProgram.Proofs.Exchange
import LinearProgram.Proofs.FirstLoop
import LinearProgram.Proofs.Improvement
import LinearProgram.Proofs.FirstFault
import LinearProgram.Proofs.Draft.Completion
import LinearProgram.Proofs.Draft.Warnings
import LinearProgram.Proofs.Lookup
import LinearProgram.Proofs.Table
import LinearProgram.Proofs.CellWidth
import LinearProgram.Proofs.UnboundedColumn
import LinearProgram.Proofs.FiniteResults
