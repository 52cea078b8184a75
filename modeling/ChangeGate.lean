import ChangeGate.Main
import ChangeGate.Proofs.Architecture.RoundTrip
import ChangeGate.Proofs.Change.Listing
import ChangeGate.Proofs.Command.Exit
import ChangeGate.Proofs.Fix.Insertion
import ChangeGate.Proofs.Policy.Refusal
import ChangeGate.Proofs.Policy.RoundTrip
import ChangeGate.Proofs.Review.Effect
import ChangeGate.Proofs.Starter.Fresh
import ChangeGate.Proofs.Starter.Gate
import ChangeGate.Proofs.Token.Pieces
import ChangeGate.Proofs.Verdict.Rearrangement
import ChangeGate.Proofs.Verdict.Tags
import ChangeGate.Proofs.Verdict.Unknown
import ChangeGate.Verdict.Schema
import ChangeGate.Proofs.Architecture.Names
import ChangeGate.Proofs.Change.Absent
import ChangeGate.Proofs.Fix.Convergence
import ChangeGate.Proofs.Fix.Batches
import ChangeGate.Proofs.Fix.Ownership
import ChangeGate.Proofs.Report.Items
import ChangeGate.Proofs.Plan.Document
import ChangeGate.Proofs.Glob.Owner
import ChangeGate.Proofs.Glob.Segments
import ChangeGate.Proofs.Diff.RoundTrip
import ChangeGate.Proofs.Change.Fallback
import ChangeGate.Proofs.Scope.Priority
import ChangeGate.Proofs.Scope.Lines
import ChangeGate.Proofs.Fix.Effect
import ChangeGate.Proofs.Change.Placeholder
import ChangeGate.Proofs.Predicate.ShortCircuit
import ChangeGate.Proofs.Report.Markup
import ChangeGate.Proofs.Starter.Partition
import ChangeGate.Proofs.Token.Stacked
import ChangeGate.Proofs.Repository.Issues
