import StackLowering.Machine.Failure
import StackLowering.Main
import StackLowering.Target.Outline
import StackLowering.Proofs.Lowering.Listing
import StackLowering.Proofs.Machine.Assembly
import StackLowering.Proofs.Labels.Uniqueness
import StackLowering.Proofs.Labels.Shadowing
import StackLowering.Proofs.Machine.Crossing
import StackLowering.Proofs.Semantics.Reference
import StackLowering.Proofs.Lowering.Effects
import StackLowering.Proofs.Lowering.Meaning
import StackLowering.Proofs.Semantics.Installation
import StackLowering.Proofs.Semantics.Placement
import StackLowering.Proofs.Semantics.Simulation
import StackLowering.Proofs.Semantics.Frames
import StackLowering.Proofs.Semantics.Activity
import StackLowering.Proofs.Semantics.FrameChain
import StackLowering.Proofs.Semantics.CallDiscipline
import StackLowering.Proofs.Text.Words
import StackLowering.Proofs.Text.Tokens
import StackLowering.Proofs.Command.Grammar
import StackLowering.Proofs.Command.Canonical
import StackLowering.Proofs.Labels.Room
import StackLowering.Proofs.Verdict
import StackLowering.Proofs.Lowering.Refusal
import StackLowering.Proofs.Job.Admission
import StackLowering.Proofs.Source.Lines
import StackLowering.Proofs.Job.Blame
import StackLowering.Proofs.Assembly.Reader
import StackLowering.Proofs.Lowering.Spelling
import StackLowering.Proofs.Job.Output
import StackLowering.Proofs.Labels.Following
import StackLowering.Proofs.Job.Extension
import StackLowering.Proofs.Job.Annotation
import StackLowering.Proofs.Agreement
import StackLowering.Proofs.Command.SameWords
import StackLowering.Proofs.Job.Layout
import StackLowering.Proofs.Machine.Variables
import StackLowering.Proofs.Job.Statics
import StackLowering.Proofs.Semantics.SignedOrder
import StackLowering.Proofs.Semantics.Unwinding
import StackLowering.Proofs.Lowering.RoundTrip
import StackLowering.Proofs.Storage.Reordering
import StackLowering.Proofs.CommandLine.Reading
import StackLowering.Proofs.CommandLine.Writing
import StackLowering.Proofs.Sequencing
import StackLowering.Proofs.Lowering.Accounting
import StackLowering.Proofs.Labels.Attempts
import StackLowering.Proofs.Source.Coverage
import StackLowering.Proofs.Command.Inverse
import StackLowering.Proofs.Command.Scanning
import StackLowering.Proofs.Storage.Destination
import StackLowering.Proofs.Storage.Siblings
import StackLowering.Proofs.CommandLine.DefaultOutput
import StackLowering.Proofs.CommandLine.Preservation
import StackLowering.Proofs.Job.Culprit
import StackLowering.Proofs.CommandLine.Attribution
import StackLowering.Proofs.Machine.Resolution
import StackLowering.Proofs.Text.EditDistance
import StackLowering.Proofs.Text.Nearest
import StackLowering.Proofs.Json.Scalar
import StackLowering.Proofs.Json.Record
import StackLowering.Proofs.Target.Description
