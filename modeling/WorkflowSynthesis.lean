import WorkflowSynthesis.Classification.Writer
import WorkflowSynthesis.CommandLine.Surroundings
import WorkflowSynthesis.Configuration.Summary
import WorkflowSynthesis.Main
import WorkflowSynthesis.Notes.Writer
import WorkflowSynthesis.Proofs.Classification.LetterCase
import WorkflowSynthesis.Proofs.Classification.Mentions
import WorkflowSynthesis.Proofs.CommandLine.Override
import WorkflowSynthesis.Proofs.CommandLine.Program
import WorkflowSynthesis.Proofs.Configuration.Faults
import WorkflowSynthesis.Proofs.Decimal.Rounding
import WorkflowSynthesis.Proofs.Json.Overflow
import WorkflowSynthesis.Proofs.Notes.Repetition
import WorkflowSynthesis.Proofs.Notes.Sentence
import WorkflowSynthesis.Proofs.Notes.Stacking
import WorkflowSynthesis.Proofs.Plan.Diagnostics
import WorkflowSynthesis.Proofs.Review.Losses
import WorkflowSynthesis.Proofs.Review.Reachability
import WorkflowSynthesis.Proofs.Review.Rearranged
import WorkflowSynthesis.Proofs.Review.Requirements
import WorkflowSynthesis.Proofs.Schedule
import WorkflowSynthesis.Proofs.Settings.RoundTrip
import WorkflowSynthesis.Proofs.Sharing
import WorkflowSynthesis.Proofs.Workflow.EdgeLog
import WorkflowSynthesis.Proofs.Workflow.Walk
import WorkflowSynthesis.Review.Writer
import WorkflowSynthesis.Workflow.Reader
