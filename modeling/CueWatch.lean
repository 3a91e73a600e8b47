import CueWatch.FileTree.Listing
import CueWatch.Panel.App
import CueWatch.Proofs.Diagnostic.LocationLine
import CueWatch.Proofs.Diagnostic.LookBack
import CueWatch.Proofs.Diagnostic.RoundTrip
import CueWatch.Proofs.ModuleRoot.Ladder
import CueWatch.Proofs.Attempt
import CueWatch.Proofs.Session.Lint
import CueWatch.Proofs.Session.Request
import CueWatch.Proofs.Session.Flags
import CueWatch.Proofs.Session.Published
import CueWatch.Proofs.Settings.Json.RoundTrip
import CueWatch.Proofs.Settings.Json.Limits
import CueWatch.Proofs.FileTree.Walk
import CueWatch.Proofs.Host.Files
import CueWatch.Proofs.Path.Spelling
import CueWatch.Proofs.Settings.Persistence
import CueWatch.Proofs.Settings.Template
import CueWatch.Proofs.Host.Processes
import CueWatch.Proofs.Session.Processes
import CueWatch.Proofs.Session.Success
import CueWatch.Proofs.CommandLine.Course
import CueWatch.Proofs.CommandLine.OneShot
import CueWatch.Proofs.Host.Extension
import CueWatch.Proofs.Path.Normal
import CueWatch.Proofs.CommandLine.SetUp
import CueWatch.Proofs.CommandLine.ExitCode
import CueWatch.Proofs.ModuleRoot.Containment
import CueWatch.Proofs.Session.Results
import CueWatch.Proofs.Session.Saved
import CueWatch.Proofs.Session.Upkeep
import CueWatch.Proofs.Session.Vetting
import CueWatch.Proofs.FileTree.Sound
import CueWatch.Proofs.Host.Upkeep
import CueWatch.Proofs.Settings.Json.Acceptance
import CueWatch.Proofs.Settings.Json.Grammar
import CueWatch.Proofs.Settings.Loading
import CueWatch.Proofs.Session.EvalData
import CueWatch.Proofs.Session.Telling
import CueWatch.Proofs.Panel.Shown
import CueWatch.Proofs.Host.Confinement
import CueWatch.Proofs.Settings.Directory
import CueWatch.Proofs.Journal.LogFile
import CueWatch.Proofs.Session.Creation
import CueWatch.Proofs.Session.Confinement
import CueWatch.Proofs.CommandLine.Residue
import CueWatch.Proofs.Diagnostic.Readable
import CueWatch.Proofs.Diagnostic.Piecewise
import CueWatch.Proofs.Text.Words
import CueWatch.Proofs.Panel.FlagsPrompt
import CueWatch.Proofs.Host.Settled
import CueWatch.Proofs.Watch.Debounce
import CueWatch.Proofs.Watch.Delivery
import CueWatch.Proofs.Watch.LifeCycle
import CueWatch.Console.Standard
import CueWatch.Proofs.CommandLine.EvalOutput
import CueWatch.Proofs.Session.Outcome
import CueWatch.Proofs.Panel.Spans
import CueWatch.Proofs.Text.SourceLines
import CueWatch.Proofs.FileTree.Upward
import CueWatch.Proofs.Panel.Excerpt
import CueWatch.Proofs.Scratch.Ownership
import CueWatch.Proofs.Diagnostic.Publication
import CueWatch.Proofs.Cue.Evaluation
import CueWatch.Proofs.Diagnostic.LineByLine
