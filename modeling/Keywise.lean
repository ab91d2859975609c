import Keywise.Buffer
import Keywise.Main
import Keywise.Pattern.Bounds
import Keywise.Proofs.KeyMap.Index
import Keywise.Proofs.KeyMap.Matching
import Keywise.Proofs.KeyMap.History
import Keywise.Proofs.Typeahead.Translation
import Keywise.Proofs.Session.Ending
import Keywise.Proofs.Typeahead.Release
import Keywise.Proofs.Session.Typing
import Keywise.Proofs.Key.Notation
import Keywise.Proofs.Text.Lines
import Keywise.Proofs.Text.Resting
import Keywise.Proofs.Editor.Edited
import Keywise.Proofs.Mode.Effect
import Keywise.Proofs.Mode.Asking
import Keywise.Proofs.Session.Calls
import Keywise.Proofs.Session.InStep
import Keywise.Proofs.Session.Failure
import Keywise.Proofs.Mode.Resting
import Keywise.Proofs.Session.Resting
import Keywise.Proofs.Editor.Registers
import Keywise.Proofs.Text.Rows
import Keywise.Proofs.Editor.PutLines
import Keywise.Proofs.Mode.Writing
import Keywise.Proofs.Session.LineRegisters
import Keywise.Proofs.Mode.Unfinished
import Keywise.Proofs.Session.Unfinished
import Keywise.Proofs.Editor.WholeLines
import Keywise.Proofs.Session.WholeLines
import Keywise.Proofs.Typeahead.Segments
import Keywise.Proofs.Session.Given
import Keywise.Proofs.Session.Abort
import Keywise.Proofs.Session.Expansion
import Keywise.Proofs.Mode.Argument
import Keywise.Proofs.Session.Argument
import Keywise.Proofs.Editor.Scope
import Keywise.Proofs.Mode.Scope
import Keywise.Proofs.Register.History
import Keywise.Proofs.Session.Scope
import Keywise.Proofs.Mode.Counts
import Keywise.Proofs.Session.Counts
import Keywise.Proofs.Session.Bursts
import Keywise.Proofs.Motion.Words
import Keywise.Proofs.Program.WriteBack
import Keywise.Proofs.Config.Commands
import Keywise.Proofs.Session.GoToLine
import Keywise.Proofs.Motion.Runs
import Keywise.Proofs.Motion.Targets
import Keywise.Proofs.Motion.SubwordSteps
import Keywise.Proofs.Motion.SubwordCounts
import Keywise.Proofs.Motion.SubwordObject
import Keywise.Proofs.Motion.Searches
import Keywise.Proofs.Session.Columns
import Keywise.Proofs.Mode.TakingBack
import Keywise.Proofs.Session.LineCompletion
import Keywise.Proofs.Session.ForcedLines
import Keywise.Proofs.Motion.LineCounts
import Keywise.Proofs.Motion.CountSums
import Keywise.Proofs.Motion.Within
import Keywise.Proofs.Session.CharCommands
import Keywise.Proofs.Text.Projection
import Keywise.Proofs.Mode.Breaks
import Keywise.Proofs.Session.Delivery
