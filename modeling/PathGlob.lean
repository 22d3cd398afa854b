import PathGlob.GlobSet.History
import PathGlob.Json.Construction
import PathGlob.Json.Faults
import PathGlob.Main
import PathGlob.Program
import PathGlob.Proofs.Arguments.Reading
import PathGlob.Proofs.Command.Accounting
import PathGlob.Proofs.Command.Agreement
import PathGlob.Proofs.Command.Explain
import PathGlob.Proofs.Command.Filter
import PathGlob.Proofs.Command.Merging
import PathGlob.Proofs.Command.Outcome
import PathGlob.Proofs.Command.Pipe
import PathGlob.Proofs.Expression.Escape
import PathGlob.Proofs.Expression.Size
import PathGlob.Proofs.Expression.Unclosed
import PathGlob.Proofs.Glob.Errors
import PathGlob.Proofs.Glob.Joining
import PathGlob.Proofs.Glob.Matching
import PathGlob.Proofs.Glob.Quoting
import PathGlob.Proofs.Glob.Spelling
import PathGlob.Proofs.GlobSet.History
import PathGlob.Proofs.Json.Faults
import PathGlob.Proofs.Json.Reading
import PathGlob.Proofs.Json.RoundTrip
import PathGlob.Proofs.Log.Filter
import PathGlob.Proofs.Pattern.Joining
import PathGlob.Proofs.Pattern.Spelling
import PathGlob.Proofs.Pattern.StrayCloser
import PathGlob.Proofs.Rules.Reading
import PathGlob.Proofs.Sequence.DoubleStar
import PathGlob.Proofs.Text.Bytes
import PathGlob.Proofs.Text.Lines
import PathGlob.Proofs.Text.Quoted
import PathGlob.Sequence.Plain
