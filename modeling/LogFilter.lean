import LogFilter.Main
import LogFilter.Query.Edit
import LogFilter.Text.Basic
import LogFilter.Proofs.Query.ServerText
import LogFilter.Proofs.Query.Insertion
import LogFilter.Proofs.Query.Places
import LogFilter.Proofs.Query.Scanner
import LogFilter.Proofs.Query.Tokens
import LogFilter.Proofs.Query.Offsets
import LogFilter.Proofs.Query.Spacing
import LogFilter.Proofs.Query.Settling
import LogFilter.Proofs.Query.Locality
import LogFilter.Proofs.Command.Pipeline
import LogFilter.Proofs.Query.Continuation
import LogFilter.Proofs.Query.Replacement
import LogFilter.Proofs.Query.QuotingLaws
import LogFilter.Proofs.Query.Segments
import LogFilter.Proofs.Query.Cursor
import LogFilter.Proofs.Display.Highlight
import LogFilter.Proofs.Profile.Warnings
import LogFilter.Proofs.Query.TypedKeys
import LogFilter.Proofs.Query.Problems
import LogFilter.Proofs.Command.ExitCode
import LogFilter.Proofs.Command.Settings
import LogFilter.Proofs.Profile.Untypeable
import LogFilter.Proofs.Command.QuoteNumber
import LogFilter.Proofs.Json.Spellings
import LogFilter.Proofs.Query.Unescaping
import LogFilter.Proofs.Query.Words
