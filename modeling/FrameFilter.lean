import FrameFilter.Account.Counters
import FrameFilter.Account.Report
import FrameFilter.Account.Tally
import FrameFilter.Command.Options
import FrameFilter.Command.Run
import FrameFilter.Filter.Basic
import FrameFilter.Filter.TagSet
import FrameFilter.Filter.Verdict
import FrameFilter.Frame.Basic
import FrameFilter.Frame.Header
import FrameFilter.Hex.Decoder
import FrameFilter.Hex.Digit
import FrameFilter.Hex.Line
import FrameFilter.Hex.Pair
import FrameFilter.Log.Level
import FrameFilter.Log.Notice
import FrameFilter.Log.Registry
import FrameFilter.Main
import FrameFilter.Proofs.Account.Balance
import FrameFilter.Proofs.Account.Counters
import FrameFilter.Proofs.Command.Arguments
import FrameFilter.Proofs.Command.Echo
import FrameFilter.Proofs.Command.Presentation
import FrameFilter.Proofs.Command.Process
import FrameFilter.Proofs.Command.Records
import FrameFilter.Proofs.Command.Spelling
import FrameFilter.Proofs.Filter.Atomic
import FrameFilter.Proofs.Filter.Forgetting
import FrameFilter.Proofs.Filter.History
import FrameFilter.Proofs.Filter.Judge
import FrameFilter.Proofs.Filter.Ledger
import FrameFilter.Proofs.Filter.Run
import FrameFilter.Proofs.Filter.Separation
import FrameFilter.Proofs.Filter.Widening
import FrameFilter.Proofs.Frame.Endpoint
import FrameFilter.Proofs.Frame.Grammar
import FrameFilter.Proofs.Frame.Header
import FrameFilter.Proofs.Frame.Lines
import FrameFilter.Proofs.Frame.Message
import FrameFilter.Proofs.Frame.RoundTrip
import FrameFilter.Proofs.Hex.Decoder
import FrameFilter.Proofs.Hex.Held
import FrameFilter.Proofs.Hex.Line
import FrameFilter.Proofs.Hex.Number
import FrameFilter.Proofs.Hex.Pairs
import FrameFilter.Proofs.Hex.Progress
import FrameFilter.Proofs.Hex.Refusal
import FrameFilter.Proofs.Hex.RoundTrip
import FrameFilter.Proofs.Log.Registry
import FrameFilter.Proofs.Log.Unbroken
import FrameFilter.Proofs.Session.Conservation
import FrameFilter.Proofs.Session.Console
import FrameFilter.Proofs.Session.Encoded
import FrameFilter.Proofs.Session.Held
import FrameFilter.Proofs.Session.Hidden
import FrameFilter.Proofs.Session.Line
import FrameFilter.Proofs.Session.Modes
import FrameFilter.Proofs.Session.Outcome
import FrameFilter.Proofs.Session.Pool
import FrameFilter.Proofs.Session.Presentation
import FrameFilter.Proofs.Session.Records
import FrameFilter.Proofs.Session.Refused
import FrameFilter.Proofs.Session.Splitting
import FrameFilter.Proofs.Session.Widening
import FrameFilter.Proofs.Text.Newline
import FrameFilter.Proofs.Text.Numeral
import FrameFilter.Proofs.Text.Token
import FrameFilter.Proofs.Text.Unbroken
import FrameFilter.Proofs.Utf8.Ascii
import FrameFilter.Proofs.Utf8.Decoder
import FrameFilter.Proofs.Utf8.Encoding
import FrameFilter.Proofs.Utf8.WellFormed
import FrameFilter.Session.Basic
import FrameFilter.Session.Run
import FrameFilter.Text.Basic
import FrameFilter.Text.Blank
import FrameFilter.Text.Digit
import FrameFilter.Text.Newline
import FrameFilter.Text.Numeral
import FrameFilter.Text.Printable
import FrameFilter.Text.Quoted
import FrameFilter.Text.Upper
import FrameFilter.Utf8.Basic
import FrameFilter.Utf8.Decode
import FrameFilter.Utf8.Decoder
