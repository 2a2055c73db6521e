import FrameFilter.Hex.Line
import FrameFilter.Log.Level
import FrameFilter.Account.Report

namespace FrameFilter.Log

-- The parts of the program that write records, each to a logger of its own.
inductive Source where
  | command
  | hex
  | filter
  | session
  deriving DecidableEq

namespace Source

def logger : Source → Text
  | command => "gortail.cli".toList
  | hex     => "gortail.codec.hex".toList
  | filter  => "gortail.frame.classifier".toList
  | session => "gortail.stream".toList

def threshold (s : Source) (setting : Option Text) : Level :=
  .configured s.logger setting

end Source

-- What a record reports.
inductive Notice where
  | droppedDigit (length : Nat)
  | malformedFrame (fault : Frame.Fault)
  | suppressedRequest (header : Frame.Header) (endpoint allowed : Text)
  | suppressedResponse (header : Frame.Header)
  | undecodableLine (number : Nat) (fault : Hex.Fault)
  | discarded (length : Nat)
  | options (allowed : Text) (mode : Hex.Mode)
  | processed (counters : Counters)
  | undecodableLines (count : Nat)
  | summary (counters : Counters)

namespace Notice

-- Only the verdicts that are not a matter of course are reported.
def ofVerdict? (allowed : Text) : Verdict → Option Notice
  | .malformed fault       => some (malformedFrame fault)
  | .suppressedRequest h e => some (suppressedRequest h e allowed)
  | .suppressedResponse h  => some (suppressedResponse h)
  | _                      => none

def source : Notice → Source
  | droppedDigit _         => .hex
  | malformedFrame _       => .filter
  | suppressedRequest _ .. => .filter
  | suppressedResponse _   => .filter
  | undecodableLine ..     => .session
  | discarded _            => .session
  | options ..             => .command
  | processed _            => .command
  | undecodableLines _     => .command
  | summary _              => .command

def level : Notice → Level
  | undecodableLine ..     => .warning
  | undecodableLines _     => .warning
  | processed _            => .info
  | summary _              => .info
  | _                      => .debug

def message : Notice → Text
  | droppedDigit n =>
    "Dropping trailing odd hex character from ".toList ++ Numeral.ofNat n
      ++ "-character line".toList
  | malformedFrame fault =>
    "Showing malformed frame: ".toList ++ fault.message
  | suppressedRequest h e allowed =>
    "Suppressing ".toList ++ h.tag ++ ": ".toList ++ e ++ " outside ".toList ++ allowed
  | suppressedResponse h =>
    "Hiding response ".toList ++ h.tag ++ " (latency: ".toList
      ++ (h.latency.map Numeral.ofInt).getD "None".toList ++ ")".toList
  | undecodableLine n fault =>
    "Skipping undecodable line ".toList ++ Numeral.ofNat n ++ ": ".toList ++ fault.message
  | discarded n =>
    "Discarding ".toList ++ Numeral.ofNat n ++ " undecoded character(s) at end of input".toList
  | options allowed mode =>
    "Filtering frames outside ".toList ++ Text.quote allowed ++ " (strict hex: ".toList
      ++ (if mode = .strict then "True".toList else "False".toList) ++ ")".toList
  | processed c =>
    "Processed ".toList ++ Numeral.ofNat c.read ++ " lines: ".toList ++ Numeral.ofNat c.shown
      ++ " shown, ".toList ++ Numeral.ofNat c.hidden ++ " hidden".toList
  | undecodableLines n =>
    "Undecodable lines: ".toList ++ Numeral.ofNat n
  | summary c =>
    "Run summary: ".toList ++ Report.ofCounters c

-- The record is one line, with the time at which it is written.
def record (n : Notice) (time : Text) : Text :=
  " | ".toList.intercalate [time, n.level.name, n.source.logger, n.message] ++ ['\n']

def isAdmitted (n : Notice) (setting : Option Text) : Bool :=
  (n.source.threshold setting).admits n.level

end Notice
end FrameFilter.Log
