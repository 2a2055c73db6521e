import FrameFilter.Command.Options
import FrameFilter.Session.Run

namespace FrameFilter.Command

def opening (o : Options) : List Event :=
  [.log (.options o.settings.allowed o.settings.mode)]

-- The summary, if it is wanted, once the session is over.
def closing (o : Options) (c : Counters) : List Event :=
  if o.summary then
    .log (.processed c)
      :: (if c.undecodable = 0 then [] else [.log (.undecodableLines c.undecodable)])
      ++ [.log (.summary c)]
  else []

-- The lines of the input, which may end in any of the usual ways.
def inputLines (input : Text) : List Text :=
  Text.lines (Text.normalizeNewlines input)

def events (o : Options) (input : Text) : List Event :=
  let session := Session.start o.settings
  let actions := Session.stream (inputLines input)
  opening o ++ session.events actions ++ closing o (session.after actions).counters

-- Nothing happens if the arguments stop the program.
def run (arguments : List Text) (input : Text) : Except Stop (List Event) :=
  return events (← Options.read arguments) input

-- What the caller is told when it is over.
def status : Except Stop α → UInt32
  | .ok _                => 0
  | .error (.answered _) => 0
  | .error (.refused _)  => 2

end FrameFilter.Command
