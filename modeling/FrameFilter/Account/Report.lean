import FrameFilter.Account.Counters
import FrameFilter.Text.Numeral

namespace FrameFilter

-- An account in one line, as a JSON object of numbers. The fields come in the order of their names,
-- which are plain words and need no escapes.
namespace Report

def field (name value : Text) : Text :=
  '\x22' :: name ++ '\x22' :: ':' :: ' ' :: value

def object (fields : List (Text × Text)) : Text :=
  '\x7b' :: ", ".toList.intercalate (fields.map fun (n, v) => field n v) ++ ['\x7d']

-- A reason that never came up is left out.
def ofReasons (t : Tally Reason) : Text :=
  object <| (Reason.all.filter (t.count · != 0)).map fun r => (r.name, Numeral.ofNat (t.count r))

def ofCounters (c : Counters) : Text :=
  object [
    ("decode_errors".toList, Numeral.ofNat c.undecodable),
    ("frames_hidden".toList, Numeral.ofNat c.hidden),
    ("frames_shown".toList, Numeral.ofNat c.shown),
    ("lines_read".toList, Numeral.ofNat c.read),
    ("malformed_frames".toList, Numeral.ofNat c.malformed),
    ("pending_tags".toList, Numeral.ofNat c.pending),
    ("reasons".toList, ofReasons c.reasons)]

end Report
end FrameFilter
