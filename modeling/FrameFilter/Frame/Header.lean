import FrameFilter.Text.Blank
import FrameFilter.Text.Numeral
import FrameFilter.Text.Quoted

namespace FrameFilter.Frame

-- Why a frame is malformed.
inductive Fault where
  | fewTokens (count : Nat) (line : Text)
  | badKind (token : Text)
  | noRequestLine
  | noEndpoint (line : Text)
  deriving DecidableEq

def Fault.message : Fault → Text
  | fewTokens n l =>
    "header needs type and tag, got ".toList ++ Numeral.ofNat n ++ " token(s): ".toList
      ++ Text.quote l
  | badKind k     => "non-numeric payload type ".toList ++ Text.quote k
  | noRequestLine => "request frame has no request line".toList
  | noEndpoint l  => "request line has no endpoint: ".toList ++ Text.quote l

inductive Kind where
  | request
  | response
  | event
  deriving DecidableEq

namespace Kind

-- An event is a replayed response. It answers no request.
def ofNumber? : Int → Option Kind
  | 1 => some request
  | 2 => some response
  | 3 => some event
  | _ => none

def name : Kind → Text
  | request  => "REQUEST".toList
  | response => "RESPONSE".toList
  | event    => "EVENT".toList

end Kind

-- The first line of a frame. Its numbers are of any size, and those that are not of a known kind
-- are kept as well.
structure Header where
  type    : Int
  tag     : Text
  timing  : Option Int
  latency : Option Int
  deriving DecidableEq

namespace Header

-- What follows the fourth token is ignored. The timing and the latency are absent where their token
-- is, or where it is not a numeral.
def read (line : Text) : Except Fault Header :=
  match Text.tokens line with
  | kind :: tag :: others =>
    match Numeral.read? kind with
    | none   => .error (.badKind kind)
    | some n =>
      .ok {
        type    := n
        tag     := tag
        timing  := others[0]? >>= Numeral.read?
        latency := others[1]? >>= Numeral.read? }
  | tokens => .error (.fewTokens tokens.length line)

def kind? (h : Header) : Option Kind :=
  Kind.ofNumber? h.type

end Header
end FrameFilter.Frame
