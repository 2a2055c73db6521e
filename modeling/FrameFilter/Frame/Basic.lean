import FrameFilter.Frame.Header

namespace FrameFilter

-- A frame is a header line and the lines after it.
structure Frame where
  top  : Text
  body : List Text
  deriving DecidableEq

-- What a frame says, as far as the filter is concerned.
inductive Message where
  | request (header : Frame.Header) (endpoint : Text)
  | response (header : Frame.Header)
  | event (header : Frame.Header)
  | unknown (header : Frame.Header)
  deriving DecidableEq

namespace Frame

def ofText (t : Text) : Frame :=
  let (top, body) := Text.cut (· = '\n') t
  { top, body }

def lines (f : Frame) : List Text :=
  f.top :: f.body

def header (f : Frame) : Except Fault Header :=
  Header.read f.top

def isPath (token : Text) : Bool :=
  token.head? = some '/'

-- The target of a request line. It is the second token if that is a path, else the first path after
-- it, and the second token after all if there is none.
def endpoint (requestLine : Text) : Except Fault Text :=
  match Text.tokens requestLine with
  | _ :: second :: others =>
    if isPath second then .ok second else .ok ((others.find? isPath).getD second)
  | _ => .error (.noEndpoint requestLine)

-- The endpoint is read from the second line, whatever the frame's kind.
def target (f : Frame) : Except Fault Text :=
  match f.body with
  | []     => .error .noRequestLine
  | l :: _ => endpoint l

-- Only a request has to have an endpoint.
def message (f : Frame) : Except Fault Message := do
  let h ← f.header
  match h.kind? with
  | some .request  => return .request h (← f.target)
  | some .response => return .response h
  | some .event    => return .event h
  | none           => return .unknown h

theorem lines_ofText (t : Text) : (ofText t).lines = Text.pieces (· = '\n') t :=
  rfl

end Frame
end FrameFilter
