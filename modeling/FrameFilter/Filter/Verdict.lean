import FrameFilter.Frame.Basic

namespace FrameFilter

-- Why a frame is shown or hidden, in the order of the names.
inductive Reason where
  | allowedEndpoint
  | event
  | malformed
  | suppressedRequest
  | suppressedResponse
  | unknownType
  | unmatchedResponse
  deriving DecidableEq

def Reason.all : List Reason :=
  [.allowedEndpoint, .event, .malformed, .suppressedRequest, .suppressedResponse, .unknownType,
    .unmatchedResponse]

def Reason.name : Reason → Text
  | allowedEndpoint    => "allowed-endpoint".toList
  | event              => "event".toList
  | malformed          => "malformed".toList
  | suppressedRequest  => "suppressed-request".toList
  | suppressedResponse => "suppressed-response".toList
  | unknownType        => "unknown-type".toList
  | unmatchedResponse  => "unmatched-response".toList

theorem Reason.mem_all (r : Reason) : r ∈ all := by
  cases r <;> simp [all]

inductive Verdict where
  | allowedEndpoint (header : Frame.Header) (endpoint : Text)
  | event (header : Frame.Header)
  | malformed (fault : Frame.Fault)
  | suppressedRequest (header : Frame.Header) (endpoint : Text)
  | suppressedResponse (header : Frame.Header)
  | unknownType (header : Frame.Header)
  | unmatchedResponse (header : Frame.Header)
  deriving DecidableEq

namespace Verdict

def reason : Verdict → Reason
  | allowedEndpoint ..    => .allowedEndpoint
  | event ..              => .event
  | malformed ..          => .malformed
  | suppressedRequest ..  => .suppressedRequest
  | suppressedResponse .. => .suppressedResponse
  | unknownType ..        => .unknownType
  | unmatchedResponse ..  => .unmatchedResponse

-- Only suppression hides a frame.
def isShown : Verdict → Bool
  | suppressedRequest ..  => false
  | suppressedResponse .. => false
  | _                     => true

theorem isShown_congr {v w : Verdict} (h : v.reason = w.reason) : v.isShown = w.isShown := by
  cases v <;> cases w <;> cases h <;> rfl

def header? : Verdict → Option Frame.Header
  | allowedEndpoint h _   => some h
  | event h               => some h
  | malformed _           => none
  | suppressedRequest h _ => some h
  | suppressedResponse h  => some h
  | unknownType h         => some h
  | unmatchedResponse h   => some h

def endpoint? : Verdict → Option Text
  | allowedEndpoint _ e   => some e
  | suppressedRequest _ e => some e
  | _                     => none

end Verdict
end FrameFilter
