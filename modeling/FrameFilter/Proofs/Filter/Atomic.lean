import FrameFilter.Log.Notice
import FrameFilter.Proofs.Frame.Endpoint
import FrameFilter.Proofs.Frame.Grammar

namespace FrameFilter

open Numeral (Fits)

namespace Numeral

-- Writing a number has the same limit as reading one.
def write? (n : Int) : Option Text :=
  if Fits n then some (ofInt n) else none

theorem write?_of_fits (h : Fits n) : write? n = some (ofInt n) :=
  if_pos h

theorem mapM_write?_of_fits {n? : Option Int} (h : ∀ n ∈ n?, Fits n) :
    n?.mapM write? = some (n?.map ofInt) := by
  cases n?
  case none   => rfl
  case some n => simp [write?_of_fits (h n rfl)]

theorem fits_of_lt_two {n : Nat} (h : n < 2) : Fits n := by
  have hd : ∀ n < 2, Fits (n : Nat) := by decide
  exact hd n h

end Numeral

-- The message of a fault, which does not come about if a number in it is too long to be written.
def Frame.Fault.compose? : Fault → Option Text
  | fewTokens n l =>
    (Numeral.write? n).map fun count =>
      "header needs type and tag, got ".toList ++ count ++ " token(s): ".toList ++ Text.quote l
  | fault => some fault.message

-- The same for the records on verdicts. No other number comes up in one of them.
def Log.Notice.compose? : Notice → Option Text
  | malformedFrame fault => fault.compose?.map ("Showing malformed frame: ".toList ++ ·)
  | suppressedResponse h =>
    (h.latency.mapM Numeral.write?).map fun latency =>
      "Hiding response ".toList ++ h.tag ++ " (latency: ".toList ++ latency.getD "None".toList
        ++ ")".toList
  | n => some n.message

namespace Frame

variable {f : Frame}

theorem lt_two_of_message (hm : f.message = .error (.fewTokens n l)) : n < 2 := by
  cases hm ▸ f.outcome
  case noHeader hh =>
    cases Header.outcome f.top
    case few hl hr  => cases hh.symm.trans hr; exact hl
    case bad hr     => cases hh.symm.trans hr
    case good hr    => cases hh.symm.trans hr
  case noTarget he =>
    rw [target] at he
    split at he
    · cases he
    · cases (endpoint_eq_error_iff.mp he).right

theorem compose?_of_message (hm : f.message = .error fault) :
    fault.compose? = some fault.message := by
  cases fault
  case fewTokens n l =>
    have hn : Numeral.write? n = some (Numeral.ofInt n) :=
      Numeral.write?_of_fits <| Numeral.fits_of_lt_two <| lt_two_of_message hm
    rw [Fault.compose?, hn]
    rfl
  all_goals rfl

end Frame

namespace Filter

variable {f : Filter} {frame : Frame}

-- A frame is judged step by step. The pending tags change first, then the record on the verdict is
-- put together, even if it is not written, and the verdict comes last. If the record does not come
-- about, the tags have changed without a verdict.
def classify (f : Filter) (frame : Frame) : Option (Verdict × Option Text) × Filter :=
  let (v, g) := f.judge frame
  let record := (Log.Notice.ofVerdict? f.allowed v).mapM Log.Notice.compose?
  (record.map (v, ·), g)

theorem Judged.compose?_eq (hj : f.Judged frame v g)
    (hn : Log.Notice.ofVerdict? f.allowed v = some n) : n.compose? = some n.message := by
  cases hj
  case malformed hm =>
    cases hn
    rw [Log.Notice.compose?, Frame.compose?_of_message hm]
    rfl
  case suppressedResponse h hm hp =>
    cases hn
    have hh : frame.header = .ok h := Frame.header_of_message hm
    have ⟨_, _, hf⟩ := Frame.Header.fits_of_read hh
    rw [Log.Notice.compose?, Numeral.mapM_write?_of_fits hf]
    rfl
  case suppressedRequest => cases hn; rfl
  all_goals cases hn

theorem classify_eq (f : Filter) (frame : Frame) :
    f.classify frame =
      (some ((f.judge frame).1,
          (Log.Notice.ofVerdict? f.allowed (f.judge frame).1).map (·.message)),
        (f.judge frame).2) := by
  have ⟨v, g, he, hj⟩ := f.judged frame
  simp only [classify, he]
  cases hn : Log.Notice.ofVerdict? f.allowed v
  case none   => rfl
  case some n => simp [hj.compose?_eq hn]

-- Judging a frame always comes to a verdict. The pending tags change by the tag of its header and
-- only together with the verdict that says so.
theorem classify_atomic (f : Filter) (text : Text) :
    (∃ v g, f.classify (.ofText text) =
        (some (v, (Log.Notice.ofVerdict? f.allowed v).map (·.message)), g) ∧
      f.judge (.ofText text) = (v, g) ∧ g.allowed = f.allowed ∧
      (v.reason = .suppressedRequest → ∃ h, (Frame.ofText text).header = .ok h ∧
        v.header? = some h ∧ ∀ tag, tag ∈ g.pending ↔ tag = h.tag ∨ tag ∈ f.pending) ∧
      (v.reason = .suppressedResponse → ∃ h, (Frame.ofText text).header = .ok h ∧
        v.header? = some h ∧ h.tag ∈ f.pending ∧
        ∀ tag, tag ∈ g.pending ↔ tag ≠ h.tag ∧ tag ∈ f.pending) ∧
      (v.reason ≠ .suppressedRequest → v.reason ≠ .suppressedResponse → g = f) ∧
      (v.reason = .malformed ↔ (∃ fault, (Frame.ofText text).header = .error fault) ∨
        ∃ h, (Frame.ofText text).header = .ok h ∧ h.type = 1 ∧
          ∀ line, (Frame.ofText text).lines[1]? = some line → (Text.tokens line).length < 2)) ∧
    ∀ line h, Frame.Header.read line = .ok h →
      Fits h.type ∧ (∀ n ∈ h.timing, Fits n) ∧ ∀ n ∈ h.latency, Fits n := by
  have ⟨v, g, he, hj⟩ := f.judged (.ofText text)
  have hc := f.classify_eq (.ofText text)
  have ha : g.allowed = f.allowed := by
    have ha : (f.judge (.ofText text)).2.allowed = f.allowed := judge_allowed
    rwa [he] at ha
  rw [he] at hc
  refine ⟨⟨v, g, hc, he, ha, ?request, ?response, ?other, ?malformed⟩,
    fun _ _ => Frame.Header.fits_of_read⟩
  case request =>
    intro hr
    cases hj <;> cases hr
    case suppressedRequest h _ hm _ =>
      exact ⟨h, Frame.header_of_message hm, rfl, fun _ => TagSet.mem_insert⟩
  case response =>
    intro hr
    cases hj <;> cases hr
    case suppressedResponse h hm hp =>
      exact ⟨h, Frame.header_of_message hm, rfl, hp, fun _ => TagSet.mem_erase⟩
  case other =>
    intro h₁ h₂
    cases hj
    case suppressedRequest  => contradiction
    case suppressedResponse => contradiction
    all_goals rfl
  case malformed =>
    have hm : (f.judge (.ofText text)).1.reason = .malformed ↔ _ := reason_judge_eq_malformed_iff
    rw [he, Frame.exists_message_eq_error_iff] at hm
    simpa only [Frame.exists_target_eq_error_iff] using hm

-- The latency is negative, and its zeros and its underscore are not written again.
theorem classify_atomic_negative :
    let f := Filter.fresh "/api".toList
    let g := { f with pending := f.pending.insert "t".toList }
    g.classify (.ofText "2 t x -0_010\r\n".toList) =
      (some (.suppressedResponse ⟨2, "t".toList, none, some (-10)⟩,
        some "Hiding response t (latency: -10)".toList), f) := by
  intro f g
  have ⟨⟨v, g', hc, hj, _⟩, _⟩ := classify_atomic g "2 t x -0_010\r\n".toList
  have hv : g.judge (.ofText "2 t x -0_010\r\n".toList) =
      (.suppressedResponse ⟨2, "t".toList, none, some (-10)⟩, f) := rfl
  cases hj.symm.trans hv
  exact hc

end Filter
end FrameFilter
