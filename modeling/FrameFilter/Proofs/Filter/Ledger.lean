import Mathlib.Data.List.Perm.Basic
import Mathlib.Tactic.Tauto
import FrameFilter.Filter.Basic

namespace FrameFilter

namespace TagSet

variable {s : TagSet}

theorem insert_of_mem (h : t ∈ s) : s.insert t = s :=
  dif_pos h

theorem tags_insert_of_not_mem (h : t ∉ s) : (s.insert t).tags = t :: s.tags :=
  congrArg tags <| dif_neg h

theorem perm_tags_erase (h : t ∈ s) : s.tags.Perm (t :: (s.erase t).tags) :=
  List.perm_cons_erase h

theorem size_eq_length_of_mem_iff {ts : List Text} (hn : ts.Nodup) (h : ∀ t, t ∈ s ↔ t ∈ ts) :
    s.size = ts.length :=
  ((List.perm_ext_iff_of_nodup s.nodup hn).mpr h).length_eq

end TagSet

-- The tag of a request that is hidden.
def Verdict.requestTag? : Verdict → Option Text
  | suppressedRequest h _ => some h.tag
  | _                     => none

-- The tag of a response that is hidden.
def Verdict.responseTag? : Verdict → Option Text
  | suppressedResponse h => some h.tag
  | _                    => none

theorem Verdict.isSome_requestTag? (v : Verdict) :
    v.requestTag?.isSome = (v.reason == .suppressedRequest) := by
  cases v <;> rfl

theorem Verdict.isSome_responseTag? (v : Verdict) :
    v.responseTag?.isSome = (v.reason == .suppressedResponse) := by
  cases v <;> rfl

-- A verdict, and the tags that were pending when it was reached.
structure Decision where
  pending : TagSet
  verdict : Verdict

namespace Decision

-- The tag of a hidden request, if it was pending already.
def repeatedTag? (d : Decision) : Option Text :=
  d.verdict.requestTag?.filter (· ∈ d.pending)

def requestTags (ds : List Decision) : List Text :=
  ds.filterMap (·.verdict.requestTag?)

def responseTags (ds : List Decision) : List Text :=
  ds.filterMap (·.verdict.responseTag?)

def repeatedTags (ds : List Decision) : List Text :=
  ds.filterMap repeatedTag?

-- The tags of those hidden requests that no hidden response follows.
def unansweredTags : List Decision → List Text
  | []      => []
  | d :: ds =>
    (d.verdict.requestTag?.filter (!(responseTags ds).contains ·)).toList ++ unansweredTags ds

variable {ds : List Decision}

theorem length_filterMap_tag {tag? : Verdict → Option Text} {r : Reason}
    (h : ∀ v, (tag? v).isSome = (v.reason == r)) (ds : List Decision) :
    (ds.filterMap (tag? ·.verdict)).length = (ds.map (·.verdict.reason)).count r := by
  rw [List.length_filterMap_eq_countP, List.count, List.countP_map]
  exact List.countP_congr fun d _ => by rw [h]; rfl

theorem repeatedTags_cons_of_mem (h : header.tag ∈ s) :
    repeatedTags (⟨s, .suppressedRequest header e⟩ :: ds) = header.tag :: repeatedTags ds :=
  List.filterMap_cons_some <| by simp [repeatedTag?, Verdict.requestTag?, h]

theorem repeatedTags_cons_of_not_mem (h : header.tag ∉ s) :
    repeatedTags (⟨s, .suppressedRequest header e⟩ :: ds) = repeatedTags ds :=
  List.filterMap_cons_none <| by simp [repeatedTag?, Verdict.requestTag?, h]

theorem responseTags_request :
    responseTags (⟨s, .suppressedRequest header e⟩ :: ds) = responseTags ds :=
  rfl

theorem responseTags_response :
    responseTags (⟨s, .suppressedResponse header⟩ :: ds) = header.tag :: responseTags ds :=
  rfl

theorem unansweredTags_response :
    unansweredTags (⟨s, .suppressedResponse header⟩ :: ds) = unansweredTags ds :=
  rfl

theorem mem_unansweredTags_request :
    tag ∈ unansweredTags (⟨s, .suppressedRequest header e⟩ :: ds) ↔
      tag = header.tag ∧ tag ∉ responseTags ds ∨ tag ∈ unansweredTags ds := by
  simp [unansweredTags, Verdict.requestTag?, Option.filter_eq_some_iff, eq_comm (a := tag)]

end Decision

open Decision

-- The decisions of a filter one after the other, from the tags that are pending before them to
-- those that are pending after them. A request whose tag is pending already changes nothing.
inductive Ledger : TagSet → List Decision → TagSet → Prop
  | nil : Ledger s [] s
  | request :
    header.tag ∉ s → Ledger (s.insert header.tag) ds s' →
      Ledger s (⟨s, .suppressedRequest header e⟩ :: ds) s'
  | again :
    header.tag ∈ s → Ledger s ds s' → Ledger s (⟨s, .suppressedRequest header e⟩ :: ds) s'
  | response :
    header.tag ∈ s → Ledger (s.erase header.tag) ds s' →
      Ledger s (⟨s, .suppressedResponse header⟩ :: ds) s'
  | shown : v.isShown → Ledger s ds s' → Ledger s (⟨s, v⟩ :: ds) s'

namespace Ledger

variable {s s' : TagSet} {ds : List Decision}

-- Whatever a filter decides can be entered in a ledger.
theorem judge {f : Filter} {frame : Frame} (h : Ledger (f.judge frame).2.pending ds s') :
    Ledger f.pending (⟨f.pending, (f.judge frame).1⟩ :: ds) s' := by
  cases hm : frame.message
  case error => simp only [Filter.judge, hm] at h ⊢; exact .shown rfl h
  case ok m =>
    cases m
    case event   => simp only [Filter.judge, hm] at h ⊢; exact .shown rfl h
    case unknown => simp only [Filter.judge, hm] at h ⊢; exact .shown rfl h
    case request header endpoint =>
      cases ha : f.allows endpoint
      all_goals simp only [Filter.judge, hm, ha, if_true, Bool.false_eq_true, if_false] at h ⊢
      case true  => exact .shown rfl h
      case false =>
        by_cases hp : header.tag ∈ f.pending
        case pos => exact .again hp <| TagSet.insert_of_mem hp ▸ h
        case neg => exact .request hp h
    case response header =>
      by_cases hp : header.tag ∈ f.pending
      all_goals simp only [Filter.judge, hm, hp, if_true, if_false] at h ⊢
      case pos => exact .response hp h
      case neg => exact .shown rfl h

-- A tag that comes in with a request goes out with a response, or else it stays, unless it had been
-- in before.
theorem perm (h : Ledger s ds s') :
    (s'.tags ++ responseTags ds ++ repeatedTags ds).Perm (s.tags ++ requestTags ds) := by
  induction h
  case nil              => exact .of_eq <| by simp [responseTags, repeatedTags, requestTags]
  case request hm _ hi  =>
    rw [TagSet.tags_insert_of_not_mem hm] at hi
    rw [repeatedTags_cons_of_not_mem hm]
    exact hi.trans List.perm_middle.symm
  case again hm _ hi    =>
    rw [repeatedTags_cons_of_mem hm]
    exact List.perm_middle.trans <| (hi.cons _).trans List.perm_middle.symm
  case response hm _ hi =>
    have hr := (TagSet.perm_tags_erase hm).symm
    exact (List.perm_middle.append_right _).trans <| (hi.cons _).trans <| hr.append_right _
  case shown _ _ _ v hv _ hi =>
    cases v
    case suppressedRequest  => contradiction
    case suppressedResponse => contradiction
    all_goals exact hi

theorem size_add (h : Ledger s ds s') :
    s'.size + (responseTags ds).length + (repeatedTags ds).length =
      s.size + (requestTags ds).length := by
  have := h.perm.length_eq
  rwa [List.length_append, List.length_append, List.length_append] at this

theorem count_responseTags_le (h : Ledger s ds s') (tag : Text) :
    (responseTags ds).count tag ≤ s.tags.count tag + (requestTags ds).count tag := by
  have := h.perm.count_eq tag
  rw [List.count_append, List.count_append, List.count_append] at this
  omega

theorem mem_iff (h : Ledger s ds s') (tag : Text) :
    tag ∈ s' ↔ tag ∈ unansweredTags ds ∨ tag ∈ s ∧ tag ∉ responseTags ds := by
  induction h
  case nil => simp [unansweredTags, responseTags]
  case request _ _ hi =>
    rw [hi, TagSet.mem_insert, mem_unansweredTags_request, responseTags_request]
    tauto
  case again s _ _ header _ hm _ hi =>
    have ht : tag = header.tag → tag ∈ s := (· ▸ hm)
    rw [hi, mem_unansweredTags_request, responseTags_request]
    tauto
  case response _ _ hi =>
    rw [hi, TagSet.mem_erase, unansweredTags_response, responseTags_response, List.mem_cons]
    tauto
  case shown _ _ _ v hv _ hi =>
    cases v
    case suppressedRequest  => contradiction
    case suppressedResponse => contradiction
    all_goals exact hi

theorem mem_iff_of_empty (h : Ledger .empty ds s) (tag : Text) :
    tag ∈ s ↔ tag ∈ unansweredTags ds :=
  (h.mem_iff tag).trans <| or_iff_left fun hp => TagSet.not_mem_empty hp.left

theorem size_eq_length (h : Ledger .empty ds s) (hn : (unansweredTags ds).Nodup) :
    s.size = (unansweredTags ds).length :=
  TagSet.size_eq_length_of_mem_iff hn h.mem_iff_of_empty

end Ledger
end FrameFilter
