import FrameFilter.Text.Basic

namespace FrameFilter

-- A finite set of tags.
structure TagSet where
  tags  : List Text
  nodup : tags.Nodup

namespace TagSet

instance : Membership Text TagSet where
  mem s t := t ∈ s.tags

instance (t : Text) (s : TagSet) : Decidable (t ∈ s) :=
  inferInstanceAs <| Decidable (t ∈ s.tags)

def empty : TagSet where
  tags  := []
  nodup := List.nodup_nil

def size (s : TagSet) : Nat :=
  s.tags.length

def insert (s : TagSet) (t : Text) : TagSet :=
  if h : t ∈ s.tags then s else { tags := t :: s.tags, nodup := List.nodup_cons.mpr ⟨h, s.nodup⟩ }

def erase (s : TagSet) (t : Text) : TagSet where
  tags  := s.tags.erase t
  nodup := s.nodup.erase t

variable {s : TagSet}

theorem not_mem_empty : t ∉ empty :=
  List.not_mem_nil

theorem mem_insert : u ∈ s.insert t ↔ u = t ∨ u ∈ s := by
  simp only [insert, Membership.mem]
  split
  case isTrue h  => exact ⟨.inr, fun | .inl e => e ▸ h | .inr h => h⟩
  case isFalse h => exact List.mem_cons

theorem mem_erase : u ∈ s.erase t ↔ u ≠ t ∧ u ∈ s :=
  s.nodup.mem_erase_iff

theorem size_empty : empty.size = 0 :=
  rfl

theorem size_insert : (s.insert t).size = if t ∈ s then s.size else s.size + 1 := by
  simp only [insert, size, Membership.mem]
  split <;> rfl

theorem size_erase : (s.erase t).size = if t ∈ s then s.size - 1 else s.size :=
  List.length_erase

end TagSet
end FrameFilter
