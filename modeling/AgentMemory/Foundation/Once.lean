import Mathlib.Data.List.Induction
import Mathlib.Data.List.Nodup

/-! # Listing once

Elements are added to a list one after another, those that count and are not there yet. -/

namespace AgentMemory.Foundation

variable {α : Type} [BEq α]

def addOnce (counts : α → Bool) (listed : List α) (x : α) : List α :=
  if counts x && !listed.contains x then listed ++ [x] else listed

/-- The elements of the source that count, each of them once, in the order in which they first
occur there. -/
structure ListsOnce (counts : α → Bool) (source listed : List α) : Prop where
  nodup : listed.Nodup
  mem_iff : ∀ x, x ∈ listed ↔ x ∈ source ∧ counts x = true
  ordered : listed.Pairwise fun x y => source.idxOf x < source.idxOf y

variable [LawfulBEq α] {counts : α → Bool} {source listed : List α}

theorem idxOf_append_singleton {xs : List α} {x : α} (y : α) (h : x ∈ xs) :
    (xs ++ [y]).idxOf x = xs.idxOf x := by
  rw [List.idxOf_append, if_pos h]

/-- One more element of the source: it is new, or it does not count, or it is listed. -/
theorem ListsOnce.add (h : ListsOnce counts source listed) (x : α) :
    ListsOnce counts (source ++ [x]) (addOnce counts listed x) := by
  have hordered : listed.Pairwise fun y z => (source ++ [x]).idxOf y < (source ++ [x]).idxOf z := by
    refine h.ordered.imp_of_mem fun {y z} hy hz hlt => ?_
    rw [idxOf_append_singleton x ((h.mem_iff y).mp hy).1,
      idxOf_append_singleton x ((h.mem_iff z).mp hz).1]
    exact hlt
  by_cases hnew : counts x = true ∧ x ∉ listed
  · obtain ⟨hcounts, hfresh⟩ := hnew
    have hsource : x ∉ source := fun hmem => hfresh ((h.mem_iff x).mpr ⟨hmem, hcounts⟩)
    have hadd : addOnce counts listed x = listed ++ [x] := by simp [addOnce, hcounts, hfresh]
    rw [hadd]
    constructor
    · exact List.nodup_append'.mpr ⟨h.nodup, List.nodup_singleton x, by simpa using hfresh⟩
    · intro y
      rw [List.mem_append, List.mem_append, h.mem_iff, List.mem_singleton]
      constructor
      · rintro (⟨hmem, hy⟩ | rfl)
        · exact ⟨.inl hmem, hy⟩
        · exact ⟨.inr rfl, hcounts⟩
      · rintro ⟨hmem | rfl, hy⟩
        · exact .inl ⟨hmem, hy⟩
        · exact .inr rfl
    · refine List.pairwise_append.mpr ⟨hordered, List.pairwise_singleton _ _, fun y hy z hz => ?_⟩
      have hmem := ((h.mem_iff y).mp hy).1
      rw [List.mem_singleton] at hz
      subst hz
      rw [idxOf_append_singleton z hmem, List.idxOf_append, if_neg hsource]
      have hlt := List.idxOf_lt_length_of_mem hmem
      omega
  · have hkept : addOnce counts listed x = listed := by
      rw [not_and_not_right] at hnew
      unfold addOnce
      cases hcounts : counts x with
      | false => rfl
      | true => simp [hnew hcounts]
    rw [hkept]
    refine ⟨h.nodup, fun y => ?_, hordered⟩
    rw [List.mem_append, List.mem_singleton, h.mem_iff]
    constructor
    · exact fun ⟨hmem, hy⟩ => ⟨.inl hmem, hy⟩
    · rintro ⟨hmem | rfl, hy⟩
      · exact ⟨hmem, hy⟩
      · exact (h.mem_iff y).mp (not_and_not_right.mp hnew hy)

/-- A list that is built so lists the elements of its source once. -/
theorem listsOnce_foldl (counts : α → Bool) (source : List α) :
    ListsOnce counts source (source.foldl (addOnce counts) []) := by
  induction source using List.reverseRecOn with
  | nil => exact ⟨List.nodup_nil, by simp, .nil⟩
  | append_singleton source x ih =>
      rw [List.foldl_append]
      exact ih.add x

end AgentMemory.Foundation
