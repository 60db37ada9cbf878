import Mathlib.Data.List.Sort

/-! # Ordered selections

An arrangement puts a list in an order and leaves open how ties are broken, as `ORDER BY` and
an unstable sort do. The best elements of several lists are among the best of each. -/

namespace AgentMemory.Foundation

/-! ## Arrangements -/

structure Arrangement {α : Type} (r : α → α → Prop) where
  arrange : List α → List α
  perm : ∀ xs, (arrange xs).Perm xs
  ordered : ∀ xs, (arrange xs).Pairwise r

namespace Arrangement

variable {α : Type} {r : α → α → Prop}

/-- An arrangement of any total order. -/
def insertion (r : α → α → Prop) [DecidableRel r] (total : ∀ a b, r a b ∨ r b a)
    (trans : ∀ a b c, r a b → r b c → r a c) : Arrangement r where
  arrange := List.insertionSort r
  perm := List.perm_insertionSort r
  ordered :=
    haveI : Std.Total r := ⟨total⟩
    haveI : IsTrans α r := ⟨trans⟩
    List.pairwise_insertionSort r

/-- `ORDER BY ... LIMIT n`. -/
def top (A : Arrangement r) (n : ℕ) (xs : List α) : List α :=
  (A.arrange xs).take n

theorem mem_of_mem_top {A : Arrangement r} {n : ℕ} {xs : List α} {x : α} (h : x ∈ A.top n xs) :
    x ∈ xs :=
  (A.perm xs).mem_iff.mp (List.mem_of_mem_take h)

end Arrangement

/-- First by one key, then by another order. -/
def LexBy {α κ : Type} (s : κ → κ → Prop) (key : α → κ) (r : α → α → Prop) (a b : α) : Prop :=
  s (key a) (key b) ∨ (key a = key b ∧ r a b)

section LexBy

variable {α κ : Type} {s : κ → κ → Prop} {key : α → κ} {r : α → α → Prop}

theorem LexBy.total (hs : ∀ x y, s x y ∨ x = y ∨ s y x) (hr : ∀ a b, r a b ∨ r b a) (a b : α) :
    LexBy s key r a b ∨ LexBy s key r b a := by
  rcases hs (key a) (key b) with hab | heq | hba
  · exact .inl (.inl hab)
  · rcases hr a b with hab | hba
    · exact .inl (.inr ⟨heq, hab⟩)
    · exact .inr (.inr ⟨heq.symm, hba⟩)
  · exact .inr (.inl hba)

theorem LexBy.trans (hs : ∀ x y z, s x y → s y z → s x z) (hr : ∀ a b c, r a b → r b c → r a c)
    (a b c : α) (hab : LexBy s key r a b) (hbc : LexBy s key r b c) : LexBy s key r a c := by
  rcases hab with hab | ⟨hab, hrab⟩
  · rcases hbc with hbc | ⟨hbc, -⟩
    · exact .inl (hs _ _ _ hab hbc)
    · exact .inl (hbc ▸ hab)
  · rcases hbc with hbc | ⟨hbc, hrbc⟩
    · exact .inl (hab ▸ hbc)
    · exact .inr ⟨hab.trans hbc, hr a b c hrab hrbc⟩

end LexBy

/-! ## The best elements -/

section Best

variable {α κ : Type} [LinearOrder κ] (key : α → κ) (n : ℕ)

/-- As many elements as fit, and none of those left out has a greater key than one of them. -/
structure IsBest (all chosen : List α) : Prop where
  length : chosen.length = min n all.length
  rest : ∃ omitted, (chosen ++ omitted).Perm all ∧ ∀ x ∈ omitted, ∀ y ∈ chosen, key x ≤ key y

/-- Of the elements left out, each is matched or exceeded by `n` that are not. -/
def Covers (all chosen : List α) : Prop :=
  ∃ omitted, (chosen ++ omitted).Perm all ∧
    ∀ x ∈ omitted, n ≤ chosen.countP fun y => decide (key x ≤ key y)

variable {key n}

theorem IsBest.covers {all chosen : List α} (h : IsBest key n all chosen) :
    Covers key n all chosen := by
  obtain ⟨omitted, hperm, hbest⟩ := h.rest
  refine ⟨omitted, hperm, fun x hx => ?_⟩
  have hlength := h.length
  rw [← hperm.length_eq, List.length_append] at hlength
  have hpos : 0 < omitted.length := List.length_pos_of_mem hx
  have hcount : chosen.countP (fun y => decide (key x ≤ key y)) = chosen.length :=
    List.countP_eq_length.mpr fun y hy => by simpa using hbest x hx y hy
  rw [hcount]
  omega

theorem Covers.append {all chosen all' chosen' : List α} (h : Covers key n all chosen)
    (h' : Covers key n all' chosen') : Covers key n (all ++ all') (chosen ++ chosen') := by
  obtain ⟨omitted, hperm, hcovers⟩ := h
  obtain ⟨omitted', hperm', hcovers'⟩ := h'
  refine ⟨omitted ++ omitted', ?_, fun x hx => ?_⟩
  · have hswap : (chosen ++ chosen' ++ (omitted ++ omitted')).Perm
        (chosen ++ omitted ++ (chosen' ++ omitted')) := by
      rw [List.append_assoc, List.append_assoc]
      refine List.Perm.append_left chosen ?_
      rw [← List.append_assoc, ← List.append_assoc]
      exact List.perm_append_comm.append_right omitted'
    exact hswap.trans (hperm.append hperm')
  · rw [List.countP_append]
    rcases List.mem_append.mp hx with hx | hx
    · exact Nat.le_add_right_of_le (hcovers x hx)
    · exact Nat.le_add_left_of_le (hcovers' x hx)

/-- The first elements of an arrangement by descending key are the best ones. -/
theorem Arrangement.isBest_top {r : α → α → Prop} (A : Arrangement r)
    (hr : ∀ a b, r a b → key b ≤ key a) (xs : List α) : IsBest key n xs (A.top n xs) := by
  constructor
  · rw [Arrangement.top, List.length_take, (A.perm xs).length_eq]
  · refine ⟨(A.arrange xs).drop n, ?_, fun x hx y hy => ?_⟩
    · rw [Arrangement.top, List.take_append_drop]
      exact A.perm xs
    · have hordered := A.ordered xs
      rw [← List.take_append_drop n (A.arrange xs), List.pairwise_append] at hordered
      exact hr y x (hordered.2.2 y hy x hx)

theorem IsBest.map {β : Type} {f : β → α} {all chosen : List β}
    (h : IsBest (key ∘ f) n all chosen) : IsBest key n (all.map f) (chosen.map f) := by
  constructor
  · simpa using h.length
  · obtain ⟨omitted, hperm, hbest⟩ := h.rest
    refine ⟨omitted.map f, ?_, fun x hx y hy => ?_⟩
    · rw [← List.map_append]
      exact hperm.map f
    · obtain ⟨a, ha, rfl⟩ := List.mem_map.mp hx
      obtain ⟨b, hb, rfl⟩ := List.mem_map.mp hy
      exact hbest a ha b hb

end Best

end AgentMemory.Foundation
