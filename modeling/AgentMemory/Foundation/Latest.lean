import Mathlib.Data.List.Nodup

/-! # The latest entry of each key

A history in which a later entry of a key takes the place of the earlier ones. -/

namespace AgentMemory.Foundation

variable {α κ : Type} [DecidableEq κ] (key : α → κ)

/-- Each entry, with whether it is the last one of its key. -/
def marked : List α → List (α × Bool)
  | [] => []
  | a :: rest => (a, rest.all fun b => decide (key b ≠ key a)) :: marked rest

/-- The entry is the last one of its key. -/
def IsLatest (a : α) (entries : List α) : Prop :=
  ∃ before after, entries = before ++ a :: after ∧ ∀ b ∈ after, key b ≠ key a

theorem marked_map_fst (entries : List α) : (marked key entries).map Prod.fst = entries := by
  induction entries with
  | nil => rfl
  | cons a rest ih => simp [marked, ih]

variable {key}

/-- A new entry unmarks the others of its key. -/
theorem marked_concat (entries : List α) (a : α) :
    marked key (entries ++ [a]) =
      (marked key entries).map (fun e => (e.1, e.2 && decide (key e.1 ≠ key a))) ++ [(a, true)] := by
  induction entries with
  | nil => rfl
  | cons b rest ih =>
      simp only [List.cons_append, marked, ih, List.map_cons]
      congr 2
      simp [eq_comm]

theorem mem_marked_iff {a : α} {entries : List α} :
    (a, true) ∈ marked key entries ↔ IsLatest key a entries := by
  induction entries with
  | nil => simp [marked, IsLatest]
  | cons b rest ih =>
      rw [marked, List.mem_cons, ih]
      constructor
      · rintro (heq | ⟨before, after, rfl, hafter⟩)
        · obtain ⟨rfl, hall⟩ := Prod.mk.inj heq
          refine ⟨[], rest, rfl, fun c hc => ?_⟩
          simpa using List.all_eq_true.mp hall.symm c hc
        · exact ⟨b :: before, after, rfl, hafter⟩
      · rintro ⟨before, after, heq, hafter⟩
        cases before with
        | nil =>
            cases heq
            left
            rw [Prod.mk.injEq]
            exact ⟨rfl, (List.all_eq_true.mpr fun c hc => by simpa using hafter c hc).symm⟩
        | cons c before =>
            cases heq
            exact .inr ⟨before, after, rfl, hafter⟩

/-- At most one entry of each key is marked. -/
theorem marked_nodup (entries : List α) :
    (((marked key entries).filter fun e => e.2).map fun e => key e.1).Nodup := by
  induction entries with
  | nil => exact .nil
  | cons a rest ih =>
      rw [marked, List.filter_cons]
      split
      · next hmarked =>
          rw [List.map_cons, List.nodup_cons]
          refine ⟨fun hmem => ?_, ih⟩
          obtain ⟨e, he, heq⟩ := List.mem_map.mp hmem
          have hrest : e.1 ∈ rest := by
            rw [← marked_map_fst key rest]
            exact List.mem_map_of_mem (List.mem_filter.mp he).1
          have hne := List.all_eq_true.mp hmarked e.1 hrest
          simp [heq] at hne
      · exact ih

omit [DecidableEq κ] in
theorem IsLatest.mem {a : α} {entries : List α} (h : IsLatest key a entries) : a ∈ entries := by
  obtain ⟨before, after, rfl, -⟩ := h
  simp

/-- The latest entry of a key is determined by the key. -/
theorem IsLatest.eq {a b : α} {entries : List α} (ha : IsLatest key a entries)
    (hb : IsLatest key b entries) (hkey : key a = key b) : a = b := by
  have hmem : ∀ {c}, IsLatest key c entries →
      (c, true) ∈ (marked key entries).filter fun e => e.2 :=
    fun hc => List.mem_filter.mpr ⟨mem_marked_iff.mpr hc, rfl⟩
  have heq := List.inj_on_of_nodup_map (marked_nodup entries) (hmem ha) (hmem hb) hkey
  exact congrArg Prod.fst heq

end AgentMemory.Foundation
