import Mathlib.Data.List.Infix

/-! # Matching with wildcards

A pattern asks for one element after another, or for a stretch of any elements. A matcher that
meets a stretch tries the positions after it from left to right; when the rest of the pattern
fails at a later stretch, no further position has to be tried. -/

namespace AgentMemory.Foundation

variable {α : Type}

inductive Wildcard (α : Type) where
  | one (accepts : α → Bool)
  | many

/-- What a pattern means. -/
def Matches : List (Wildcard α) → List α → Prop
  | [], s => s = []
  | .one accepts :: p, s => ∃ a rest, s = a :: rest ∧ accepts a = true ∧ Matches p rest
  | .many :: p, s => ∃ rest, rest <:+ s ∧ Matches p rest

/-- The result of a matcher. With `noWildcardMatch` a shorter text does not match either. -/
inductive Comparison where
  | matched
  | noMatch
  | noWildcardMatch
deriving DecidableEq

structure Decides (p : List (Wildcard α)) (s : List α) (result : Comparison) : Prop where
  matched_iff : result = .matched ↔ Matches p s
  exhausted : result = .noWildcardMatch → ∀ t, t <:+ s → ¬Matches p t

/-- The positions after a stretch, one after another. -/
def searchFrom (accepts : α → Bool) (compare : List α → Comparison) : List α → Comparison
  | [] => .noWildcardMatch
  | a :: s =>
      if accepts a then
        match compare s with
        | .noMatch => searchFrom accepts compare s
        | result => result
      else searchFrom accepts compare s

/-! ## Patterns -/

section Matches

variable {p : List (Wildcard α)} {s t : List α} {accepts : α → Bool}

theorem matches_one_cons {a : α} :
    Matches (.one accepts :: p) (a :: s) ↔ accepts a = true ∧ Matches p s := by
  simp [Matches]

theorem not_matches_one_nil : ¬Matches (.one accepts :: p) [] := by
  simp [Matches]

theorem matches_many_nil : Matches (.many :: p) [] ↔ Matches p [] := by
  simp [Matches]

theorem matches_many_cons {a : α} :
    Matches (.many :: p) (a :: s) ↔ Matches p (a :: s) ∨ Matches (.many :: p) s := by
  constructor
  · rintro ⟨rest, hrest, h⟩
    rcases List.suffix_cons_iff.mp hrest with rfl | hrest
    · exact .inl h
    · exact .inr ⟨rest, hrest, h⟩
  · rintro (h | ⟨rest, hrest, h⟩)
    · exact ⟨_, List.suffix_rfl, h⟩
    · exact ⟨rest, hrest.trans (List.suffix_cons a s), h⟩

theorem Matches.of_suffix (hts : t <:+ s) (h : Matches (.many :: p) t) :
    Matches (.many :: p) s := by
  obtain ⟨rest, hrest, h⟩ := h
  exact ⟨rest, hrest.trans hts, h⟩

theorem matches_many_many : Matches (.many :: .many :: p) s ↔ Matches (.many :: p) s := by
  constructor
  · rintro ⟨t, hts, h⟩
    exact h.of_suffix hts
  · intro h
    exact ⟨s, List.suffix_rfl, h⟩

theorem matches_many_end : Matches ([.many] : List (Wildcard α)) s :=
  ⟨[], List.nil_suffix, rfl⟩

/-- A stretch and one more element of any kind. -/
theorem matches_many_any_cons {a : α} (hany : ∀ a, accepts a = true) :
    Matches (.many :: .one accepts :: p) (a :: s) ↔ Matches (.many :: p) s := by
  constructor
  · rintro ⟨t, hts, b, rest, rfl, -, h⟩
    refine ⟨rest, ?_, h⟩
    rcases List.suffix_cons_iff.mp hts with heq | hts
    · rw [(List.cons.inj heq).2]
    · exact (List.suffix_cons b rest).trans hts
  · rintro ⟨rest, ⟨front, rfl⟩, h⟩
    have hne : a :: front ≠ [] := by simp
    refine ⟨(a :: front).getLast hne :: rest, ⟨(a :: front).dropLast, ?_⟩, _, rest, rfl,
      hany _, h⟩
    rw [List.append_cons, List.dropLast_append_getLast, List.cons_append]

end Matches

/-! ## Deciding -/

section Decides

variable {p : List (Wildcard α)} {accepts : α → Bool}

theorem Decides.empty (s : List α) : Decides ([] : List (Wildcard α)) s
    (if s.isEmpty then .matched else .noMatch) := by
  cases s with
  | nil => exact ⟨by simp [Matches], by simp⟩
  | cons a s => exact ⟨by simp [Matches], by simp⟩

theorem Decides.one_nil : Decides (.one accepts :: p) [] .noMatch :=
  ⟨by simp [not_matches_one_nil], by simp⟩

theorem Decides.one_cons {a : α} {s : List α} {result : Comparison} (h : Decides p s result) :
    Decides (.one accepts :: p) (a :: s) (if accepts a then result else .noMatch) := by
  by_cases ha : accepts a = true
  · rw [if_pos ha]
    refine ⟨?_, fun hresult t ht => ?_⟩
    · rw [h.matched_iff, matches_one_cons, and_iff_right ha]
    · rintro ⟨b, rest, rfl, -, hmatches⟩
      refine h.exhausted hresult rest ?_ hmatches
      rcases List.suffix_cons_iff.mp ht with heq | ht
      · rw [(List.cons.inj heq).2]
      · exact (List.suffix_cons b rest).trans ht
  · rw [if_neg ha]
    exact ⟨by simp [matches_one_cons, ha], by simp⟩

/-- After a stretch a text that does not match has no shorter one that does. -/
theorem Decides.many {s : List α} {result : Comparison}
    (h : result = .matched ↔ Matches (.many :: p) s) : Decides (.many :: p) s result where
  matched_iff := h
  exhausted := by
    rintro rfl t hts ht
    cases h.mpr (ht.of_suffix hts)

theorem Decides.many_one_nil : Decides (.many :: .one accepts :: p) [] .noWildcardMatch :=
  .many (by simp [matches_many_nil, not_matches_one_nil])

theorem searchFrom_matched_iff {compare : List α → Comparison}
    (h : ∀ s, Decides p s (compare s)) (s : List α) :
    searchFrom accepts compare s = .matched ↔ Matches (.many :: .one accepts :: p) s := by
  induction s with
  | nil => simp [searchFrom, matches_many_nil, not_matches_one_nil]
  | cons a s ih =>
    rw [searchFrom, matches_many_cons, matches_one_cons]
    by_cases ha : accepts a = true
    · rw [if_pos ha, and_iff_right ha]
      have hs := h s
      cases hresult : compare s with
      | matched => exact iff_of_true rfl (.inl (hs.matched_iff.mp hresult))
      | noMatch =>
        have hnot : ¬Matches p s := fun hmatches => by
          rw [hs.matched_iff.mpr hmatches] at hresult
          cases hresult
        rw [ih, or_iff_right hnot]
      | noWildcardMatch =>
        have hnone := hs.exhausted hresult
        refine iff_of_false (by simp) ?_
        rintro (hmatches | ⟨t, hts, b, rest, rfl, -, hmatches⟩)
        · exact hnone s List.suffix_rfl hmatches
        · exact hnone rest ((List.suffix_cons b rest).trans hts) hmatches
    · rw [if_neg ha, ih]
      exact ⟨.inr, fun hmatches => hmatches.resolve_left fun hone => ha hone.1⟩

theorem Decides.searchFrom {compare : List α → Comparison} (h : ∀ s, Decides p s (compare s))
    (s : List α) : Decides (.many :: .one accepts :: p) s (searchFrom accepts compare s) :=
  .many (searchFrom_matched_iff h s)

end Decides

/-! ## Literals -/

section Literals

variable {β : Type} [DecidableEq β] (f : α → β)

/-- The elements that are one of these, up to `f`. -/
def literals (cs : List α) : List (Wildcard α) :=
  cs.map fun c => .one fun a => f c == f a

theorem matches_literals_iff (cs s : List α) :
    Matches (literals f cs ++ [.many]) s ↔ cs.map f <+: s.map f := by
  induction cs generalizing s with
  | nil => exact iff_of_true matches_many_end List.nil_prefix
  | cons c cs ih =>
    cases s with
    | nil => exact iff_of_false not_matches_one_nil (by simp)
    | cons a s =>
      simp only [literals, List.map_cons, List.cons_append] at ih ⊢
      rw [matches_one_cons, ih, List.cons_prefix_cons, beq_iff_eq]

/-- A literal between two stretches is a search. -/
theorem matches_contains_iff (cs s : List α) :
    Matches (.many :: (literals f cs ++ [.many])) s ↔ cs.map f <:+: s.map f := by
  constructor
  · rintro ⟨rest, hrest, h⟩
    exact ((matches_literals_iff f cs rest).mp h).isInfix.trans (hrest.map f).isInfix
  · rintro ⟨front, back, h⟩
    refine ⟨s.drop front.length, List.drop_suffix _ _, (matches_literals_iff f cs _).mpr ?_⟩
    refine ⟨back, ?_⟩
    rw [List.map_drop, ← h, List.append_assoc, List.drop_left]

end Literals

end AgentMemory.Foundation
