import Mathlib.Data.List.Basic

/-! # Words

The words of a list are the pieces between separators that are not empty. -/

namespace AgentMemory.Foundation

variable {α : Type}

def words (p : α → Bool) (s : List α) : List (List α) :=
  (s.splitOnP p).filter fun w => !w.isEmpty

/-- Every list is a piece without separators, or begins with one and a separator. -/
@[elab_as_elim]
theorem pieces_induction (p : α → Bool) {motive : List α → Prop}
    (last : ∀ w, (∀ b ∈ w, p b = false) → motive w)
    (next : ∀ w b s, (∀ b ∈ w, p b = false) → p b = true → motive s → motive (w ++ b :: s))
    (s : List α) : motive s := by
  -- the elements read so far, without a separator
  suffices h : ∀ w, (∀ b ∈ w, p b = false) → motive (w ++ s) from h [] (by simp)
  induction s with
  | nil =>
    intro w hw
    rw [List.append_nil]
    exact last w hw
  | cons b s ih =>
    intro w hw
    by_cases hb : p b = true
    · exact next w b s hw hb (ih [] (by simp))
    · rw [List.append_cons]
      refine ih (w ++ [b]) fun c hc => ?_
      rcases List.mem_append.mp hc with hc | hc
      · exact hw c hc
      · rw [List.mem_singleton.mp hc]
        exact Bool.eq_false_iff.mpr hb

/-! ## A maximal stretch at the front -/

section Stretch

variable {p : α → Bool} {front s : List α}

theorem takeWhile_append_of_stop (hfront : ∀ b ∈ front, p b = true)
    (hs : ∀ b, s.head? = some b → p b = false) : (front ++ s).takeWhile p = front := by
  rw [List.takeWhile_append_of_pos hfront]
  cases s with
  | nil => simp
  | cons b s => simp [hs b rfl]

theorem dropWhile_append_of_stop (hfront : ∀ b ∈ front, p b = true)
    (hs : ∀ b, s.head? = some b → p b = false) : (front ++ s).dropWhile p = s := by
  rw [List.dropWhile_append_of_pos hfront]
  cases s with
  | nil => rfl
  | cons b s => simp [hs b rfl]

end Stretch

/-! ## Words and separators -/

section Words

variable {p : α → Bool} {w s : List α} {b : α}

theorem words_piece (hw : ∀ b ∈ w, p b = false) : words p w = if w.isEmpty then [] else [w] := by
  rw [words, List.splitOnP_eq_singleton hw]
  cases w <;> rfl

theorem words_append_cons (hw : ∀ b ∈ w, p b = false) (hb : p b = true) (s : List α) :
    words p (w ++ b :: s) = (if w.isEmpty then [] else [w]) ++ words p s := by
  rw [words, List.splitOnP_append_cons_of_forall_mem hw b hb]
  cases w <;> rfl

/-- What is no separator stands in a word. -/
theorem exists_mem_words (hb : p b = false) (h : b ∈ s) : ∃ w ∈ words p s, b ∈ w := by
  induction s using pieces_induction p with
  | last w hw =>
    rw [words_piece hw, if_neg (by simp [List.ne_nil_of_mem h])]
    exact ⟨w, List.mem_singleton_self w, h⟩
  | next w c s hw hc ih =>
    rw [words_append_cons hw hc]
    rcases List.mem_append.mp h with h | h
    · rw [if_neg (by simp [List.ne_nil_of_mem h])]
      exact ⟨w, List.mem_append_left _ (List.mem_singleton_self w), h⟩
    · have hs : b ∈ s := by
        rcases List.mem_cons.mp h with rfl | h
        · rw [hb] at hc
          cases hc
        · exact h
      obtain ⟨w', hw', hmem⟩ := ih hs
      exact ⟨w', List.mem_append_right _ hw', hmem⟩

theorem words_eq_nil_iff : words p s = [] ↔ ∀ b ∈ s, p b = true := by
  constructor
  · intro h b hb
    by_contra hnot
    obtain ⟨w, hw, -⟩ := exists_mem_words (Bool.eq_false_iff.mpr hnot) hb
    rw [h] at hw
    cases hw
  · intro h
    induction s using pieces_induction p with
    | last w hw =>
      cases w with
      | nil => rfl
      | cons b w =>
        have hb := hw b List.mem_cons_self
        rw [h b List.mem_cons_self] at hb
        cases hb
    | next w b s hw hb ih =>
      have hnil : w = [] := List.eq_nil_iff_forall_not_mem.mpr fun c hc => by
        have hfalse := hw c hc
        rw [h c (List.mem_append_left _ hc)] at hfalse
        cases hfalse
      rw [words_append_cons hw hb, hnil,
        ih fun c hc => h c (List.mem_append_right _ (List.mem_cons_of_mem b hc))]
      rfl

theorem of_mem_words (hw : w ∈ words p s) : ∀ b ∈ w, p b = false := by
  induction s using pieces_induction p with
  | last w' hw' =>
    rw [words_piece hw'] at hw
    split at hw
    · cases hw
    · rw [List.mem_singleton.mp hw]
      exact hw'
  | next w' c s hw' hc ih =>
    rw [words_append_cons hw' hc] at hw
    rcases List.mem_append.mp hw with hw | hw
    · split at hw
      · cases hw
      · rw [List.mem_singleton.mp hw]
        exact hw'
    · exact ih hw

end Words

/-! ## Fields joined by a separator -/

section Fields

variable {c : α} {s t front back : List α} {fields : List (List α)}

/-- The `t` between `front` and `back` in the joined fields lies inside one of them. -/
def InsideField (c : α) (fields : List (List α)) (front t back : List α) : Prop :=
  ∃ before field after pre post, fields = before ++ field :: after ∧ field = pre ++ t ++ post ∧
    front = before.flatMap (· ++ [c]) ++ pre ∧ back = post ++ after.flatMap (c :: ·)

/-- A list without the separator ends before it or starts after it. -/
theorem before_or_after_separator {r : List α} (ht : c ∉ t)
    (h : s ++ c :: r = front ++ t ++ back) :
    (∃ post, s = front ++ t ++ post ∧ back = post ++ c :: r) ∨
      ∃ pre, front = s ++ c :: pre ∧ r = pre ++ t ++ back := by
  rcases List.append_eq_append_iff.mp h with ⟨rest, hfront, hr⟩ | ⟨post, hs, hback⟩
  · cases rest with
    | nil =>
      refine .inl ⟨[], ?_, ?_⟩
      · rw [hfront]
        simp
      · exact hr.symm
    | cons d rest =>
      obtain ⟨rfl, rfl⟩ := List.cons.inj hr
      -- the separator is in `front` or in `t`
      rcases List.append_eq_append_iff.mp hfront with ⟨cut, -, hcut⟩ | ⟨cut, hcut, hrest⟩
      · rw [hcut] at ht
        exact absurd (List.mem_append_right cut List.mem_cons_self) ht
      · cases cut with
        | nil =>
          rw [← List.nil_append t, ← hrest] at ht
          exact absurd List.mem_cons_self ht
        | cons e pre =>
          obtain ⟨rfl, rfl⟩ := List.cons.inj hrest
          exact .inr ⟨pre, hcut, rfl⟩
  · exact .inl ⟨post, hs, hback⟩

theorem cons_intercalate (hne : fields ≠ []) :
    c :: [c].intercalate fields = fields.flatMap (c :: ·) := by
  induction fields with
  | nil => exact absurd rfl hne
  | cons field fields ih =>
    cases fields with
    | nil => simp
    | cons next fields =>
      rw [List.intercalate_cons_cons, List.flatMap_cons, ← ih (List.cons_ne_nil next fields)]
      simp

theorem insideField_of_intercalate (hne : fields ≠ []) (ht : c ∉ t)
    (h : [c].intercalate fields = front ++ t ++ back) : InsideField c fields front t back := by
  induction fields generalizing front with
  | nil => exact absurd rfl hne
  | cons field fields ih =>
    cases fields with
    | nil =>
      rw [List.intercalate_singleton] at h
      exact ⟨[], field, [], front, back, rfl, h, rfl, (List.append_nil back).symm⟩
    | cons next fields =>
      have hrest := List.cons_ne_nil next fields
      rw [List.intercalate_cons_of_ne_nil hrest, List.append_assoc, List.singleton_append] at h
      rcases before_or_after_separator ht h with ⟨post, hfield, hback⟩ | ⟨pre, hfront, hinside⟩
      · rw [cons_intercalate hrest] at hback
        exact ⟨[], field, next :: fields, front, post, rfl, hfield, rfl, hback⟩
      · obtain ⟨before, field', after, pre', post, hfields, hfield, hpre, hback⟩ := ih hrest hinside
        refine ⟨field :: before, field', after, pre', post, ?_, hfield, ?_, hback⟩
        · rw [hfields]
          rfl
        · rw [hfront, hpre]
          simp

theorem infix_intercalate_of_mem {field : List α} (h : field ∈ fields) :
    field <:+: [c].intercalate fields := by
  induction fields with
  | nil => cases h
  | cons first fields ih =>
    cases fields with
    | nil =>
      rw [List.mem_singleton.mp h]
      exact ⟨[], [], by simp⟩
    | cons next fields =>
      rw [List.intercalate_cons_of_ne_nil (List.cons_ne_nil next fields)]
      rcases List.mem_cons.mp h with rfl | h
      · exact (List.prefix_append _ _).isInfix.trans (List.prefix_append _ _).isInfix
      · exact (ih h).trans (List.suffix_append _ _).isInfix

/-- A list without the separator occurs in the joined fields just when it does in one of them. -/
theorem infix_intercalate_iff (hne : fields ≠ []) (ht : c ∉ t) :
    t <:+: [c].intercalate fields ↔ ∃ field ∈ fields, t <:+: field := by
  constructor
  · rintro ⟨front, back, h⟩
    obtain ⟨before, field, after, pre, post, hfields, hfield, -, -⟩ :=
      insideField_of_intercalate hne ht h.symm
    refine ⟨field, ?_, pre, post, hfield.symm⟩
    rw [hfields]
    exact List.mem_append_right before List.mem_cons_self
  · rintro ⟨field, hmem, h⟩
    exact h.trans (infix_intercalate_of_mem hmem)

end Fields

end AgentMemory.Foundation
