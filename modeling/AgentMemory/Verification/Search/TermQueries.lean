import AgentMemory.Model.Search
import AgentMemory.Verification.Search.Terms
import Mathlib.Data.Set.List

/-! # Which escaped queries are lists of terms

The filter of a query looks at one character and the one kept before it, the query language at
words. -/

namespace AgentMemory

open Foundation

/-! ## Plain queries -/

/-- The characters of words that are always kept. -/
def isWordByte (b : UInt8) : Bool :=
  isAlnum b || b == 0x5F || 0x80 ≤ b

/-- A star after this text is kept. -/
def EndsWord (s : Text) : Prop :=
  ∃ a, s.getLast? = some a ∧ (isAlnum a || a == 0x5F) = true

/-- After a star that is kept the word does not go on. -/
def StarsAtEnd (w : Text) : Prop :=
  ∀ front back, w = front ++ 0x2A :: back → EndsWord (front.filter isWordByte) →
    back.filter isWordByte = []

structure PlainWord (w : Text) : Prop where
  notOperator : w.filter isWordByte ∉ Fts5.operators
  starsAtEnd : StarsAtEnd w

/-- A query without vertical tabs and form feeds whose words are plain. -/
structure PlainQuery (q : Text) : Prop where
  spaces : ∀ b ∈ q, b ≠ 0x0B ∧ b ≠ 0x0C
  words : ∀ w ∈ q.splitOnP isSpace, PlainWord w

/-- Nothing but separators. -/
def IsBlank (s : Text) : Prop :=
  ∀ b ∈ s, Fts5.fts5ExprIsspace b = true

/-! ## Characters -/

section Characters

variable {b : UInt8}

theorem isWordByte_star : isWordByte 0x2A = false := by
  decide

theorem isBareword_of_isWordByte (h : isWordByte b = true) :
    Fts5.sqlite3Fts5IsBareword b = true := by
  simp only [isWordByte, Fts5.sqlite3Fts5IsBareword, Bool.or_eq_true] at h ⊢
  tauto

theorem eq_of_isSpace (h : isSpace b = true) :
    b = 0x20 ∨ b = 0x09 ∨ b = 0x0A ∨ b = 0x0B ∨ b = 0x0C ∨ b = 0x0D := by
  simp only [isSpace, Bool.or_eq_true, Bool.and_eq_true, beq_iff_eq, decide_eq_true_eq,
    UInt8.le_iff_toNat_le, ← UInt8.toNat_inj, UInt8.reduceToNat] at h ⊢
  omega

theorem isSpace_of_isspace (h : Fts5.fts5ExprIsspace b = true) : isSpace b = true := by
  rcases Fts5.eq_of_isspace h with rfl | rfl | rfl | rfl <;> decide

/-- The query language does not know vertical tabs and form feeds. -/
theorem isspace_iff : Fts5.fts5ExprIsspace b = true ↔ isSpace b = true ∧ b ≠ 0x0B ∧ b ≠ 0x0C := by
  constructor
  · intro h
    refine ⟨isSpace_of_isspace h, ?_, ?_⟩ <;> rintro rfl <;> exact absurd h (by decide)
  · rintro ⟨h, hvt, hff⟩
    rcases eq_of_isSpace h with rfl | rfl | rfl | rfl | rfl | rfl <;>
      first | decide | exact absurd rfl hvt | exact absurd rfl hff

theorem isWordByte_of_isSpace (h : isSpace b = true) : isWordByte b = false := by
  rcases eq_of_isSpace h with rfl | rfl | rfl | rfl | rfl | rfl <;> decide

end Characters

/-! ## The filter -/

/-- The result of the first loop. -/
def escaped (q : Text) : Text :=
  q.foldl fts5EscapeStep []

theorem escaped_append_singleton (q : Text) (b : UInt8) :
    escaped (q ++ [b]) = fts5EscapeStep (escaped q) b := by
  rw [escaped, List.foldl_append]
  rfl

/-- The next character is kept. -/
def Keeps (acc : Text) (b : UInt8) : Prop :=
  isWordByte b = true ∨ isSpace b = true ∨ (b = 0x2A ∧ EndsWord acc)

section Step

variable {acc : Text} {b : UInt8}

theorem fts5EscapeStep_of_isWordByte (h : isWordByte b = true ∨ isSpace b = true) :
    fts5EscapeStep acc b = acc ++ [b] := by
  have hkept : (isAlnum b || b == 0x5F || isSpace b || 0x80 ≤ b) = true := by
    simp only [isWordByte, Bool.or_eq_true] at h ⊢
    tauto
  rw [fts5EscapeStep, if_pos hkept]

theorem fts5EscapeStep_star (h : EndsWord acc) : fts5EscapeStep acc 0x2A = acc ++ [0x2A] := by
  obtain ⟨a, ha, hends⟩ := h
  rw [fts5EscapeStep, if_neg (by decide), if_pos rfl, ha]
  exact if_pos hends

theorem fts5EscapeStep_of_keeps (h : Keeps acc b) : fts5EscapeStep acc b = acc ++ [b] := by
  rcases h with h | h | ⟨rfl, h⟩
  · exact fts5EscapeStep_of_isWordByte (.inl h)
  · exact fts5EscapeStep_of_isWordByte (.inr h)
  · exact fts5EscapeStep_star h

theorem fts5EscapeStep_of_not_keeps (h : ¬Keeps acc b) : fts5EscapeStep acc b = acc := by
  have hdropped : ¬(isAlnum b || b == 0x5F || isSpace b || 0x80 ≤ b) = true := by
    intro hkept
    simp only [Bool.or_eq_true] at hkept
    refine h ?_
    rcases hkept with (hkept | hspace) | hkept
    · exact .inl (by
        simp only [isWordByte, Bool.or_eq_true]
        exact .inl hkept)
    · exact .inr (.inl hspace)
    · exact .inl (by
        simp only [isWordByte, Bool.or_eq_true]
        exact .inr hkept)
  rw [fts5EscapeStep, if_neg hdropped]
  by_cases hstar : b = 0x2A
  · rw [if_pos hstar]
    cases hlast : acc.getLast? with
    | none => rfl
    | some a => exact if_neg fun hends => h (.inr (.inr ⟨hstar, a, hlast, hends⟩))
  · rw [if_neg hstar]

end Step

/-- The query is read from the front; each of its characters is emitted or dropped. -/
@[elab_as_elim]
theorem escaped_induction {motive : Text → Prop} (nil : motive [])
    (keep : ∀ q b, Keeps (escaped q) b → escaped (q ++ [b]) = escaped q ++ [b] → motive q →
      motive (q ++ [b]))
    (drop : ∀ q b, ¬Keeps (escaped q) b → escaped (q ++ [b]) = escaped q → motive q →
      motive (q ++ [b])) (q : Text) : motive q := by
  induction q using List.reverseRecOn with
  | nil => exact nil
  | append_singleton q b ih =>
    have hstep := escaped_append_singleton q b
    by_cases hb : Keeps (escaped q) b
    · exact keep q b hb (hstep.trans (fts5EscapeStep_of_keeps hb)) ih
    · exact drop q b hb (hstep.trans (fts5EscapeStep_of_not_keeps hb)) ih

/-- Characters that are always kept stay in their order. -/
theorem filter_escaped {p : UInt8 → Bool}
    (hp : ∀ b, p b = true → isWordByte b = true ∨ isSpace b = true) (q : Text) :
    (escaped q).filter p = q.filter p := by
  induction q using escaped_induction with
  | nil => rfl
  | keep q b _ hemitted ih => rw [hemitted, List.filter_append, List.filter_append, ih]
  | drop q b hb hdropped ih =>
    have hnone : p b = false := by
      rw [Bool.eq_false_iff]
      intro hkept
      exact hb ((hp b hkept).imp_right .inl)
    rw [hdropped, ih, List.filter_append, List.filter_singleton, hnone, cond_false, List.append_nil]

theorem mem_escaped {q : Text} {b : UInt8} (hb : b ∈ q)
    (hkept : isWordByte b = true ∨ isSpace b = true) : b ∈ escaped q := by
  have hfilter : (escaped q).filter (· == b) = q.filter (· == b) := by
    refine filter_escaped (fun c hc => ?_) q
    rw [beq_iff_eq.mp hc]
    exact hkept
  have hmem : b ∈ q.filter (· == b) := List.mem_filter.mpr ⟨hb, BEq.rfl⟩
  rw [← hfilter] at hmem
  exact (List.mem_filter.mp hmem).1

theorem of_mem_escaped {q : Text} {b : UInt8} (hb : b ∈ escaped q) :
    b ∈ q ∧ (isWordByte b = true ∨ isSpace b = true ∨ b = 0x2A) := by
  induction q using escaped_induction with
  | nil => cases hb
  | keep q c hc hemitted ih =>
    rw [hemitted] at hb
    rcases List.mem_append.mp hb with hb | hb
    · exact ⟨List.mem_append_left _ (ih hb).1, (ih hb).2⟩
    · rw [List.mem_singleton.mp hb]
      refine ⟨List.mem_append_right _ (List.mem_singleton_self c), ?_⟩
      exact hc.imp_right fun h => h.imp_right And.left
  | drop q c _ hdropped ih =>
    rw [hdropped] at hb
    exact ⟨List.mem_append_left _ (ih hb).1, (ih hb).2⟩

/-- The second loop finds nothing either. -/
theorem fts5EscapeQuery_eq (q : Text) : fts5EscapeQuery q = escaped q := by
  have hquery : fts5EscapeQuery q =
      if (escaped q).isEmpty then q.filter (fun b => isAlnum b || b == 0x5F || b == 0x20)
      else escaped q := rfl
  rw [hquery]
  split
  · next hempty =>
    rw [List.isEmpty_iff.mp hempty, List.filter_eq_nil_iff]
    intro b hb hkept
    have hmem : b ∈ escaped q := mem_escaped hb (by
      simp only [isWordByte, Bool.or_eq_true, beq_iff_eq] at hkept ⊢
      rcases hkept with (h | h) | rfl
      · exact .inl (.inl (.inl h))
      · exact .inl (.inl (.inr h))
      · exact .inr (by decide))
    rw [List.isEmpty_iff.mp hempty] at hmem
    cases hmem
  · rfl

/-- After a separator the filter starts anew. -/
theorem foldl_fts5EscapeStep {acc : Text} (hacc : ¬EndsWord acc) (q : Text) :
    q.foldl fts5EscapeStep acc = acc ++ escaped q := by
  induction q using List.reverseRecOn with
  | nil => rw [escaped, List.foldl_nil, List.foldl_nil, List.append_nil]
  | append_singleton q b ih =>
    have hends : EndsWord (acc ++ escaped q) ↔ EndsWord (escaped q) := by
      cases hlast : (escaped q).getLast? with
      | none =>
        rw [List.getLast?_eq_none_iff.mp hlast, List.append_nil]
        exact iff_of_false hacc fun ⟨a, ha, _⟩ => by simp at ha
      | some a => simp [EndsWord, hlast]
    rw [List.foldl_append, ih, List.foldl_cons, List.foldl_nil, escaped_append_singleton]
    by_cases hb : Keeps (escaped q) b
    · have hb' : Keeps (acc ++ escaped q) b := hb.imp_right fun h => h.imp_right fun h =>
        ⟨h.1, hends.mpr h.2⟩
      rw [fts5EscapeStep_of_keeps hb, fts5EscapeStep_of_keeps hb', List.append_assoc]
    · have hb' : ¬Keeps (acc ++ escaped q) b := fun h => hb (h.imp_right fun h =>
        h.imp_right fun h => ⟨h.1, hends.mp h.2⟩)
      rw [fts5EscapeStep_of_not_keeps hb, fts5EscapeStep_of_not_keeps hb']

theorem escaped_append_cons (w : Text) {b : UInt8} (hb : isSpace b = true) (q : Text) :
    escaped (w ++ b :: q) = escaped w ++ b :: escaped q := by
  have hnot : ¬EndsWord (escaped w ++ [b]) := by
    rintro ⟨a, ha, hends⟩
    rw [List.getLast?_concat] at ha
    cases ha
    have hword := isWordByte_of_isSpace hb
    simp only [isWordByte, Bool.or_eq_false_iff] at hword
    rw [hword.1.1, hword.1.2] at hends
    cases hends
  rw [List.append_cons, escaped, List.foldl_append, ← escaped, escaped_append_singleton,
    fts5EscapeStep_of_isWordByte (.inr hb), foldl_fts5EscapeStep hnot, List.append_assoc]
  rfl

/-! ## One word -/

/-- The word has a star that is kept. -/
def HasStar (w : Text) : Prop :=
  ∃ front back, w = front ++ 0x2A :: back ∧ EndsWord (front.filter isWordByte)

section Word

variable {w : Text} {b : UInt8}

/-- A star of a longer word is one of the word itself or its last character. -/
theorem append_singleton_eq {front back : Text} (h : w ++ [b] = front ++ 0x2A :: back) :
    (b = 0x2A ∧ w = front ∧ back = []) ∨ ∃ back', back = back' ++ [b] ∧ w = front ++ 0x2A :: back' := by
  rcases List.eq_nil_or_concat back with rfl | ⟨back', c, rfl⟩
  · obtain ⟨rfl, hb⟩ := List.append_inj' h rfl
    exact .inl ⟨(List.cons.inj hb).1, rfl, rfl⟩
  · have hcons : front ++ 0x2A :: back'.concat c = (front ++ 0x2A :: back') ++ [c] := by simp
    rw [hcons] at h
    obtain ⟨rfl, hb⟩ := List.append_inj' h rfl
    cases hb
    exact .inr ⟨back', List.concat_eq_append, rfl⟩

theorem hasStar_append_singleton :
    HasStar (w ++ [b]) ↔ HasStar w ∨ (b = 0x2A ∧ EndsWord (w.filter isWordByte)) := by
  constructor
  · rintro ⟨front, back, h, hends⟩
    rcases append_singleton_eq h with ⟨rfl, rfl, rfl⟩ | ⟨back', rfl, rfl⟩
    · exact .inr ⟨rfl, hends⟩
    · exact .inl ⟨front, back', rfl, hends⟩
  · rintro (⟨front, back, rfl, hends⟩ | ⟨rfl, hends⟩)
    · exact ⟨front, back ++ [b], by simp, hends⟩
    · exact ⟨w, [], rfl, hends⟩

theorem starsAtEnd_append_singleton :
    StarsAtEnd (w ++ [b]) ↔ StarsAtEnd w ∧ (isWordByte b = true → ¬HasStar w) := by
  constructor
  · intro h
    refine ⟨fun front back hw hends => ?_, ?_⟩
    · have hback := h front (back ++ [b]) (by rw [hw]; simp) hends
      rw [List.filter_append] at hback
      exact (List.append_eq_nil_iff.mp hback).1
    · rintro hb ⟨front, back, hw, hends⟩
      have hback := h front (back ++ [b]) (by rw [hw]; simp) hends
      rw [List.filter_append, List.filter_singleton, hb] at hback
      simp at hback
  · rintro ⟨h, hb⟩ front back hw hends
    rcases append_singleton_eq hw with ⟨-, -, rfl⟩ | ⟨back', rfl, rfl⟩
    · rfl
    · have hnot : isWordByte b = false := Bool.eq_false_iff.mpr fun hword =>
        hb hword ⟨front, back', rfl, hends⟩
      rw [List.filter_append, h front back' rfl hends, List.filter_singleton, hnot]
      rfl

theorem not_endsWord_append_star (s : Text) : ¬EndsWord (s ++ [0x2A]) := by
  rintro ⟨a, ha, hends⟩
  rw [List.getLast?_concat] at ha
  cases ha
  exact absurd hends (by decide)

theorem not_keeps (hword : isWordByte b = false) (hspace : isSpace b = false) {acc : Text}
    (hstar : b = 0x2A → ¬EndsWord acc) : ¬Keeps acc b := by
  rintro (h | h | ⟨hb, h⟩)
  · rw [hword] at h
    cases h
  · rw [hspace] at h
    cases h
  · exact hstar hb h

/-- What the filter makes of a word: its characters, and a star if it has one. -/
theorem escaped_of_starsAtEnd (hw : ∀ b ∈ w, isSpace b = false) (h : StarsAtEnd w) :
    (HasStar w ∧ EndsWord (w.filter isWordByte) ∧ escaped w = w.filter isWordByte ++ [0x2A]) ∨
      (¬HasStar w ∧ escaped w = w.filter isWordByte) := by
  induction w using List.reverseRecOn with
  | nil => exact .inr ⟨fun ⟨front, back, h, _⟩ => by simp at h, rfl⟩
  | append_singleton w b ih =>
    have hb : isSpace b = false := hw b (List.mem_append_right _ (List.mem_singleton_self b))
    obtain ⟨hstars, hafter⟩ := starsAtEnd_append_singleton.mp h
    have ih := ih (fun c hc => hw c (List.mem_append_left _ hc)) hstars
    rw [escaped_append_singleton, hasStar_append_singleton, List.filter_append,
      List.filter_singleton]
    cases hword : isWordByte b with
    | true =>
      have hnone := hafter hword
      obtain ⟨hstar, -⟩ | ⟨-, hescaped⟩ := ih
      · exact absurd hstar hnone
      · refine .inr ⟨?_, ?_⟩
        · rintro (hstar | ⟨rfl, -⟩)
          · exact hnone hstar
          · cases hword
        · rw [fts5EscapeStep_of_isWordByte (.inl hword), hescaped]
          rfl
    | false =>
      rw [cond_false, List.append_nil]
      obtain ⟨hstar, hends, hescaped⟩ | ⟨hstar, hescaped⟩ := ih
      · refine .inl ⟨.inl hstar, hends, ?_⟩
        rw [hescaped, fts5EscapeStep_of_not_keeps (not_keeps hword hb fun _ =>
          not_endsWord_append_star _)]
      · by_cases hnew : b = 0x2A ∧ EndsWord (w.filter isWordByte)
        · refine .inl ⟨.inr hnew, hnew.2, ?_⟩
          rw [hescaped, hnew.1, fts5EscapeStep_star hnew.2]
        · refine .inr ⟨not_or.mpr ⟨hstar, hnew⟩, ?_⟩
          rw [hescaped, fts5EscapeStep_of_not_keeps (not_keeps hword hb fun hb hends =>
            hnew ⟨hb, hends⟩)]

/-- Only such words become characters and at most one star. -/
theorem starsAtEnd_of_escaped (hw : ∀ b ∈ w, isSpace b = false) (star : Bool)
    (h : escaped w = w.filter isWordByte ++ if star then [0x2A] else []) : StarsAtEnd w := by
  have hfilter : ∀ s : Text, 0x2A ∉ s.filter isWordByte := fun s hmem => by
    have hstar := (List.mem_filter.mp hmem).2
    rw [isWordByte_star] at hstar
    cases hstar
  induction w using List.reverseRecOn generalizing star with
  | nil => exact fun front back h => by simp at h
  | append_singleton w b ih =>
    have hb : isSpace b = false := hw b (List.mem_append_right _ (List.mem_singleton_self b))
    have hw' : ∀ c ∈ w, isSpace c = false := fun c hc => hw c (List.mem_append_left _ hc)
    rw [escaped_append_singleton, List.filter_append, List.filter_singleton] at h
    cases hword : isWordByte b with
    | true =>
      rw [hword, cond_true, fts5EscapeStep_of_isWordByte (.inl hword)] at h
      cases star with
      | true =>
        rw [if_pos rfl] at h
        obtain ⟨-, hlast⟩ := List.append_inj' h rfl
        rw [(List.cons.inj hlast).1] at hword
        cases hword
      | false =>
        have hescaped : escaped w = w.filter isWordByte := by
          rw [if_neg Bool.false_ne_true, List.append_nil] at h
          exact List.append_cancel_right h
        have hstars := ih hw' false (by simpa using hescaped)
        refine starsAtEnd_append_singleton.mpr ⟨hstars, fun _ hstar => ?_⟩
        obtain ⟨-, -, heq⟩ | ⟨hnone, -⟩ := escaped_of_starsAtEnd hw' hstars
        · rw [hescaped] at heq
          simp at heq
        · exact hnone hstar
    | false =>
      rw [hword, cond_false, List.append_nil] at h
      refine starsAtEnd_append_singleton.mpr ⟨?_, fun hword' => ?_⟩
      · by_cases hkeeps : Keeps (escaped w) b
        · rw [fts5EscapeStep_of_keeps hkeeps] at h
          have hstar : b = 0x2A := by
            rcases hkeeps with hkeeps | hkeeps | ⟨hstar, -⟩
            · rw [hkeeps] at hword
              cases hword
            · rw [hkeeps] at hb
              cases hb
            · exact hstar
          cases star with
          | true =>
            rw [if_pos rfl] at h
            obtain ⟨hescaped, -⟩ := List.append_inj' h rfl
            exact ih hw' false (by simpa using hescaped)
          | false =>
            rw [if_neg Bool.false_ne_true, List.append_nil, hstar] at h
            exact absurd (h ▸ List.mem_append_right _ (List.mem_singleton_self _)) (hfilter w)
        · rw [fts5EscapeStep_of_not_keeps hkeeps] at h
          exact ih hw' star h
      · rw [hword] at hword'
        cases hword'

/-- The bareword of a term that a word becomes. -/
theorem bareword_of_text_eq (hw : ∀ b ∈ w, isSpace b = false) {t : Fts5.Term}
    (h : t.text = escaped w) : t.bareword = w.filter isWordByte := by
  have hbareword : ∀ b ∈ t.bareword, isWordByte b = true := by
    intro b hb
    have hmem : b ∈ escaped w := by
      rw [← h]
      exact List.mem_append_left _ hb
    rcases (of_mem_escaped hmem).2 with hword | hspace | rfl
    · exact hword
    · rw [hw b (of_mem_escaped hmem).1] at hspace
      cases hspace
    · exact absurd (t.isBareword 0x2A hb) (by decide)
  have hstar : (if t.star then [(0x2A : UInt8)] else []).filter isWordByte = [] := by
    cases t.star <;> rfl
  rw [← filter_escaped (fun _ => .inl) w, ← h, Fts5.Term.text, List.filter_append, hstar,
    List.append_nil, List.filter_eq_self.mpr hbareword]

/-- A word becomes a term, or nothing, just when a star that is kept ends it. -/
theorem escaped_isTerm_iff (hw : ∀ b ∈ w, isSpace b = false) :
    (escaped w = [] ∨ ∃ t : Fts5.Term, t.text = escaped w) ↔ StarsAtEnd w := by
  have hbareword : ∀ b ∈ w.filter isWordByte, Fts5.sqlite3Fts5IsBareword b = true :=
    fun b hb => isBareword_of_isWordByte (List.mem_filter.mp hb).2
  constructor
  · rintro (hnil | ⟨t, ht⟩)
    · refine starsAtEnd_of_escaped hw false ?_
      rw [← filter_escaped (fun _ => .inl) w, hnil]
      rfl
    · refine starsAtEnd_of_escaped hw t.star ?_
      rw [← bareword_of_text_eq hw ht, ← ht]
      rfl
  · intro h
    obtain ⟨-, ⟨a, ha, -⟩, hescaped⟩ | ⟨-, hescaped⟩ := escaped_of_starsAtEnd hw h
    · have hne : w.filter isWordByte ≠ [] := fun hnil => by
        rw [hnil] at ha
        cases ha
      exact .inr ⟨⟨w.filter isWordByte, true, hne, hbareword⟩, hescaped.symm⟩
    · by_cases hnil : w.filter isWordByte = []
      · exact .inl (hescaped.trans hnil)
      · refine .inr ⟨⟨w.filter isWordByte, false, hnil, hbareword⟩, ?_⟩
        rw [hescaped, Fts5.Term.text, if_neg Bool.false_ne_true, List.append_nil]

end Word

/-! ## All words -/

/-- The words of the escaped query come from the words of the query. -/
theorem words_escaped {q : Text} (hq : ∀ b ∈ q, b ≠ 0x0B ∧ b ≠ 0x0C) :
    words Fts5.fts5ExprIsspace (escaped q) =
      ((q.splitOnP isSpace).map escaped).filter fun w => !w.isEmpty := by
  have hpiece : ∀ w : Text, (∀ b ∈ w, isSpace b = false) →
      ∀ b ∈ escaped w, Fts5.fts5ExprIsspace b = false := by
    intro w hw b hb
    rw [Bool.eq_false_iff]
    intro hspace
    have hfalse := hw b (of_mem_escaped hb).1
    rw [isSpace_of_isspace hspace] at hfalse
    cases hfalse
  induction q using pieces_induction isSpace with
  | last w hw =>
    rw [words_piece (hpiece w hw), List.splitOnP_eq_singleton hw]
    cases h : escaped w <;> simp [h]
  | next w b q hw hb ih =>
    have hspace : Fts5.fts5ExprIsspace b = true := isspace_iff.mpr ⟨hb, hq b (by simp)⟩
    rw [escaped_append_cons w hb, words_append_cons (hpiece w hw) hspace,
      ih fun c hc => hq c (List.mem_append_right _ (List.mem_cons_of_mem b hc)),
      List.splitOnP_append_cons_of_forall_mem hw b hb]
    cases h : escaped w <;> simp [h]

theorem isSpace_of_mem_splitOnP {q w : Text} (hw : w ∈ q.splitOnP isSpace) :
    ∀ b ∈ w, isSpace b = false := by
  induction q using pieces_induction isSpace with
  | last v hv =>
    rw [List.splitOnP_eq_singleton hv, List.mem_singleton] at hw
    rw [hw]
    exact hv
  | next v b q hv hb ih =>
    rw [List.splitOnP_append_cons_of_forall_mem hv b hb] at hw
    rcases List.mem_cons.mp hw with rfl | hw
    · exact hv
    · exact ih hw

theorem mem_words_escaped_iff {q w : Text} (hq : ∀ b ∈ q, b ≠ 0x0B ∧ b ≠ 0x0C) :
    w ∈ words Fts5.fts5ExprIsspace (escaped q) ↔
      w ≠ [] ∧ ∃ v ∈ q.splitOnP isSpace, escaped v = w := by
  rw [words_escaped hq, List.mem_filter, List.mem_map, and_comm]
  simp

/-- A vertical tab or a form feed is kept and no separator. -/
theorem spaces_of_forall_words {q : Text} (h : ∀ w ∈ words Fts5.fts5ExprIsspace (escaped q),
    ∃ t : Fts5.Term, t.text = w) : ∀ b ∈ q, b ≠ 0x0B ∧ b ≠ 0x0C := by
  have hnot : ∀ b, isSpace b = true → Fts5.fts5ExprIsspace b = false → b ∉ q := by
    intro b hspace hsep hb
    obtain ⟨w, hw, hbw⟩ := exists_mem_words hsep (mem_escaped hb (.inr hspace))
    obtain ⟨t, rfl⟩ := h w hw
    rcases List.mem_append.mp hbw with hbw | hbw
    · have hbareword := t.isBareword b hbw
      rcases eq_of_isSpace hspace with rfl | rfl | rfl | rfl | rfl | rfl <;>
        exact absurd hbareword (by decide)
    · split at hbw
      · rw [List.mem_singleton.mp hbw] at hspace
        exact absurd hspace (by decide)
      · cases hbw
  intro b hb
  refine ⟨?_, ?_⟩
  · rintro rfl
    exact hnot _ (by decide) (by decide) hb
  · rintro rfl
    exact hnot _ (by decide) (by decide) hb

/-- The words of the escaped query are terms, none of them an operator, just when the query is
plain. -/
theorem forall_words_iff (q : Text) :
    (∀ w ∈ words Fts5.fts5ExprIsspace (escaped q),
      ∃ t : Fts5.Term, t.text = w ∧ t.bareword ∉ Fts5.operators) ↔ PlainQuery q := by
  constructor
  · intro h
    have hspaces := spaces_of_forall_words fun w hw => (h w hw).imp fun _ ht => ht.1
    refine ⟨hspaces, fun v hv => ?_⟩
    have hv' := isSpace_of_mem_splitOnP hv
    by_cases hnil : escaped v = []
    · refine ⟨?_, (escaped_isTerm_iff hv').mp (.inl hnil)⟩
      rw [← filter_escaped (fun _ => .inl), hnil]
      decide
    · obtain ⟨t, ht, hoperator⟩ := h _ ((mem_words_escaped_iff hspaces).mpr ⟨hnil, v, hv, rfl⟩)
      refine ⟨?_, (escaped_isTerm_iff hv').mp (.inr ⟨t, ht⟩)⟩
      rwa [← bareword_of_text_eq hv' ht]
  · intro h w hw
    obtain ⟨hne, v, hv, rfl⟩ := (mem_words_escaped_iff h.spaces).mp hw
    have hv' := isSpace_of_mem_splitOnP hv
    obtain ⟨t, ht⟩ := ((escaped_isTerm_iff hv').mpr (h.words v hv).starsAtEnd).resolve_left hne
    refine ⟨t, ht, ?_⟩
    rw [bareword_of_text_eq hv' ht]
    exact (h.words v hv).notOperator

/-- The filter gives a blank text or a list of terms just for the plain queries. -/
theorem fts5EscapeQuery_reads_iff (q : Text) :
    (IsBlank (fts5EscapeQuery q) ∨ Fts5.ReadsAsTerms (fts5EscapeQuery q)) ↔ PlainQuery q := by
  rw [fts5EscapeQuery_eq, ← forall_words_iff]
  constructor
  · rintro (hblank | ⟨first, rest, tokens, hwords, htokens⟩) w hw
    · rw [words_eq_nil_iff.mpr hblank] at hw
      cases hw
    · have hplain := (Fts5.reads_iff hwords).mp ⟨tokens, htokens⟩
      rw [hwords] at hw
      obtain ⟨t, ht, rfl⟩ := List.mem_map.mp hw
      exact ⟨t, rfl, hplain t ht⟩
  · intro h
    have hterms : words Fts5.fts5ExprIsspace (escaped q) ∈ Set.range (List.map Fts5.Term.text) := by
      rw [Set.range_list_map]
      exact fun w hw => (h w hw).imp fun _ ht => ht.1
    obtain ⟨ts, hts⟩ := hterms
    cases ts with
    | nil => exact .inl (words_eq_nil_iff.mp hts.symm)
    | cons first rest =>
      have hplain : ∀ t ∈ first :: rest, t.bareword ∉ Fts5.operators := by
        intro t ht
        obtain ⟨t', htext, hoperator⟩ := h t.text (by
          rw [← hts]
          exact List.mem_map_of_mem ht)
        rwa [← t.filter_text, ← htext, t'.filter_text]
      obtain ⟨tokens, htokens⟩ := (Fts5.reads_iff hts.symm).mpr hplain
      exact .inr ⟨first, rest, tokens, hts.symm, htokens⟩

/-- With an operator at its end a query is a syntax error, with one inside it is read as one. -/
theorem fts5EscapeQuery_operator :
    ¬(IsBlank (fts5EscapeQuery (ascii "cats OR")) ∨
      Fts5.ReadsAsTerms (fts5EscapeQuery (ascii "cats OR"))) ∧
    (∃ tokens, Fts5.fts5Tokens (fts5EscapeQuery (ascii "cats OR")) = .ok tokens ∧
      ∀ e : Fts5.Expr, e.tokens ≠ tokens) ∧
    ∃ left right, Fts5.fts5Tokens (fts5EscapeQuery (ascii "cats OR dogs")) =
      .ok (Fts5.Expr.or left right).tokens := by
  have htokens : Fts5.fts5Tokens (fts5EscapeQuery (ascii "cats OR")) =
      .ok [.string (ascii "cats"), .or] := by decide +kernel
  have herror : ∀ e : Fts5.Expr, e.tokens ≠ [.string (ascii "cats"), .or] :=
    fun e => e.tokens_ne_append_or [.string (ascii "cats")]
  refine ⟨?_, ⟨_, htokens, herror⟩, ?_⟩
  · rintro (hblank | ⟨first, rest, tokens, -, hread, htrees⟩)
    · exact absurd (hblank 0x63 (by decide)) (by decide)
    · rw [htokens] at hread
      cases hread
      exact herror _ ((htrees _).mpr rfl)
  · let word (s : Text) : Fts5.Expr := .exprlist (.one (.nearset (.phrase (.string s false))))
    refine ⟨word (ascii "cats"), word (ascii "dogs"), ?_⟩
    decide +kernel

end AgentMemory
