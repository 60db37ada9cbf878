import AgentMemory.Verification.Search.TermQueries

/-! # The normal form of full-text queries

What the filter emits depends on what it has emitted, so a text it emits is one whose every
character is kept after the characters before it. -/

namespace AgentMemory

open Foundation

/-- ASCII letters, digits, the underscore, whitespace and every byte from `0x80` on. -/
def isKept (b : UInt8) : Bool :=
  isWordByte b || isSpace b

/-- What the escaped form `s` of a query `q` is. -/
structure EscapedForm (q s : Text) : Prop where
  sublist : s.Sublist q
  kept : s.filter isKept = q.filter isKept
  only : ∀ b ∈ s, isKept b = true ∨ b = 0x2A
  stars : ∀ front back, s = front ++ 0x2A :: back → EndsWord front
  stable : fts5EscapeQuery s = s
  empty_iff : s = [] ↔ ∀ b ∈ q, isKept b = false
  firstLoop : s = q.foldl fts5EscapeStep []

/-- Every character is kept after those before it. -/
def Settled (s : Text) : Prop :=
  ∀ front b back, s = front ++ b :: back → Keeps front b

theorem isKept_star : isKept 0x2A = false := by
  decide

theorem isKept_eq_true {b : UInt8} : isKept b = true ↔ isWordByte b = true ∨ isSpace b = true := by
  rw [isKept, Bool.or_eq_true]

/-- A character that is not always kept is kept as a star only. -/
theorem Keeps.eq_star {acc : Text} {b : UInt8} (h : Keeps acc b) (hb : isKept b = false) :
    b = 0x2A ∧ EndsWord acc := by
  have hb : ¬(isWordByte b = true ∨ isSpace b = true) := by
    simp [← isKept_eq_true, hb]
  rcases h with h | h | h
  · exact absurd (.inl h) hb
  · exact absurd (.inr h) hb
  · exact h

/-! ## Settled texts -/

theorem settled_nil : Settled [] := by
  intro front b back h
  simp at h

/-- A split of a longer text is at its last character or a split of the text itself. -/
theorem Settled.append_singleton {s : Text} {b : UInt8} (hs : Settled s) (hb : Keeps s b) :
    Settled (s ++ [b]) := by
  intro front c back h
  induction back using List.reverseRecOn with
  | nil =>
    obtain ⟨rfl, hc⟩ := List.append_inj' h rfl
    rw [← (List.cons.inj hc).1]
    exact hb
  | append_singleton back d _ =>
    have hsplit : s ++ [b] = (front ++ c :: back) ++ [d] := by
      rw [h]
      simp
    exact hs front c back (List.append_inj' hsplit rfl).1

theorem Settled.of_append {s t : Text} (h : Settled (s ++ t)) : Settled s := by
  intro front b back hs
  refine h front b (back ++ t) ?_
  rw [hs]
  simp

theorem settled_escaped (q : Text) : Settled (escaped q) := by
  induction q using escaped_induction with
  | nil => exact settled_nil
  | keep q b hb hemitted ih =>
    rw [hemitted]
    exact ih.append_singleton hb
  | drop q b _ hdropped ih =>
    rw [hdropped]
    exact ih

/-- The filter emits a settled text as it is: what was emitted is what was read. -/
theorem escaped_of_settled {s : Text} (hs : Settled s) : escaped s = s := by
  induction s using List.reverseRecOn with
  | nil => rfl
  | append_singleton s b ih =>
    have hb : Keeps (escaped s) b := by
      rw [ih hs.of_append]
      exact hs s b [] rfl
    rw [escaped_append_singleton, fts5EscapeStep_of_keeps hb, ih hs.of_append]

/-! ## What is kept -/

theorem escaped_sublist (q : Text) : (escaped q).Sublist q := by
  induction q using escaped_induction with
  | nil => exact List.Sublist.slnil
  | keep q b _ hemitted ih =>
    rw [hemitted]
    exact ih.append (List.Sublist.refl [b])
  | drop q b _ hdropped ih =>
    rw [hdropped]
    exact ih.trans (List.sublist_append_left q [b])

/-- A text is empty as soon as nothing in it is always kept: its first character is no star. -/
theorem Settled.eq_nil {s : Text} (hs : Settled s) (h : s.filter isKept = []) : s = [] := by
  cases s with
  | nil => rfl
  | cons b s =>
    have hb : isKept b = false := by
      simpa using List.filter_eq_nil_iff.mp h b List.mem_cons_self
    obtain ⟨a, ha, _⟩ := ((hs [] b s rfl).eq_star hb).2
    simp at ha

theorem escaped_eq_nil {q : Text} : escaped q = [] ↔ ∀ b ∈ q, isKept b = false := by
  have hfilter : q.filter isKept = [] ↔ ∀ b ∈ q, isKept b = false := by
    simp [List.filter_eq_nil_iff]
  rw [← hfilter, ← filter_escaped fun _ => isKept_eq_true.mp]
  constructor
  · intro h
    rw [h]
    rfl
  · exact (settled_escaped q).eq_nil

theorem fts5EscapeQuery_escapedForm (q : Text) : EscapedForm q (fts5EscapeQuery q) := by
  rw [fts5EscapeQuery_eq]
  have hkept : (escaped q).filter isKept = q.filter isKept :=
    filter_escaped (fun _ => isKept_eq_true.mp) q
  refine ⟨escaped_sublist q, hkept, ?_, ?_, ?_, escaped_eq_nil, rfl⟩
  · intro b hb
    rw [isKept_eq_true]
    exact or_assoc.mpr (of_mem_escaped hb).2
  · intro front back h
    exact ((settled_escaped q front 0x2A back h).eq_star isKept_star).2
  · rw [fts5EscapeQuery_eq]
    exact escaped_of_settled (settled_escaped q)

example : fts5EscapeQuery (ascii "auto*-\"bind\" (*x)") = ascii "auto*bind x" := by
  decide +kernel

end AgentMemory
