import AgentMemory.Foundation.Words
import AgentMemory.Model.Like
import AgentMemory.Verification.Search.Ranking
import AgentMemory.Verification.Serialization.Utf8

/-! # The `LIKE` fallback searches for a literal -/

namespace AgentMemory

open Foundation

/-! ## What a pattern means

An escaped character stands for itself, and an escape character at the end for nothing. -/

def wildcards : List ℕ → List (Wildcard ℕ)
  | [] => []
  | c :: pattern =>
      if c = matchAll then .many :: wildcards pattern
      else if c = matchOther then
        match pattern with
        | [] => [.one fun _ => false]
        | c :: pattern => .one (sameCharacter c) :: wildcards pattern
      else .one (fun c2 => sameCharacter c c2 || c == matchOne) :: wildcards pattern

/-- A character up to ASCII case. -/
def foldCase (c : ℕ) : ℕ :=
  sqlite3Tolower c

theorem sameCharacter_eq (c c2 : ℕ) : sameCharacter c c2 = (foldCase c == foldCase c2) := by
  rw [Bool.eq_iff_iff]
  simp only [sameCharacter, foldCase, sqlite3Tolower, Bool.or_eq_true, Bool.and_eq_true,
    beq_iff_eq, decide_eq_true_eq]
  split <;> split <;> omega

/-- The search stops at both cases of a letter. -/
theorem stopsAt_eq (c : ℕ) : stopsAt c = sameCharacter c := by
  funext c2
  rw [Bool.eq_iff_iff]
  unfold stopsAt sameCharacter sqlite3Toupper sqlite3Tolower
  by_cases hc : c < 0x80
  · rw [if_pos hc]
    simp only [Bool.or_eq_true, Bool.and_eq_true, beq_iff_eq, decide_eq_true_eq]
    split <;> split <;> split <;> omega
  · rw [if_neg hc]
    simp only [Bool.or_eq_true, Bool.and_eq_true, beq_iff_eq, decide_eq_true_eq]
    omega

/-! ### One character of a pattern -/

section Equations

variable {c : ℕ} {pattern : List ℕ}

theorem wildcards_all : wildcards (matchAll :: pattern) = .many :: wildcards pattern := by
  rw [wildcards.eq_def]
  rfl

theorem wildcards_escape : wildcards [matchOther] = [.one fun _ => false] :=
  rfl

theorem wildcards_escaped :
    wildcards (matchOther :: c :: pattern) = .one (sameCharacter c) :: wildcards pattern :=
  rfl

theorem wildcards_other (hall : c ≠ matchAll) (hother : c ≠ matchOther) :
    wildcards (c :: pattern) =
      .one (fun c2 => sameCharacter c c2 || c == matchOne) :: wildcards pattern := by
  rw [wildcards.eq_def]
  simp only [if_neg hall, if_neg hother]

theorem patternCompare_all (s : List ℕ) :
    patternCompare (matchAll :: pattern) s = skipMatchAll pattern s := by
  rw [patternCompare.eq_def]
  rfl

theorem patternCompare_escape (s : List ℕ) : patternCompare [matchOther] s = .noMatch :=
  rfl

theorem patternCompare_escaped (s : List ℕ) : patternCompare (matchOther :: c :: pattern) s =
    compareNext (sameCharacter c) (patternCompare pattern) s :=
  rfl

theorem patternCompare_other (hall : c ≠ matchAll) (hother : c ≠ matchOther) (s : List ℕ) :
    patternCompare (c :: pattern) s =
      compareNext (fun c2 => sameCharacter c c2 || c == matchOne) (patternCompare pattern) s := by
  rw [patternCompare.eq_def]
  simp only [if_neg hall, if_neg hother]

theorem skipMatchAll_all (s : List ℕ) :
    skipMatchAll (matchAll :: pattern) s = skipMatchAll pattern s := by
  rw [skipMatchAll.eq_def]
  rfl

theorem skipMatchAll_one_cons (a : ℕ) (s : List ℕ) :
    skipMatchAll (matchOne :: pattern) (a :: s) = skipMatchAll pattern s := by
  rw [skipMatchAll.eq_def]
  rfl

theorem skipMatchAll_one_nil : skipMatchAll (matchOne :: pattern) [] = .noWildcardMatch := by
  rw [skipMatchAll.eq_def]
  rfl

theorem skipMatchAll_escape (s : List ℕ) : skipMatchAll [matchOther] s = .noWildcardMatch :=
  rfl

theorem skipMatchAll_escaped (s : List ℕ) : skipMatchAll (matchOther :: c :: pattern) s =
    searchFrom (stopsAt c) (patternCompare pattern) s :=
  rfl

theorem skipMatchAll_other (hall : c ≠ matchAll) (hone : c ≠ matchOne) (hother : c ≠ matchOther)
    (s : List ℕ) : skipMatchAll (c :: pattern) s =
      searchFrom (stopsAt c) (patternCompare pattern) s := by
  rw [skipMatchAll.eq_def]
  simp only [if_neg hall, if_neg hother, if_neg hone]

end Equations

/-! ### The two loops -/

theorem Decides.compareNext {accepts : ℕ → Bool} {p : List (Wildcard ℕ)}
    {compare : List ℕ → Comparison} (h : ∀ s, Decides p s (compare s)) (s : List ℕ) :
    Decides (.one accepts :: p) s (compareNext accepts compare s) := by
  cases s with
  | nil => exact .one_nil
  | cons c s => exact (h s).one_cons

/-- Both loops decide what the pattern means, the second one after a `%`. -/
structure ComparesAs (pattern : List ℕ) : Prop where
  loop : ∀ s, Decides (wildcards pattern) s (patternCompare pattern s)
  afterAll : ∀ s, Decides (.many :: wildcards pattern) s (skipMatchAll pattern s)

theorem ComparesAs.nil : ComparesAs [] where
  loop := Decides.empty
  afterAll _ := .many (iff_of_true rfl matches_many_end)

theorem ComparesAs.all {pattern : List ℕ} (h : ComparesAs pattern) :
    ComparesAs (matchAll :: pattern) where
  loop s := by
    rw [wildcards_all, patternCompare_all]
    exact h.afterAll s
  afterAll s := .many (by
    rw [wildcards_all, skipMatchAll_all, matches_many_many]
    exact (h.afterAll s).matched_iff)

theorem ComparesAs.escape : ComparesAs [matchOther] where
  loop s := ⟨by simp [patternCompare_escape, wildcards_escape, Matches],
    by simp [patternCompare_escape]⟩
  afterAll s := .many (by simp [skipMatchAll_escape, wildcards_escape, Matches])

theorem ComparesAs.escaped {pattern : List ℕ} (h : ComparesAs pattern) (c : ℕ) :
    ComparesAs (matchOther :: c :: pattern) where
  loop s := by
    rw [wildcards_escaped, patternCompare_escaped]
    exact Decides.compareNext h.loop s
  afterAll s := by
    rw [wildcards_escaped, skipMatchAll_escaped, stopsAt_eq]
    exact Decides.searchFrom h.loop s

theorem ComparesAs.one {pattern : List ℕ} (h : ComparesAs pattern) :
    ComparesAs (matchOne :: pattern) where
  loop s := by
    rw [wildcards_other (by decide) (by decide), patternCompare_other (by decide) (by decide)]
    exact Decides.compareNext h.loop s
  afterAll s := by
    have hany : ∀ c2, (sameCharacter matchOne c2 || matchOne == matchOne) = true := by simp
    rw [wildcards_other (by decide) (by decide)]
    cases s with
    | nil =>
      rw [skipMatchAll_one_nil]
      exact .many_one_nil
    | cons a s =>
      refine .many ?_
      rw [skipMatchAll_one_cons, matches_many_any_cons hany]
      exact (h.afterAll s).matched_iff

theorem ComparesAs.other {pattern : List ℕ} (h : ComparesAs pattern) {c : ℕ} (hall : c ≠ matchAll)
    (hother : c ≠ matchOther) (hone : c ≠ matchOne) : ComparesAs (c :: pattern) where
  loop s := by
    rw [wildcards_other hall hother, patternCompare_other hall hother]
    exact Decides.compareNext h.loop s
  afterAll s := by
    have hsame : (fun c2 => sameCharacter c c2 || c == matchOne) = sameCharacter c := by
      funext c2
      simp [hone]
    rw [wildcards_other hall hother, skipMatchAll_other hall hone hother, stopsAt_eq, hsame]
    exact Decides.searchFrom h.loop s

theorem ComparesAs.cons {pattern : List ℕ} (h : ComparesAs pattern)
    (htail : ComparesAs pattern.tail) (c : ℕ) : ComparesAs (c :: pattern) := by
  by_cases hall : c = matchAll
  · rw [hall]
    exact h.all
  by_cases hother : c = matchOther
  · rw [hother]
    cases pattern with
    | nil => exact .escape
    | cons d pattern => exact htail.escaped d
  by_cases hone : c = matchOne
  · rw [hone]
    exact h.one
  · exact h.other hall hother hone

/-- The backtracking of `patternCompare`, with its early ends, loses no match. -/
theorem patternCompare_decides (pattern : List ℕ) : ComparesAs pattern := by
  have hboth : ComparesAs pattern ∧ ComparesAs pattern.tail := by
    induction pattern with
    | nil => exact ⟨.nil, .nil⟩
    | cons c pattern ih => exact ⟨ih.1.cons ih.2 c, ih.1⟩
  exact hboth.1

/-! ## The escaped pattern -/

section Characters

variable {b : UInt8} {rest : Text}

theorem characters_nil : characters [] = [] := by
  rw [characters]

theorem characters_single (h0 : b ≠ 0) (hb : b < 0xC0) :
    characters (b :: rest) = b.toNat :: characters rest := by
  rw [characters, if_neg h0, if_pos hb]

theorem characters_multibyte (hb : ¬b < 0xC0) :
    characters (b :: rest) = sqlite3Utf8Read b (rest.takeWhile isContinuation) ::
      characters (rest.dropWhile isContinuation) := by
  have h0 : b ≠ 0 := by
    rintro rfl
    exact hb (by decide)
  rw [characters, if_neg h0, if_neg hb]

/-- Several bytes never encode an ASCII character. -/
theorem le_sqlite3Utf8Read (b : UInt8) (continuation : Text) :
    0x80 ≤ sqlite3Utf8Read b continuation := by
  unfold sqlite3Utf8Read
  dsimp only
  split <;> omega

end Characters

/-- No character of the text before goes on in this one. -/
def StartsCharacter (s : Text) : Prop :=
  ∀ b, s.head? = some b → isContinuation b = false

theorem startsCharacter_dropWhile (s : Text) : StartsCharacter (s.dropWhile isContinuation) := by
  intro b hb
  have hnot := List.head?_dropWhile_not isContinuation s
  rw [hb] at hnot
  simpa using hnot

/-- The characters that `EscapeLikePattern` puts a backslash before. -/
def IsSpecial (b : UInt8) : Prop :=
  b = 0x5C ∨ b = 0x25 ∨ b = 0x5F

instance : DecidablePred IsSpecial := fun b =>
  inferInstanceAs (Decidable (b = 0x5C ∨ b = 0x25 ∨ b = 0x5F))

theorem escapeLikePattern_cons (b : UInt8) (rest : Text) : escapeLikePattern (b :: rest) =
    (if IsSpecial b then [0x5C, b] else [b]) ++ escapeLikePattern rest :=
  rfl

theorem escapeLikePattern_append (s t : Text) :
    escapeLikePattern (s ++ t) = escapeLikePattern s ++ escapeLikePattern t :=
  List.flatMap_append

theorem escapeLikePattern_eq_self {s : Text} (h : ∀ b ∈ s, ¬IsSpecial b) :
    escapeLikePattern s = s := by
  induction s with
  | nil => rfl
  | cons b rest ih =>
    rw [escapeLikePattern_cons, if_neg (h b List.mem_cons_self),
      ih fun c hc => h c (List.mem_cons_of_mem b hc)]
    rfl

theorem not_isSpecial_of_isContinuation {b : UInt8} (h : isContinuation b = true) :
    ¬IsSpecial b := by
  rintro (rfl | rfl | rfl) <;> exact absurd h (by decide)

theorem startsCharacter_escapeLikePattern {q t : Text} (hq : StartsCharacter q)
    (ht : StartsCharacter t) : StartsCharacter (escapeLikePattern q ++ t) := by
  cases q with
  | nil => exact ht
  | cons b rest =>
    intro c hc
    rw [escapeLikePattern_cons] at hc
    by_cases hb : IsSpecial b
    · rw [if_pos hb] at hc
      cases hc
      decide
    · rw [if_neg hb] at hc
      cases hc
      exact hq b rfl

/-- A character that is neither a wildcard nor the escape character. -/
def IsLiteral (c : ℕ) : Prop :=
  c ≠ matchAll ∧ c ≠ matchOther ∧ c ≠ matchOne

theorem wildcards_literal {c : ℕ} (h : IsLiteral c) (pattern : List ℕ) :
    wildcards (c :: pattern) = .one (fun a => foldCase c == foldCase a) :: wildcards pattern := by
  have haccepts : (fun a => sameCharacter c a || c == matchOne) =
      fun a => foldCase c == foldCase a := by
    funext a
    simp [sameCharacter_eq, h.2.2]
  rw [wildcards_other h.1 h.2.1, haccepts]

theorem wildcards_escaped_literal (c : ℕ) (pattern : List ℕ) :
    wildcards (matchOther :: c :: pattern) =
      .one (fun a => foldCase c == foldCase a) :: wildcards pattern := by
  rw [wildcards_escaped, funext (sameCharacter_eq c)]

theorem isLiteral_toNat {b : UInt8} (h : ¬IsSpecial b) : IsLiteral b.toNat := by
  refine ⟨fun hb => h ?_, fun hb => h ?_, fun hb => h ?_⟩
  · exact .inr (.inl (UInt8.toNat_inj.mp hb))
  · exact .inl (UInt8.toNat_inj.mp hb)
  · exact .inr (.inr (UInt8.toNat_inj.mp hb))

theorem isLiteral_of_le {c : ℕ} (h : 0x80 ≤ c) : IsLiteral c := by
  refine ⟨?_, ?_, ?_⟩ <;> rintro rfl <;> exact absurd h (by decide)

/-- An escaped text is a pattern of literal characters. -/
theorem wildcards_escapeLikePattern {q t : Text} (hq : 0 ∉ q) (ht : StartsCharacter t) :
    wildcards (characters (escapeLikePattern q ++ t)) =
      literals foldCase (characters q) ++ wildcards (characters t) := by
  induction q using characters.induct with
  | case1 => simp [escapeLikePattern, characters_nil, literals]
  | case2 rest => simp at hq
  | case3 b rest h0 hb ih =>
    have hrest := ih fun h => hq (List.mem_cons_of_mem b h)
    rw [escapeLikePattern_cons, characters_single h0 hb]
    by_cases hspecial : IsSpecial b
    · have hescape : characters (0x5C :: b :: (escapeLikePattern rest ++ t)) =
          matchOther :: b.toNat :: characters (escapeLikePattern rest ++ t) := by
        rw [characters_single (by decide) (by decide), characters_single h0 hb]
        rfl
      rw [if_pos hspecial, List.cons_append, List.cons_append, List.cons_append, List.cons_append,
        List.nil_append, hescape, wildcards_escaped_literal, hrest]
      rfl
    · rw [if_neg hspecial, List.cons_append, List.cons_append, List.nil_append,
        characters_single h0 hb, wildcards_literal (isLiteral_toNat hspecial), hrest]
      rfl
  | case4 b rest h0 hb hlen ih =>
    -- the continuation bytes stay as they are, and the pattern goes on at a character
    have hfront : ∀ c ∈ rest.takeWhile isContinuation, isContinuation c = true :=
      fun c hc => List.mem_takeWhile_imp hc
    have hstart := startsCharacter_escapeLikePattern (startsCharacter_dropWhile rest) ht
    have hspecial : ¬IsSpecial b := by
      rintro (rfl | rfl | rfl) <;> exact hb (by decide)
    have hescape : escapeLikePattern (b :: rest) ++ t = b :: (rest.takeWhile isContinuation ++
        (escapeLikePattern (rest.dropWhile isContinuation) ++ t)) := by
      rw [escapeLikePattern_cons, if_neg hspecial]
      conv_lhs => rw [← List.takeWhile_append_dropWhile (p := isContinuation) (l := rest)]
      rw [escapeLikePattern_append, escapeLikePattern_eq_self fun c hc =>
        not_isSpecial_of_isContinuation (hfront c hc)]
      simp
    rw [hescape, characters_multibyte hb, characters_multibyte hb,
      takeWhile_append_of_stop hfront hstart, dropWhile_append_of_stop hfront hstart,
      wildcards_literal (isLiteral_of_le (le_sqlite3Utf8Read b _)), ih]
    · rfl
    · exact fun h => hq (List.mem_cons_of_mem b ((List.dropWhile_suffix _).mem h))

/-- The fallback looks for the characters of the query, up to ASCII case. -/
theorem patternCompare_likePattern {q : Text} (hq : 0 ∉ q) (t : Text) :
    patternCompare (characters (likePattern q)) (characters t) = .matched ↔
      (characters q).map foldCase <:+: (characters t).map foldCase := by
  have hpattern : characters (likePattern q) =
      matchAll :: characters (escapeLikePattern q ++ ascii "%") := by
    have hcons : likePattern q = 0x25 :: (escapeLikePattern q ++ ascii "%") := rfl
    rw [hcons, characters_single (by decide) (by decide)]
    rfl
  have hend : wildcards (characters (ascii "%")) = [.many] := by
    have hcharacters : characters (ascii "%") = [matchAll] := by
      have hcons : ascii "%" = [0x25] := rfl
      rw [hcons, characters_single (by decide) (by decide), characters_nil]
      rfl
    rw [hcharacters]
    rfl
  have hstart : StartsCharacter (ascii "%") := by
    intro b hb
    cases hb
    decide
  rw [((patternCompare_decides _).loop _).matched_iff, hpattern, wildcards_all,
    wildcards_escapeLikePattern hq hstart, hend, matches_contains_iff]

end AgentMemory
