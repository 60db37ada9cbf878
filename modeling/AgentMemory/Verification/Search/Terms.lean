import AgentMemory.Foundation.Words
import AgentMemory.Model.Fts5

/-! # Lists of terms in the query language

A text whose words are barewords, each with at most one star at its end, is read as the
conjunction of its words, and in no other way, unless one of them is an operator. -/

namespace AgentMemory.Fts5

open Foundation

/-! ## Terms -/

/-- A bareword, or the prefix that it stands for with a star. -/
structure Term where
  bareword : Text
  star : Bool
  ne_nil : bareword ≠ []
  isBareword : ∀ b ∈ bareword, sqlite3Fts5IsBareword b = true

namespace Term

def text (t : Term) : Text :=
  t.bareword ++ if t.star then [0x2A] else []

def phrase (t : Term) : Phrase :=
  .string t.bareword t.star

/-- A star is no character of a bareword. -/
theorem filter_text (t : Term) : t.text.filter sqlite3Fts5IsBareword = t.bareword := by
  have hstar : (if t.star then [(0x2A : UInt8)] else []).filter sqlite3Fts5IsBareword = [] := by
    cases t.star <;> rfl
  rw [text, List.filter_append, hstar, List.append_nil, List.filter_eq_self.mpr t.isBareword]

end Term

/-- The implicit conjunction of single phrases. -/
def phrases (first : Phrase) (rest : List Phrase) : Exprlist :=
  rest.foldl (fun list p => .snoc list (.nearset (.phrase p))) (.one (.nearset (.phrase first)))

def conjunction (first : Term) (rest : List Term) : Expr :=
  .exprlist (phrases first.phrase (rest.map Term.phrase))

/-- The words of the text are terms, and it is read as their conjunction and in no other way. -/
def ReadsAsTerms (s : Text) : Prop :=
  ∃ first rest tokens, words fts5ExprIsspace s = (first :: rest).map Term.text ∧
    fts5Tokens s = .ok tokens ∧ ∀ e : Expr, e.tokens = tokens ↔ e = conjunction first rest

def operators : List Text :=
  [ascii "OR", ascii "NOT", ascii "AND"]

theorem bareword_eq_string_iff {s : Text} : bareword s = .string s ↔ s ∉ operators := by
  unfold bareword operators
  split_ifs <;> simp_all

/-! ## Tokens -/

section Characters

variable {b : UInt8}

theorem eq_of_isspace (h : fts5ExprIsspace b = true) :
    b = 0x20 ∨ b = 0x09 ∨ b = 0x0A ∨ b = 0x0D := by
  simpa [fts5ExprIsspace, or_assoc] using h

theorem isBareword_of_isspace (h : fts5ExprIsspace b = true) : sqlite3Fts5IsBareword b = false := by
  rcases eq_of_isspace h with rfl | rfl | rfl | rfl <;> decide

theorem isspace_of_isBareword (h : sqlite3Fts5IsBareword b = true) : fts5ExprIsspace b = false := by
  rw [Bool.eq_false_iff]
  intro hspace
  rw [isBareword_of_isspace hspace] at h
  cases h

/-- A bareword character begins no other token. -/
theorem punctuation_of_isBareword (h : sqlite3Fts5IsBareword b = true) :
    punctuation b = none ∧ b ≠ 0x22 := by
  have hne : ∀ c, sqlite3Fts5IsBareword c = false → b ≠ c := by
    rintro c hc rfl
    rw [h] at hc
    cases hc
  refine ⟨?_, hne 0x22 (by decide)⟩
  simp only [punctuation, hne 0x28 (by decide), hne 0x29 (by decide), hne 0x7B (by decide),
    hne 0x7D (by decide), hne 0x3A (by decide), hne 0x2C (by decide), hne 0x2B (by decide),
    hne 0x2A (by decide), hne 0x2D (by decide), hne 0x5E (by decide), if_false]

end Characters

section Tokens

variable {b : UInt8} {s rest : Text} {token : Token}

theorem fts5Tokens_of_eof (h : fts5ExprGetToken s = .eof) : fts5Tokens s = .ok [] := by
  rw [fts5Tokens]
  split <;> simp_all

theorem fts5Tokens_of_token (h : fts5ExprGetToken s = .token token rest) :
    fts5Tokens s = (fts5Tokens rest).map (token :: ·) := by
  rw [fts5Tokens]
  split <;> simp_all

theorem fts5Tokens_of_error {message : Text} (h : fts5ExprGetToken s = .error message) :
    fts5Tokens s = .error message := by
  rw [fts5Tokens]
  split <;> simp_all

theorem fts5Tokens_nil : fts5Tokens [] = .ok [] :=
  fts5Tokens_of_eof rfl

theorem fts5Tokens_space (hb : fts5ExprIsspace b = true) :
    fts5Tokens (b :: rest) = fts5Tokens rest := by
  have hread : fts5ExprGetToken (b :: rest) = fts5ExprGetToken rest := by
    rw [fts5ExprGetToken, List.dropWhile_cons, if_pos hb, fts5ExprGetToken]
  cases h : fts5ExprGetToken rest with
  | eof => rw [fts5Tokens_of_eof h, fts5Tokens_of_eof (hread.trans h)]
  | token token after => rw [fts5Tokens_of_token h, fts5Tokens_of_token (hread.trans h)]
  | error message => rw [fts5Tokens_of_error h, fts5Tokens_of_error (hread.trans h)]

theorem fts5Tokens_star (rest : Text) :
    fts5Tokens (0x2A :: rest) = (fts5Tokens rest).map (.star :: ·) :=
  fts5Tokens_of_token rfl

theorem fts5Tokens_bareword {w : Text} (hne : w ≠ [])
    (hw : ∀ b ∈ w, sqlite3Fts5IsBareword b = true)
    (hrest : ∀ b, rest.head? = some b → sqlite3Fts5IsBareword b = false) :
    fts5Tokens (w ++ rest) = (fts5Tokens rest).map (bareword w :: ·) := by
  refine fts5Tokens_of_token ?_
  obtain ⟨b, w, rfl⟩ := List.exists_cons_of_ne_nil hne
  have hb := hw b List.mem_cons_self
  have hw' : ∀ c ∈ w, sqlite3Fts5IsBareword c = true := fun c hc => hw c (List.mem_cons_of_mem b hc)
  obtain ⟨hpunctuation, hquote⟩ := punctuation_of_isBareword hb
  rw [fts5ExprGetToken, List.cons_append, List.dropWhile_cons, isspace_of_isBareword hb]
  simp only [Bool.false_eq_true, if_false, hpunctuation, if_neg hquote, hb, if_true,
    takeWhile_append_of_stop hw' hrest, dropWhile_append_of_stop hw' hrest]

end Tokens

/-- The tokens of a term, an operator among them if it is one. -/
def Term.tokens (t : Term) : List Token :=
  Fts5.bareword t.bareword :: starOpt t.star

theorem except_map_map {ε α β γ : Type} (x : Except ε α) (f : α → β) (g : β → γ) :
    (x.map f).map g = x.map (g ∘ f) := by
  cases x <;> rfl

theorem fts5Tokens_term (t : Term) {rest : Text}
    (hrest : ∀ b, rest.head? = some b → sqlite3Fts5IsBareword b = false) :
    fts5Tokens (t.text ++ rest) = (fts5Tokens rest).map (t.tokens ++ ·) := by
  have hstar : sqlite3Fts5IsBareword 0x2A = false := by decide
  cases h : t.star with
  | false =>
    have htext : t.text ++ rest = t.bareword ++ rest := by simp [Term.text, h]
    rw [htext, fts5Tokens_bareword t.ne_nil t.isBareword hrest]
    simp [Term.tokens, starOpt, h]
  | true =>
    have htext : t.text ++ rest = t.bareword ++ (0x2A :: rest) := by simp [Term.text, h]
    rw [htext, fts5Tokens_bareword t.ne_nil t.isBareword (by simp [hstar]), fts5Tokens_star,
      except_map_map]
    simp [Term.tokens, starOpt, h, Function.comp_def]

/-- Words that are terms are read one after another. -/
theorem fts5Tokens_of_words {s : Text} {ts : List Term}
    (h : words fts5ExprIsspace s = ts.map Term.text) :
    fts5Tokens s = .ok (ts.flatMap Term.tokens) := by
  induction s using pieces_induction fts5ExprIsspace generalizing ts with
  | last w hw =>
    rw [words_piece hw] at h
    cases w with
    | nil =>
      rw [List.map_eq_nil_iff.mp h.symm]
      exact fts5Tokens_nil
    | cons b w =>
      obtain ⟨t, ts', rfl, ht, hts'⟩ := List.map_eq_cons_iff.mp h.symm
      rw [List.map_eq_nil_iff.mp hts', ← ht, ← List.append_nil t.text,
        fts5Tokens_term t (by simp), fts5Tokens_nil]
      simp [Except.map]
  | next w b s hw hb ih =>
    rw [words_append_cons hw hb] at h
    cases w with
    | nil => rw [List.nil_append, fts5Tokens_space hb, ih h]
    | cons c w =>
      obtain ⟨t, ts', rfl, ht, hts'⟩ := List.map_eq_cons_iff.mp h.symm
      have hstop : ∀ d, (b :: s).head? = some d → sqlite3Fts5IsBareword d = false := by
        intro d hd
        cases hd
        exact isBareword_of_isspace hb
      rw [← ht, fts5Tokens_term t hstop, fts5Tokens_space hb, ih hts'.symm]
      simp [Except.map]

/-! ## Trees -/

theorem phrases_append_singleton (first : Phrase) (rest : List Phrase) (p : Phrase) :
    phrases first (rest ++ [p]) = .snoc (phrases first rest) (.nearset (.phrase p)) := by
  rw [phrases, List.foldl_append]
  rfl

theorem tokens_phrases (first : Phrase) (rest : List Phrase) :
    (phrases first rest).tokens = (first :: rest).flatMap Phrase.tokens := by
  induction rest using List.reverseRecOn with
  | nil => simp [phrases, Exprlist.tokens, Cnearset.tokens, Nearset.tokens]
  | append_singleton rest p ih =>
    rw [phrases_append_singleton, Exprlist.tokens, ih]
    simp [Cnearset.tokens, Nearset.tokens]

/-- A token of a list of terms without operators. -/
def Token.OfTerm : Token → Prop
  | .string _ => True
  | .star => True
  | _ => False

/-- A phrase of one string. -/
def Phrase.IsString : Phrase → Prop
  | .string _ _ => True
  | .plus _ _ _ => False

theorem Phrase.isString_of_tokens {p : Phrase} (h : ∀ t ∈ p.tokens, t.OfTerm) : p.IsString := by
  cases p with
  | string text star => trivial
  | plus p text star => exact absurd (h .plus (by simp [Phrase.tokens])) id

/-- Strings and stars derive nothing but phrases of one string. -/
theorem Cnearset.eq_of_tokens {c : Cnearset} (h : ∀ t ∈ c.tokens, t.OfTerm) :
    ∃ p : Phrase, p.IsString ∧ c = .nearset (.phrase p) := by
  cases c with
  | nearset n =>
    cases n with
    | phrase p => exact ⟨p, Phrase.isString_of_tokens h, rfl⟩
    | caret p => exact absurd (h .caret (by simp [Cnearset.tokens, Nearset.tokens])) id
    | near text ps distance => exact absurd (h .lp (by simp [Cnearset.tokens, Nearset.tokens])) id
  | colset columns n => exact absurd (h .colon (by simp [Cnearset.tokens])) id

theorem Exprlist.eq_of_tokens {list : Exprlist} (h : ∀ t ∈ list.tokens, t.OfTerm) :
    ∃ first rest, (∀ p ∈ first :: rest, p.IsString) ∧ list = phrases first rest := by
  induction list with
  | one c =>
    obtain ⟨p, hp, rfl⟩ := Cnearset.eq_of_tokens h
    exact ⟨p, [], by simpa using hp, rfl⟩
  | snoc list c ih =>
    obtain ⟨first, rest, hrest, rfl⟩ := ih fun t ht => h t (List.mem_append_left _ ht)
    obtain ⟨p, hp, rfl⟩ := Cnearset.eq_of_tokens fun t ht => h t (List.mem_append_right _ ht)
    refine ⟨first, rest ++ [p], ?_, (phrases_append_singleton first rest p).symm⟩
    intro q hq
    rw [← List.cons_append] at hq
    rcases List.mem_append.mp hq with hq | hq
    · exact hrest q hq
    · rw [List.mem_singleton.mp hq]
      exact hp

theorem Expr.eq_of_tokens {e : Expr} (h : ∀ t ∈ e.tokens, t.OfTerm) :
    ∃ first rest, (∀ p ∈ first :: rest, p.IsString) ∧ e = .exprlist (phrases first rest) := by
  cases e with
  | and left right => exact absurd (h .and (by simp [Expr.tokens])) id
  | or left right => exact absurd (h .or (by simp [Expr.tokens])) id
  | not left right => exact absurd (h .not (by simp [Expr.tokens])) id
  | colset columns e => exact absurd (h .lp (by simp [Expr.tokens])) id
  | paren e => exact absurd (h .lp (by simp [Expr.tokens])) id
  | exprlist list =>
    obtain ⟨first, rest, hstrings, rfl⟩ := Exprlist.eq_of_tokens h
    exact ⟨first, rest, hstrings, rfl⟩

/-- No phrase begins with a star. -/
theorem head_flatMap_tokens {ps : List Phrase} (hps : ∀ p ∈ ps, p.IsString) (ts : List Token) :
    ps.flatMap Phrase.tokens ≠ .star :: ts := by
  cases ps with
  | nil => simp
  | cons p ps =>
    cases p with
    | string text star => simp [Phrase.tokens]
    | plus p text star => exact absurd (hps _ List.mem_cons_self) id

/-- Phrases of one string are read off their tokens. -/
theorem flatMap_tokens_injective {ps qs : List Phrase} (hps : ∀ p ∈ ps, p.IsString)
    (hqs : ∀ q ∈ qs, q.IsString) (h : ps.flatMap Phrase.tokens = qs.flatMap Phrase.tokens) :
    ps = qs := by
  induction ps generalizing qs with
  | nil =>
    cases qs with
    | nil => rfl
    | cons q qs => cases q <;> simp [Phrase.tokens] at h
  | cons p ps ih =>
    cases qs with
    | nil => cases p <;> simp [Phrase.tokens] at h
    | cons q qs =>
      have hps' : ∀ p' ∈ ps, p'.IsString := fun p' hp' => hps p' (List.mem_cons_of_mem p hp')
      have hqs' : ∀ q' ∈ qs, q'.IsString := fun q' hq' => hqs q' (List.mem_cons_of_mem q hq')
      cases p with
      | plus p text star => exact absurd (hps _ List.mem_cons_self) id
      | string text star =>
        cases q with
        | plus q text star => exact absurd (hqs _ List.mem_cons_self) id
        | string text' star' =>
          simp only [List.flatMap_cons, Phrase.tokens, List.cons_append, List.nil_append,
            List.cons.injEq, Token.string.injEq] at h
          obtain ⟨rfl, h⟩ := h
          -- the star is the first token's own, since no phrase begins with one
          cases star <;> cases star'
          · rw [ih hps' hqs' h]
          · exact absurd h (head_flatMap_tokens hps' _)
          · exact absurd h.symm (head_flatMap_tokens hqs' _)
          · rw [ih hps' hqs' (List.cons.inj h).2]

theorem tokens_conjunction (first : Term) (rest : List Term) :
    (conjunction first rest).tokens =
      (first :: rest).flatMap fun t => .string t.bareword :: starOpt t.star := by
  rw [conjunction, Expr.tokens, tokens_phrases, ← List.map_cons, List.flatMap_map]
  rfl

/-- Strings and stars are read as the conjunction of the terms, and in no other way. -/
theorem tokens_eq_iff (first : Term) (rest : List Term) (e : Expr) :
    (e.tokens = (first :: rest).flatMap fun t => .string t.bareword :: starOpt t.star) ↔
      e = conjunction first rest := by
  constructor
  · intro h
    have hterms : ∀ t ∈ e.tokens, t.OfTerm := by
      intro t ht
      rw [h, List.mem_flatMap] at ht
      obtain ⟨term, -, ht⟩ := ht
      rcases List.mem_cons.mp ht with rfl | ht
      · trivial
      · unfold starOpt at ht
        split at ht
        · rw [List.mem_singleton.mp ht]
          trivial
        · cases ht
    obtain ⟨first', rest', hstrings, rfl⟩ := Expr.eq_of_tokens hterms
    have hphrases : first' :: rest' = (first :: rest).map Term.phrase := by
      refine flatMap_tokens_injective hstrings ?_ ?_
      · intro p hp
        obtain ⟨t, -, rfl⟩ := List.mem_map.mp hp
        trivial
      · rw [← tokens_phrases, List.flatMap_map]
        exact h
    obtain ⟨rfl, rfl⟩ := List.cons.inj hphrases
    rfl
  · rintro rfl
    exact tokens_conjunction first rest

/-- Each token of a term is a string, or one of them is not. -/
theorem flatMap_tokens_eq_iff (ts : List Term) :
    (ts.flatMap fun t => .string t.bareword :: starOpt t.star) = ts.flatMap Term.tokens ↔
      ∀ t ∈ ts, t.bareword ∉ operators := by
  induction ts with
  | nil => simp
  | cons t ts ih =>
    rw [List.flatMap_cons, List.flatMap_cons, Term.tokens, List.cons_append, List.cons_append,
      List.cons.injEq, List.append_cancel_left_eq, ih, List.forall_mem_cons, eq_comm,
      bareword_eq_string_iff]

/-- Words that are terms are read as their conjunction unless one of them is an operator. -/
theorem reads_iff {s : Text} {first : Term} {rest : List Term}
    (h : words fts5ExprIsspace s = (first :: rest).map Term.text) :
    (∃ tokens, fts5Tokens s = .ok tokens ∧ ∀ e : Expr, e.tokens = tokens ↔
      e = conjunction first rest) ↔ ∀ t ∈ first :: rest, t.bareword ∉ operators := by
  have htokens := fts5Tokens_of_words h
  rw [← flatMap_tokens_eq_iff]
  constructor
  · rintro ⟨tokens, htokens', hreads⟩
    rw [htokens] at htokens'
    cases htokens'
    rw [← tokens_conjunction]
    exact (hreads _).mpr rfl
  · intro heq
    exact ⟨_, htokens, fun e => by rw [← heq, tokens_eq_iff]⟩

/-! ## Operators at the end -/

/-- A token that a query may end with. -/
def Token.Ends : Token → Prop
  | .string _ => True
  | .star => True
  | .rp => True
  | _ => False

/-- The tokens end with such a token. -/
def EndsQuery (ts : List Token) : Prop :=
  ∃ front t, ts = front ++ [t] ∧ t.Ends

theorem EndsQuery.append {ts : List Token} (h : EndsQuery ts) (front : List Token) :
    EndsQuery (front ++ ts) := by
  obtain ⟨front', t, rfl, ht⟩ := h
  exact ⟨front ++ front', t, by simp, ht⟩

theorem Phrase.endsQuery (p : Phrase) : EndsQuery p.tokens := by
  cases p with
  | plus p text star =>
    cases star with
    | false => exact ⟨p.tokens ++ [.plus], .string text, by simp [Phrase.tokens, starOpt], trivial⟩
    | true => exact ⟨p.tokens ++ [.plus, .string text], .star, rfl, trivial⟩
  | string text star =>
    cases star with
    | false => exact ⟨[], .string text, rfl, trivial⟩
    | true => exact ⟨[.string text], .star, rfl, trivial⟩

theorem Nearset.endsQuery (n : Nearset) : EndsQuery n.tokens := by
  cases n with
  | phrase p => exact p.endsQuery
  | caret p => exact p.endsQuery.append [.caret]
  | near text ps distance => exact ⟨_, .rp, rfl, trivial⟩

theorem Cnearset.endsQuery (c : Cnearset) : EndsQuery c.tokens := by
  cases c with
  | nearset n => exact n.endsQuery
  | colset columns n => exact n.endsQuery.append _

theorem Exprlist.endsQuery (list : Exprlist) : EndsQuery list.tokens := by
  cases list with
  | one c => exact c.endsQuery
  | snoc list c => exact c.endsQuery.append list.tokens

/-- No operator stands at the end of a query. -/
theorem Expr.endsQuery (e : Expr) : EndsQuery e.tokens := by
  induction e with
  | and left right _ ih => exact ih.append _
  | or left right _ ih => exact ih.append _
  | not left right _ ih => exact ih.append _
  | colset columns e _ => exact ⟨_, .rp, rfl, trivial⟩
  | paren e _ => exact ⟨_, .rp, rfl, trivial⟩
  | exprlist list => exact list.endsQuery

theorem Expr.tokens_ne_append_or (e : Expr) (front : List Token) : e.tokens ≠ front ++ [.or] := by
  intro h
  obtain ⟨front', t, htokens, ht⟩ := e.endsQuery
  rw [h] at htokens
  obtain ⟨-, hlast⟩ := List.append_inj' htokens rfl
  rw [← (List.cons.inj hlast).1] at ht
  exact ht

end AgentMemory.Fts5
