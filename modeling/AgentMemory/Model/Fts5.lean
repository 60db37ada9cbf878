import AgentMemory.Model.Text

/-! # The query language of the vendored FTS5

The tokenizer of `MATCH` expressions, and the trees of their grammar with one constructor for
each rule. A text is a query when it is the yield of a tree. -/

namespace AgentMemory.Fts5

/-- The terminals that the tokenizer produces. A string is kept as written. -/
inductive Token where
  | or
  | and
  | not
  | colon
  | minus
  | lcp
  | rcp
  | string (text : Text)
  | lp
  | rp
  | caret
  | comma
  | plus
  | star
deriving DecidableEq

/-! ## The tokenizer -/

def fts5ExprIsspace (b : UInt8) : Bool :=
  b == 0x20 || b == 0x09 || b == 0x0A || b == 0x0D

/-- The table `aBareword`, and every byte beyond ASCII. -/
def sqlite3Fts5IsBareword (b : UInt8) : Bool :=
  0x80 ≤ b || isAlnum b || b == 0x5F || b == 0x1A

/-- The tokens of one character. -/
def punctuation (b : UInt8) : Option Token :=
  if b = 0x28 then some .lp
  else if b = 0x29 then some .rp
  else if b = 0x7B then some .lcp
  else if b = 0x7D then some .rcp
  else if b = 0x3A then some .colon
  else if b = 0x2C then some .comma
  else if b = 0x2B then some .plus
  else if b = 0x2A then some .star
  else if b = 0x2D then some .minus
  else if b = 0x5E then some .caret
  else none

/-- The token of a maximal bareword. -/
def bareword (text : Text) : Token :=
  if text = ascii "OR" then .or
  else if text = ascii "NOT" then .not
  else if text = ascii "AND" then .and
  else .string text

/-- A string after its opening quote up to the closing one, and what follows it. A quote is written
twice inside. -/
def quoted : Text → Option (Text × Text)
  | [] => none
  | b :: rest =>
      if b = 0x22 then
        match rest with
        | [] => some ([b], rest)
        | next :: rest' =>
            if next = 0x22 then (quoted rest').map fun s => (b :: next :: s.1, s.2)
            else some ([b], rest)
      else (quoted rest).map fun s => (b :: s.1, s.2)

inductive Reading where
  | eof
  | token (token : Token) (rest : Text)
  | error (message : Text)

/-- `fts5ExprGetToken`. -/
def fts5ExprGetToken (z : Text) : Reading :=
  match z.dropWhile fts5ExprIsspace with
  | [] => .eof
  | b :: rest =>
      match punctuation b with
      | some token => .token token rest
      | none =>
          if b = 0x22 then
            match quoted rest with
            | some (text, rest) => .token (.string (b :: text)) rest
            | none => .error (ascii "unterminated string")
          else if sqlite3Fts5IsBareword b then
            .token (bareword (b :: rest.takeWhile sqlite3Fts5IsBareword))
              (rest.dropWhile sqlite3Fts5IsBareword)
          else .error (ascii "fts5: syntax error near \"" ++ [b] ++ ascii "\"")

theorem quoted_suffix {s text rest : Text} (h : quoted s = some (text, rest)) : rest <:+ s := by
  induction s using quoted.induct generalizing text rest with
  | case1 => cases h
  | case2 =>
    cases h
    exact List.suffix_cons _ _
  | case3 rest' ih =>
    obtain ⟨⟨inner, after⟩, hinner, heq⟩ := Option.map_eq_some_iff.mp h
    cases heq
    exact (ih hinner).trans ((List.suffix_cons _ _).trans (List.suffix_cons _ _))
  | case4 next rest' hnext =>
    rw [quoted, if_pos rfl, if_neg hnext] at h
    cases h
    exact List.suffix_cons _ _
  | case5 b rest' hb ih =>
    rw [quoted.eq_def] at h
    dsimp only at h
    rw [if_neg hb] at h
    obtain ⟨⟨inner, after⟩, hinner, heq⟩ := Option.map_eq_some_iff.mp h
    cases heq
    exact (ih hinner).trans (List.suffix_cons _ _)

theorem fts5ExprGetToken_length {z rest : Text} {token : Token}
    (h : fts5ExprGetToken z = .token token rest) : rest.length < z.length := by
  have hdrop := (List.dropWhile_suffix (l := z) fts5ExprIsspace).length_le
  unfold fts5ExprGetToken at h
  split at h
  · cases h
  · next b after hz =>
    rw [hz, List.length_cons] at hdrop
    have hsuffix : rest <:+ after := by
      split at h
      · cases h
        exact List.suffix_rfl
      · split at h
        · split at h
          · next text after' hquoted =>
            cases h
            exact quoted_suffix hquoted
          · cases h
        · split at h
          · cases h
            exact List.dropWhile_suffix _
          · cases h
    have hle := hsuffix.length_le
    omega

/-- The tokens up to the end of the text, or the error that ends the reading. -/
def fts5Tokens (z : Text) : Except Text (List Token) :=
  match h : fts5ExprGetToken z with
  | .eof => .ok []
  | .token token rest =>
      have : rest.length < z.length := fts5ExprGetToken_length h
      (fts5Tokens rest).map (token :: ·)
  | .error message => .error message
termination_by z.length

/-! ## The grammar -/

inductive ColsetList where
  | one (text : Text)
  | snoc (list : ColsetList) (text : Text)

inductive Colset where
  | minusList (list : ColsetList)
  | list (list : ColsetList)
  | string (text : Text)
  | minusString (text : Text)

/-- `star_opt` is a flag. -/
inductive Phrase where
  | plus (phrase : Phrase) (text : Text) (star : Bool)
  | string (text : Text) (star : Bool)

inductive NearPhrases where
  | one (phrase : Phrase)
  | snoc (phrases : NearPhrases) (phrase : Phrase)

inductive Nearset where
  | phrase (phrase : Phrase)
  | caret (phrase : Phrase)
  | near (text : Text) (phrases : NearPhrases) (distance : Option Text)

inductive Cnearset where
  | nearset (nearset : Nearset)
  | colset (colset : Colset) (nearset : Nearset)

/-- Phrases that follow one another are all required. -/
inductive Exprlist where
  | one (phrases : Cnearset)
  | snoc (list : Exprlist) (phrases : Cnearset)

inductive Expr where
  | and (left right : Expr)
  | or (left right : Expr)
  | not (left right : Expr)
  | colset (colset : Colset) (expr : Expr)
  | paren (expr : Expr)
  | exprlist (list : Exprlist)

/-! ### The yield of a tree -/

def starOpt (star : Bool) : List Token :=
  if star then [.star] else []

def ColsetList.tokens : ColsetList → List Token
  | .one text => [.string text]
  | .snoc list text => list.tokens ++ [.string text]

def Colset.tokens : Colset → List Token
  | .minusList columns => [.minus, .lcp] ++ columns.tokens ++ [.rcp]
  | .list columns => [.lcp] ++ columns.tokens ++ [.rcp]
  | .string text => [.string text]
  | .minusString text => [.minus, .string text]

def Phrase.tokens : Phrase → List Token
  | .plus phrase text star => phrase.tokens ++ [.plus, .string text] ++ starOpt star
  | .string text star => [.string text] ++ starOpt star

def NearPhrases.tokens : NearPhrases → List Token
  | .one phrase => phrase.tokens
  | .snoc phrases phrase => phrases.tokens ++ phrase.tokens

def Nearset.tokens : Nearset → List Token
  | .phrase p => p.tokens
  | .caret p => [.caret] ++ p.tokens
  | .near text phrases distance => [.string text, .lp] ++ phrases.tokens ++
      distance.elim [] (fun text => [.comma, .string text]) ++ [.rp]

def Cnearset.tokens : Cnearset → List Token
  | .nearset phrases => phrases.tokens
  | .colset columns phrases => columns.tokens ++ [.colon] ++ phrases.tokens

def Exprlist.tokens : Exprlist → List Token
  | .one phrases => phrases.tokens
  | .snoc list phrases => list.tokens ++ phrases.tokens

def Expr.tokens : Expr → List Token
  | .and left right => left.tokens ++ [.and] ++ right.tokens
  | .or left right => left.tokens ++ [.or] ++ right.tokens
  | .not left right => left.tokens ++ [.not] ++ right.tokens
  | .colset columns expr => columns.tokens ++ [.colon, .lp] ++ expr.tokens ++ [.rp]
  | .paren expr => [.lp] ++ expr.tokens ++ [.rp]
  | .exprlist list => list.tokens

end AgentMemory.Fts5
