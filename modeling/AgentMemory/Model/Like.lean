import AgentMemory.Foundation.Wildcard
import AgentMemory.Model.Text

/-! # The `LIKE` operator of the vendored SQLite

`likeFunc` with `ESCAPE '\'` and the default `likeInfoNorm`. Pattern and text are read by
`Utf8Read` only, one character after another; the one search for a byte, by `strcspn`, looks for
bytes below `0x80`, which are characters by themselves. -/

namespace AgentMemory

open Foundation

/-! ## Characters -/

/-- `(b & 0xc0) == 0x80`. -/
def isContinuation (b : UInt8) : Bool :=
  0x80 ≤ b && b < 0xC0

/-- The table of what the first byte of a character adds to its value, from `0xC0` on. -/
def sqlite3Utf8Trans1 (b : UInt8) : ℕ :=
  if b < 0xE0 then b.toNat - 0xC0
  else if b < 0xF0 then b.toNat - 0xE0
  else if b < 0xF8 then b.toNat - 0xF0
  else if b < 0xFC then b.toNat - 0xF8
  else if b < 0xFE then b.toNat - 0xFC
  else 0

/-- `sqlite3Utf8Read` from a first byte of at least `0xC0` on, in `u32` arithmetic. What encodes
an ASCII character, a surrogate, `U+FFFE` or `U+FFFF` is read as `U+FFFD`. -/
def sqlite3Utf8Read (b : UInt8) (continuation : Text) : ℕ :=
  let c := continuation.foldl (fun c b => (c * 2 ^ 6 + b.toNat % 2 ^ 6) % 2 ^ 32)
    (sqlite3Utf8Trans1 b)
  if c < 0x80 ∨ c / 2 ^ 11 = 0xD800 / 2 ^ 11 ∨ c / 2 = 0xFFFE / 2 then 0xFFFD else c

/-- The characters before the terminator, as `Utf8Read` gives them. -/
def characters : Text → List ℕ
  | [] => []
  | b :: rest =>
      if b = 0 then []
      else if b < 0xC0 then b.toNat :: characters rest
      else
        have : (rest.dropWhile isContinuation).length ≤ rest.length :=
          (List.dropWhile_suffix isContinuation).length_le
        sqlite3Utf8Read b (rest.takeWhile isContinuation) ::
          characters (rest.dropWhile isContinuation)
termination_by s => s.length

/-- The table is read for ASCII characters only. -/
def sqlite3Tolower (c : ℕ) : ℕ :=
  if 65 ≤ c ∧ c ≤ 90 then c + 32 else c

def sqlite3Toupper (c : ℕ) : ℕ :=
  if 97 ≤ c ∧ c ≤ 122 then c - 32 else c

/-! ## `patternCompare` -/

def matchAll : ℕ := 0x25

def matchOne : ℕ := 0x5F

/-- The escape character. -/
def matchOther : ℕ := 0x5C

/-- `c == c2`, or the same letter in ASCII. -/
def sameCharacter (c c2 : ℕ) : Bool :=
  c == c2 || (sqlite3Tolower c == sqlite3Tolower c2 && c < 0x80 && c2 < 0x80)

/-- The characters that the search after a `%` stops at. -/
def stopsAt (c c2 : ℕ) : Bool :=
  if c < 0x80 then c2 == sqlite3Toupper c || c2 == sqlite3Tolower c else c2 == c

/-- The end of one turn of the main loop. -/
def compareNext (accepts : ℕ → Bool) (compare : List ℕ → Comparison) : List ℕ → Comparison
  | [] => .noMatch
  | c2 :: zString => if accepts c2 then compare zString else .noMatch

mutual

/-- The main loop. A `_` is a wildcard unless it is the character just escaped. -/
def patternCompare : List ℕ → List ℕ → Comparison
  | [], zString => if zString.isEmpty then .matched else .noMatch
  | c :: zPattern, zString =>
      if c = matchAll then skipMatchAll zPattern zString
      else if c = matchOther then
        match zPattern with
        | [] => .noMatch
        | c :: zPattern => compareNext (sameCharacter c) (patternCompare zPattern) zString
      else
        compareNext (fun c2 => sameCharacter c c2 || c == matchOne) (patternCompare zPattern)
          zString

/-- What follows a `%`: more wildcards, then the search for the first character past them. -/
def skipMatchAll : List ℕ → List ℕ → Comparison
  | [], _ => .matched
  | c :: zPattern, zString =>
      if c = matchAll then skipMatchAll zPattern zString
      else if c = matchOne then
        match zString with
        | [] => .noWildcardMatch
        | _ :: zString => skipMatchAll zPattern zString
      else if c = matchOther then
        match zPattern with
        | [] => .noWildcardMatch
        | c :: zPattern => searchFrom (stopsAt c) (patternCompare zPattern) zString
      else searchFrom (stopsAt c) (patternCompare zPattern) zString

end

/-- `SQLITE_MAX_LIKE_PATTERN_LENGTH`. -/
def maxLikePatternLength : ℕ := 50000

/-- `likeFunc`: whether `zA LIKE zB ESCAPE '\'`, or the error that fails the statement. -/
def likeFunc (zB zA : Text) : Except Text Bool :=
  if maxLikePatternLength < zB.length then .error (ascii "LIKE or GLOB pattern too complex")
  else .ok (patternCompare (characters zB) (characters zA) == .matched)

end AgentMemory
