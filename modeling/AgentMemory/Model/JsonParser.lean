import AgentMemory.Foundation.Machine
import AgentMemory.Model.Json

/-! # Parsing JSON

`json::parse` of the vendored library: its lexer, and the loop of `sax_parse_internal` with the
stack of the values that are still open. Only the acceptance of a text is modelled, not the text
of the error for one that is rejected. -/

namespace AgentMemory

namespace Json

/-! ## The lexer -/

/-- `token_type`, with the value that the lexer holds for the token. -/
inductive Token where
  | beginArray
  | endArray
  | beginObject
  | endObject
  | nameSeparator
  | valueSeparator
  | literalTrue
  | literalFalse
  | literalNull
  | valueString (s : Text)
  | valueUnsigned (n : ℕ)
  | valueInteger (n : ℤ)
  | valueFloat (value : ℚ) (text : FloatText)
  | endOfInput
  | parseError
deriving DecidableEq

/-! ### Strings -/

def hexValue (b : UInt8) : Option ℕ :=
  if between 0x30 0x39 b then some (b.toNat - 0x30)
  else if between 0x41 0x46 b then some (b.toNat - 0x37)
  else if between 0x61 0x66 b then some (b.toNat - 0x57)
  else none

/-- `get_codepoint`: four hexadecimal digits. -/
def getCodepoint : Text → Option (ℕ × Text)
  | a :: b :: c :: d :: rest => do
      let a ← hexValue a
      let b ← hexValue b
      let c ← hexValue c
      let d ← hexValue d
      return (((a * 16 + b) * 16 + c) * 16 + d, rest)
  | _ => none

/-- The bytes that `scan_string` adds for a code point. -/
def codepointBytes (codepoint : ℕ) : Text :=
  if codepoint < 0x80 then [UInt8.ofNat codepoint]
  else if codepoint ≤ 0x7FF then
    [UInt8.ofNat (0xC0 + codepoint / 64), UInt8.ofNat (0x80 + codepoint % 64)]
  else if codepoint ≤ 0xFFFF then
    [UInt8.ofNat (0xE0 + codepoint / 4096), UInt8.ofNat (0x80 + codepoint / 64 % 64),
      UInt8.ofNat (0x80 + codepoint % 64)]
  else
    [UInt8.ofNat (0xF0 + codepoint / 262144), UInt8.ofNat (0x80 + codepoint / 4096 % 64),
      UInt8.ofNat (0x80 + codepoint / 64 % 64), UInt8.ofNat (0x80 + codepoint % 64)]

/-- What follows `\u`: one code point, or the two halves of a surrogate pair. -/
def scanUnicodeEscape (text : Text) : Option (Text × Text) := do
  let (codepoint1, rest) ← getCodepoint text
  if 0xD800 ≤ codepoint1 ∧ codepoint1 ≤ 0xDBFF then
    match rest with
    | 0x5C :: 0x75 :: rest =>
        let (codepoint2, rest) ← getCodepoint rest
        if 0xDC00 ≤ codepoint2 ∧ codepoint2 ≤ 0xDFFF then
          return (codepointBytes (codepoint1 * 1024 + codepoint2 - 0x35FDC00), rest)
        else none
    | _ => none
  else if 0xDC00 ≤ codepoint1 ∧ codepoint1 ≤ 0xDFFF then none
  else return (codepointBytes codepoint1, rest)

/-- What follows a backslash. -/
def scanEscape : Text → Option (Text × Text)
  | [] => none
  | b :: rest =>
      if b = 0x22 ∨ b = 0x5C ∨ b = 0x2F then some ([b], rest)
      else if b = 0x62 then some ([0x08], rest)
      else if b = 0x66 then some ([0x0C], rest)
      else if b = 0x6E then some ([0x0A], rest)
      else if b = 0x72 then some ([0x0D], rest)
      else if b = 0x74 then some ([0x09], rest)
      else if b = 0x75 then scanUnicodeEscape rest
      else none

/-- The ranges that `scan_string` gives to `next_byte_in_range` for a lead byte. -/
def continuationRanges (b : UInt8) : Option (List (UInt8 × UInt8)) :=
  if between 0xC2 0xDF b then some [(0x80, 0xBF)]
  else if b = 0xE0 then some [(0xA0, 0xBF), (0x80, 0xBF)]
  else if between 0xE1 0xEC b || between 0xEE 0xEF b then some [(0x80, 0xBF), (0x80, 0xBF)]
  else if b = 0xED then some [(0x80, 0x9F), (0x80, 0xBF)]
  else if b = 0xF0 then some [(0x90, 0xBF), (0x80, 0xBF), (0x80, 0xBF)]
  else if between 0xF1 0xF3 b then some [(0x80, 0xBF), (0x80, 0xBF), (0x80, 0xBF)]
  else if b = 0xF4 then some [(0x80, 0x8F), (0x80, 0xBF), (0x80, 0xBF)]
  else none

/-- `next_byte_in_range`. -/
def nextByteInRange : List (UInt8 × UInt8) → Text → Option (Text × Text)
  | [], rest => some ([], rest)
  | (low, high) :: ranges, b :: rest =>
      if between low high b then do
        let (added, rest) ← nextByteInRange ranges rest
        return (b :: added, rest)
      else none
  | _ :: _, [] => none

/-- One turn of the loop of `scan_string` on a byte that does not close the string. -/
def scanCharacter : Text → Option (Text × Text)
  | [] => none
  | b :: rest =>
      if b = 0x5C then scanEscape rest
      else if b ≤ 0x1F then none
      else if b < 0x80 then some ([b], rest)
      else do
        let (added, rest) ← nextByteInRange (← continuationRanges b) rest
        return (b :: added, rest)

/-- The loop of `scan_string`. Every turn reads a byte. -/
def scanStringLoop : ℕ → Text → Option (Text × Text)
  | 0, _ => none
  | fuel + 1, text =>
      if text.head? = some 0x22 then some ([], text.tail)
      else do
        let (added, rest) ← scanCharacter text
        let (others, rest) ← scanStringLoop fuel rest
        return (added ++ others, rest)

/-- `scan_string`, after the opening quote. -/
def scanString (text : Text) : Option (Text × Text) :=
  scanStringLoop (text.length + 1) text

/-! ### Numbers -/

/-- The labels of `scan_number`. -/
inductive NumberState where
  | minus
  | zero
  | any1
  | decimal1
  | decimal2
  | exponent
  | sign
  | any2
deriving DecidableEq

inductive NumberType where
  | unsigned
  | integer
  | float
deriving DecidableEq

namespace NumberState

def isExponentMark (b : UInt8) : Bool :=
  b == 0x65 || b == 0x45

/-- Where a byte leads; `none` when it is not part of the number. -/
def next (state : NumberState) (b : UInt8) : Option NumberState :=
  match state with
  | .minus => if b = 0x30 then some .zero else if isDigit b then some .any1 else none
  | .zero =>
      if b = 0x2E then some .decimal1 else if isExponentMark b then some .exponent else none
  | .any1 =>
      if isDigit b then some .any1
      else if b = 0x2E then some .decimal1
      else if isExponentMark b then some .exponent
      else none
  | .decimal1 => if isDigit b then some .decimal2 else none
  | .decimal2 =>
      if isDigit b then some .decimal2 else if isExponentMark b then some .exponent else none
  | .exponent =>
      if b = 0x2B ∨ b = 0x2D then some .sign else if isDigit b then some .any2 else none
  | .sign => if isDigit b then some .any2 else none
  | .any2 => if isDigit b then some .any2 else none

/-- The states that any other byte leaves for `scan_number_done`. -/
def isDone : NumberState → Bool
  | .zero | .any1 | .decimal2 | .any2 => true
  | _ => false

/-- What entering a state makes of `number_type`. -/
def numberType (type : NumberType) : NumberState → NumberType
  | .minus => .integer
  | .decimal1 | .exponent => .float
  | _ => type

end NumberState

/-- From a label of `scan_number` to its end: the type, the bytes of the buffer, and the rest. -/
def scanNumberFrom : NumberState → NumberType → Text → Option (NumberType × Text × Text)
  | state, type, [] => if state.isDone then some (type, [], []) else none
  | state, type, b :: rest =>
      match state.next b with
      | some next => do
          let (type, buffer, rest) ← scanNumberFrom next (next.numberType type) rest
          return (type, b :: buffer, rest)
      | none => if state.isDone then some (type, [], b :: rest) else none

section

-- `std::strtod`, with the text that the serialiser prints for its result; `none` when that is
-- not finite
variable (strtod : Text → Option (ℚ × FloatText))

/-- A number that is not finite is rejected by the parser. -/
def floatToken (buffer : Text) : Token :=
  match strtod buffer with
  | some (value, text) => .valueFloat value text
  | none => .parseError

/-- The conversion of the buffer; an integer out of range becomes a floating-point number. -/
def convertNumber (type : NumberType) (buffer : Text) : Token :=
  match type with
  | .unsigned =>
      if digitsValue buffer < 2 ^ 64 then .valueUnsigned (digitsValue buffer)
      else floatToken strtod buffer
  | .integer =>
      if digitsValue buffer.tail ≤ 2 ^ 63 then .valueInteger (-(digitsValue buffer.tail : ℤ))
      else floatToken strtod buffer
  | .float => floatToken strtod buffer

/-- `scan_number`, whose first byte is a minus or a digit. -/
def scanNumber (b : UInt8) (rest : Text) : Token × Text :=
  let state : NumberState := if b = 0x2D then .minus else if b = 0x30 then .zero else .any1
  match scanNumberFrom state (state.numberType .unsigned) rest with
  | some (type, buffer, rest) => (convertNumber strtod type (b :: buffer), rest)
  | none => (.parseError, [])

/-! ### Tokens -/

/-- `scan_literal`, after the first byte. -/
def scanLiteral (literal : String) (token : Token) (rest : Text) : Token × Text :=
  if (ascii literal).isPrefixOf rest then (token, rest.drop (ascii literal).length)
  else (.parseError, [])

def isJsonSpace (b : UInt8) : Bool :=
  b == 0x20 || b == 0x09 || b == 0x0A || b == 0x0D

def skipWhitespace (text : Text) : Text :=
  text.dropWhile isJsonSpace

/-- The `switch` of `scan`. A NUL byte ends the input. -/
def scanToken (b : UInt8) (rest : Text) : Token × Text :=
  if b = 0x5B then (.beginArray, rest)
  else if b = 0x5D then (.endArray, rest)
  else if b = 0x7B then (.beginObject, rest)
  else if b = 0x7D then (.endObject, rest)
  else if b = 0x3A then (.nameSeparator, rest)
  else if b = 0x2C then (.valueSeparator, rest)
  else if b = 0x74 then scanLiteral "rue" .literalTrue rest
  else if b = 0x66 then scanLiteral "alse" .literalFalse rest
  else if b = 0x6E then scanLiteral "ull" .literalNull rest
  else if b = 0x22 then
    match scanString rest with
    | some (s, rest) => (.valueString s, rest)
    | none => (.parseError, [])
  else if b = 0x2D ∨ isDigit b then scanNumber strtod b rest
  else if b = 0 then (.endOfInput, rest)
  else (.parseError, [])

/-- `scan`, past the byte order mark. -/
def scan (text : Text) : Token × Text :=
  match skipWhitespace text with
  | [] => (.endOfInput, [])
  | b :: rest => scanToken strtod b rest

/-! ## The parser -/

end

/-- A value that is still open: its elements, or its members and the key of the value to come. -/
inductive Frame where
  | array (elements : List Json)
  | object (members : List (Text × Json)) (key : Text)

/-- Where `sax_parse_internal` is: it looks at a token that should start a value, or it has come
to the end of one. -/
inductive ParserState where
  | value (token : Token) (rest : Text) (stack : List Frame)
  | complete (json : Json) (rest : Text) (stack : List Frame)

/-- The value of a token that is one by itself. -/
def Token.scalar? : Token → Option Json
  | .literalTrue => some (.boolean true)
  | .literalFalse => some (.boolean false)
  | .literalNull => some .null
  | .valueString s => some (.string s)
  | .valueUnsigned n => some (.unsigned n)
  | .valueInteger n => some (.integer n)
  | .valueFloat value text => some (.float value text)
  | _ => none

section

variable (strtod : Text → Option (ℚ × FloatText))

/-- `get_token`, then the parser looks at it as the start of a value. -/
def expectValue (rest : Text) (stack : List Frame) : ParserState :=
  .value (scan strtod rest).1 (scan strtod rest).2 stack

/-- The separator after a key, and the value that follows. -/
def expectSeparator (members : List (Text × Json)) (key rest : Text) (stack : List Frame) :
    Option ParserState :=
  match scan strtod rest with
  | (.nameSeparator, rest) => some (expectValue strtod rest (.object members key :: stack))
  | _ => none

/-- One turn of the loop of `sax_parse_internal`. A turn that fails, and one after the end of the
outermost value, has no next state. -/
def ParserState.next : ParserState → Option ParserState
  | .value .beginObject rest stack =>
      match scan strtod rest with
      | (.endObject, rest) => some (.complete (.object []) rest stack)
      | (.valueString key, rest) => expectSeparator strtod [] key rest stack
      | _ => none
  | .value .beginArray rest stack =>
      match scan strtod rest with
      | (.endArray, rest) => some (.complete (.array []) rest stack)
      | (token, rest) => some (.value token rest (.array [] :: stack))
  | .value token rest stack => token.scalar?.map fun json => .complete json rest stack
  | .complete _ _ [] => none
  | .complete json rest (.array elements :: stack) =>
      match scan strtod rest with
      | (.valueSeparator, rest) =>
          some (expectValue strtod rest (.array (elements ++ [json]) :: stack))
      | (.endArray, rest) => some (.complete (.array (elements ++ [json])) rest stack)
      | _ => none
  | .complete json rest (.object members key :: stack) =>
      match scan strtod rest with
      | (.valueSeparator, rest) =>
          match scan strtod rest with
          | (.valueString name, rest) =>
              expectSeparator strtod (insertMember key json members) name rest stack
          | _ => none
      | (.endObject, rest) => some (.complete (.object (insertMember key json members)) rest stack)
      | _ => none

/-- The outermost value, once it is complete, with the text after it. -/
def ParserState.result? : ParserState → Option (Json × Text)
  | .complete json rest [] => some (json, rest)
  | _ => none

/-- `skip_bom`: a byte order mark that is begun has to be complete. -/
def skipBom (text : Text) : Option Text :=
  if text.head? = some 0xEF then
    if [0xEF, 0xBB, 0xBF].isPrefixOf text then some (text.drop 3) else none
  else some text

/-- `json::parse(text)`; `none` is a text that is rejected. Every turn of the loop either reads a
token or completes a value whose token was read before. -/
def parse (text : Text) : Option Json := do
  let text ← skipBom text
  let last ← Foundation.runToEnd (ParserState.next strtod) (2 * text.length + 2)
    (expectValue strtod text [])
  let (json, rest) ← last.result?
  if (scan strtod rest).1 = .endOfInput then return json else none

end

end Json

end AgentMemory
