import AgentMemory.Model.Text

/-! # JSON values and their serialisation

The part of the vendored JSON library that the store uses. Objects keep their members in
ascending key order, as the `std::map` behind them does. -/

namespace AgentMemory

/-- An exception that leaves a function: a type error of the JSON library with its number,
or one raised by host code. -/
inductive CxxException where
  | jsonTypeError (id : ℕ)
  | host
deriving DecidableEq

/-- The text the serialiser prints for a floating-point number. -/
structure FloatText where
  bytes : Text
  printed : ∀ b ∈ bytes, isDigit b = true ∨ b ∈ ascii "+-.e"
deriving DecidableEq

/-- What a host prints that prints no number. -/
def FloatText.empty : FloatText :=
  ⟨[], by simp⟩

/-- A floating-point number is kept with its printed text. -/
inductive Json where
  | null
  | boolean (b : Bool)
  | integer (n : ℤ)
  | unsigned (n : ℕ)
  | float (value : ℚ) (text : FloatText)
  | string (s : Text)
  | array (elements : List Json)
  | object (members : List (Text × Json))

namespace Json

/-- `type_name()`. -/
def typeName : Json → String
  | .null => "null"
  | .object _ => "object"
  | .array _ => "array"
  | .string _ => "string"
  | .boolean _ => "boolean"
  | .integer _ => "number"
  | .unsigned _ => "number"
  | .float _ _ => "number"

def isObject : Json → Bool
  | .object _ => true
  | _ => false

/-- `is_number_integer()`, true of unsigned numbers too. -/
def isNumberInteger : Json → Bool
  | .integer _ | .unsigned _ => true
  | _ => false

def isNumber : Json → Bool
  | .integer _ | .unsigned _ | .float _ _ => true
  | _ => false

def isString : Json → Bool
  | .string _ => true
  | _ => false

def isBoolean : Json → Bool
  | .boolean _ => true
  | _ => false

def isArray : Json → Bool
  | .array _ => true
  | _ => false

/-- `json.contains(key)` and `json[key]` together, on an object. -/
def member? (key : Text) : Json → Option Json
  | .object members => (members.find? fun m => m.1 == key).map Prod.snd
  | _ => none

def insertMember (key : Text) (value : Json) : List (Text × Json) → List (Text × Json)
  | [] => [(key, value)]
  | (k, v) :: rest =>
      if k = key then (key, value) :: rest
      else if key < k then (key, value) :: (k, v) :: rest
      else (k, v) :: insertMember key value rest

/-- `json[key] = value` on an object. -/
def set (json : Json) (key : Text) (value : Json) : Json :=
  match json with
  | .object members => .object (insertMember key value members)
  | json => json

/-! ## `dump` -/

/-- The live states of the decoder's automaton: how many continuation bytes are missing, and
the restricted first continuation after `E0`, `ED`, `F0` and `F4`. -/
inductive Utf8State where
  | accept
  | tail1
  | tail2
  | tail3
  | afterE0
  | afterED
  | afterF0
  | afterF4
deriving DecidableEq

def between (low high b : UInt8) : Bool :=
  low ≤ b && b ≤ high

/-- `decode`; `none` is `UTF8_REJECT`. -/
def decode (state : Utf8State) (b : UInt8) : Option Utf8State :=
  match state with
  | .accept =>
      if b < 0x80 then some .accept
      else if between 0xC2 0xDF b then some .tail1
      else if b = 0xE0 then some .afterE0
      else if b = 0xED then some .afterED
      else if between 0xE1 0xEF b then some .tail2
      else if b = 0xF0 then some .afterF0
      else if between 0xF1 0xF3 b then some .tail3
      else if b = 0xF4 then some .afterF4
      else none
  | .tail1 => if between 0x80 0xBF b then some .accept else none
  | .tail2 => if between 0x80 0xBF b then some .tail1 else none
  | .tail3 => if between 0x80 0xBF b then some .tail2 else none
  | .afterE0 => if between 0xA0 0xBF b then some .tail1 else none
  | .afterED => if between 0x80 0x9F b then some .tail1 else none
  | .afterF0 => if between 0x90 0xBF b then some .tail2 else none
  | .afterF4 => if between 0x80 0x8F b then some .tail2 else none

def hexDigit (n : ℕ) : UInt8 :=
  UInt8.ofNat (if n < 10 then 48 + n else 87 + n)

/-- The escape of a code point below `0x80`. -/
def escapeAscii (b : UInt8) : Text :=
  if b = 0x08 then ascii "\\b"
  else if b = 0x09 then ascii "\\t"
  else if b = 0x0A then ascii "\\n"
  else if b = 0x0C then ascii "\\f"
  else if b = 0x0D then ascii "\\r"
  else if b = 0x22 then ascii "\\\""
  else if b = 0x5C then ascii "\\\\"
  else if b ≤ 0x1F then ascii "\\u00" ++ [hexDigit (b.toNat / 16), hexDigit (b.toNat % 16)]
  else [b]

/-- `dump_escaped` with the strict error handler. -/
def dumpEscaped : Utf8State → Text → Except CxxException Text
  | state, [] => if state = .accept then .ok [] else .error (.jsonTypeError 316)
  | state, b :: rest =>
      match decode state b with
      | none => .error (.jsonTypeError 316)
      | some next => do
          let escaped := if state = .accept ∧ next = .accept then escapeAscii b else [b]
          return escaped ++ (← dumpEscaped next rest)

def dumpString (s : Text) : Except CxxException Text := do
  return ascii "\"" ++ (← dumpEscaped .accept s) ++ ascii "\""

mutual

/-- `json.dump()`. -/
def dump : Json → Except CxxException Text
  | .null => .ok (ascii "null")
  | .boolean b => .ok (ascii (if b then "true" else "false"))
  | .integer n => .ok (decimal n)
  | .unsigned n => .ok (decimal n)
  | .float _ text => .ok text.bytes
  | .string s => dumpString s
  | .array elements => do return ascii "[" ++ (← dumpElements elements) ++ ascii "]"
  | .object members => do return [0x7B] ++ (← dumpMembers members) ++ [0x7D]

def dumpElements : List Json → Except CxxException Text
  | [] => .ok []
  | x :: rest => do
      let first ← dump x
      let others ← dumpElements rest
      return first ++ (if rest.isEmpty then [] else ascii ",") ++ others

def dumpMembers : List (Text × Json) → Except CxxException Text
  | [] => .ok []
  | (key, x) :: rest => do
      let name ← dumpString key
      let first ← dump x
      let others ← dumpMembers rest
      return name ++ ascii ":" ++ first ++ (if rest.isEmpty then [] else ascii ",") ++ others

end

mutual

/-- The value that `json::parse` gives for the dump of a value: it compares equal to the value,
but an integer that is not negative is read as an unsigned one. -/
def normal : Json → Json
  | .integer n => if n < 0 then .integer n else .unsigned n.toNat
  | .array elements => .array (normalElements elements)
  | .object members => .object (normalMembers members)
  | json => json

def normalElements : List Json → List Json
  | [] => []
  | x :: rest => normal x :: normalElements rest

def normalMembers : List (Text × Json) → List (Text × Json)
  | [] => []
  | (key, x) :: rest => (key, normal x) :: normalMembers rest

end

end Json

/-- `SerializeSourceRefs`. -/
def serializeSourceRefs (refs : List Text) : Except CxxException Text :=
  (Json.array (refs.map .string)).dump

/-- A string that is not valid UTF-8 cannot be serialised. -/
example : serializeSourceRefs [ascii "session://" ++ [0xFF]] = .error (.jsonTypeError 316) := by
  decide

example : serializeSourceRefs [ascii "a\"b", [0xC3, 0xA9]] =
    .ok (ascii "[\"a\\\"b\",\"" ++ [0xC3, 0xA9] ++ ascii "\"]") := by
  decide

end AgentMemory
