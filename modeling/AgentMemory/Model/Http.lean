import AgentMemory.Model.Codec

/-! # The HTTP server

A handler that runs before routing asks for the token. The requests and the routing are those of
the vendored `httplib.h`. -/

namespace AgentMemory

/-! ## `httplib` -/

namespace Httplib

/-- `detail::case_ignore::to_lower`: the letters of Latin-1. -/
def toLowerByte (b : UInt8) : UInt8 :=
  if isUpper b || (0xC0 ≤ b && b ≤ 0xDE && b != 0xD7) then b + 32 else b

/-- `detail::case_ignore::equal`. -/
def equalIgnoringCase (a b : Text) : Bool :=
  a.map toLowerByte == b.map toLowerByte

def isFieldVchar (b : UInt8) : Bool :=
  (33 ≤ b && b ≤ 126) || 0x80 ≤ b

/-- `detail::fields::is_field_value`. Blanks and tabs may stand inside. -/
def isFieldValue (s : Text) : Bool :=
  s.head?.all isFieldVchar && s.getLast?.all isFieldVchar &&
    s.all fun b => b == 0x20 || b == 0x09 || isFieldVchar b

/-- A header field. No other value is read or set. -/
structure HeaderField where
  name : Text
  value : Text
  valid : isFieldValue value = true

/-- The fields are in the order in which the multimap has them. -/
structure Request where
  path : Text
  headers : List HeaderField := []

structure Response where
  status : ℤ := -1
  body : Text := []
  contentType : Option Text := none

def Response.setContent (res : Response) (body : Text) (contentType : String) : Response :=
  { res with body, contentType := some (ascii contentType) }

/-- The first field of the name. -/
def Request.header? (req : Request) (name : String) : Option HeaderField :=
  req.headers.find? fun field => equalIgnoringCase field.name (ascii name)

def Request.hasHeader (req : Request) (key : String) : Bool :=
  (req.header? key).isSome

/-- `req.get_header_value(key)`, which is made of a C string. -/
def Request.getHeaderValue (req : Request) (key : String) : Text :=
  match req.header? key with
  | some field => cStr field.value
  | none => []

inductive HandlerResponse where
  | handled
  | unhandled
deriving DecidableEq

abbrev HandlerWithResponse :=
  Request → Response → Except CxxException (HandlerResponse × Response)

/-- `Server::routing` up to the handlers of the routes, which are left open. -/
def routing (preRoutingHandler : Option HandlerWithResponse)
    (dispatch : Request → Response → Except CxxException (Bool × Response))
    (req : Request) (res : Response) : Except CxxException (Bool × Response) :=
  match preRoutingHandler with
  | none => dispatch req res
  | some handler => do
      let (response, res) ← handler req res
      if response = .handled then return (true, res) else dispatch req res

end Httplib

/-! ## `MemoryHttpServer` -/

/-- A size fits into `size_t`. -/
def constantTimeEquals (lhs rhs : Text) : Bool :=
  let diff := lhs.length ^^^ rhs.length
  let maxSize := if rhs.length < lhs.length then lhs.length else rhs.length
  (List.range maxSize).foldl (fun diff i =>
    let l := if i < lhs.length then lhs.getD i 0 else 0
    let r := if i < rhs.length then rhs.getD i 0 else 0
    diff ||| (l ^^^ r).toNat) diff == 0

/-- The field that the authentication reads. -/
structure MemoryHttpServer where
  apiToken : Text := []

/-- The handler that `RegisterAuth` sets. -/
def MemoryHttpServer.preRoutingHandler (server : MemoryHttpServer) :
    Httplib.HandlerWithResponse := fun req res =>
  if req.path = ascii "/health" then return (.unhandled, res)
  else
    let expected := ascii "Bearer " ++ server.apiToken
    if constantTimeEquals (req.getHeaderValue "Authorization") expected then
      return (.unhandled, res)
    else do
      let body ← (Json.ofMembers [("ok", .boolean false),
        ("error", .string (ascii "unauthorized"))]).dump
      return (.handled, { res with status := 401 }.setContent body "application/json")

/-- `RegisterAuth`: without a token no handler is set. -/
def MemoryHttpServer.registerAuth (server : MemoryHttpServer) :
    Option Httplib.HandlerWithResponse :=
  if server.apiToken.isEmpty then none else some server.preRoutingHandler

end AgentMemory
