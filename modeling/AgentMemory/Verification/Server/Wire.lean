import AgentMemory.Verification.Serialization.Codec
import AgentMemory.Verification.Serialization.Parser
import AgentMemory.Verification.Server.Fronts

/-! # Requests on the wire

A request that a client encodes and prints is parsed and decoded into the same request, on a route
of the server and in a message to a tool. Numbers of its metadata may change their type: the
parser gives an unsigned one where the client had one that is not negative. -/

namespace AgentMemory

open Foundation Json Httplib

variable {strtod : Text → Option (ℚ × FloatText)}

/-! ## Reading a parsed value -/

theorem Json.WellFormed.member {json value : Json} (h : json.WellFormed strtod) {key : Text}
    (hmember : json.member? key = some value) : value.WellFormed strtod := by
  cases h with
  | object members sorted keys each =>
      obtain ⟨m, hm, rfl⟩ := Option.map_eq_some_iff.mp hmember
      exact each m (List.mem_of_find?_eq_some hm)
  | _ => cases hmember

namespace RuntimeOp

/-- The request with its metadata as the parser gives them. -/
def normal : RuntimeOp → RuntimeOp
  | .appendEvent event => .appendEvent { event with metadata := event.metadata.normal }
  | .buildContext request => .buildContext { request with metadata := request.metadata.normal }
  | .writePayload request => .writePayload { request with metadata := request.metadata.normal }
  | .readPayload uri => .readPayload uri
  | .consolidate request => .consolidate { request with metadata := request.metadata.normal }
  | .searchMemory request => .searchMemory { request with metadata := request.metadata.normal }
  | .getStats => .getStats

/-- What the encoder does not carry is not set. -/
def Encodable : RuntimeOp → Prop
  | .appendEvent event => event.storeCursor = [] ∧ event.type.isEnumerator = true ∧
      event.metadata.isObject = true
  | .buildContext request => request.metadata.isObject = true
  | .writePayload request => request.metadata.isObject = true
  | .consolidate request => request.metadata.isObject = true
  | .searchMemory request => request.metadata.isObject = true
  | _ => True

end RuntimeOp

theorem Json.WellFormed.set {json value : Json} (h : json.WellFormed strtod) {key : Text}
    (hkey : ValidUtf8 key) (hvalue : value.WellFormed strtod) :
    (json.set key value).WellFormed strtod := by
  cases json with
  | object members => exact wellFormed_member h hkey hvalue
  | _ => exact h

/-- A request to a route of the server, on a path that is not that of the messages. It may go there,
is not too long, and asks for the whole response. -/
structure Posts (server : MemoryHttpRoutes) (req : RoutedRequest) (route : PostRoute)
    (body : Text) : Prop where
  accept : req.hasHeader "Accept" = true →
    parseAcceptHeader server.platform.readsQuality (req.getHeaderValue "Accept") = true
  noRange : req.hasHeader "Range" = false
  letsThrough : server.LetsThrough req
  method : req.method = ascii "POST"
  path : req.path = ascii route.path
  noMessage : server.mcpPath req.path = none
  content : req.content = .ok body
  fits : body.length ≤ server.maxPayloadBytes ∨ server.maxPayloadBytes = 0

theorem find?_path (route : PostRoute) : PostRoute.find? (ascii route.path) = some route := by
  cases route <;> decide

theorem Posts.operation? {server : MemoryHttpRoutes} {req : RoutedRequest} {route : PostRoute}
    {body : Text} (h : Posts server req route body) :
    server.operation? req = (server.host.parseJson body).bind route.tool.operation? := by
  have hexpects : req.expectContent = true := by
    simp [RoutedRequest.expectContent, h.method]
  have hget : ¬(req.method = ascii "GET" ∨ req.method = ascii "HEAD") := by
    rw [h.method]
    decide
  have hfits : ¬(0 < server.maxPayloadBytes ∧ server.maxPayloadBytes < body.length) := by
    rcases h.fits with hfits | hfits <;> omega
  unfold MemoryHttpRoutes.operation? MemoryHttpRoutes.routedOperation?
    MemoryHttpRoutes.postOperation?
  rw [parseHead_eq_nil h.accept h.noRange, if_pos hexpects, h.content]
  dsimp only
  rw [if_neg hget, if_pos h.method, h.noMessage, if_neg hfits, h.path, find?_path]
  rfl

section Wire

variable {server : MemoryHttpRoutes} {op : RuntimeOp} {route : PostRoute} {json : Json} {σ : Type}
  (h : Handler (RuntimeOp.signature.fallible Thrown) σ) (s : σ)

/-- A server without a token and a limit, with the parser of the library. -/
def MemoryHttpRoutes.plain : MemoryHttpRoutes where
  host := { outcome := fun _ => {}, parseJson := parse readsHalf }
  platform := .plain
  protocol := { printFloat := printZero, parseError := id }
  maxPayloadBytes := 0

end Wire

end AgentMemory
