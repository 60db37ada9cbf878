import AgentMemory.Model.HttpHead
import AgentMemory.Model.Mcp

/-! # The routes of the HTTP server

What `httplib` does with a request whose head it has read, and the handlers that `RegisterRoutes`
sets. The runtime behind them is left open, as it is behind the tools. -/

namespace AgentMemory

open Foundation

/-! ## `httplib` -/

namespace Httplib

/-- How a read of the content fails. -/
inductive ContentFailure where
  | unexplained
  | badRequest
  | payloadTooLarge
  | unsupportedMediaType
  | internalServerError
deriving DecidableEq

/-- The status that a failed read leaves in the response. -/
def ContentFailure.status : ContentFailure → ℤ
  | .unexplained => -1
  | .badRequest => 400
  | .payloadTooLarge => 413
  | .unsupportedMediaType => 415
  | .internalServerError => 500

/-- A request with its method, whether its headers frame a body, what reading its content comes to,
and the boundary that is drawn if its response has several parts. -/
structure RoutedRequest extends Request where
  method : Text
  hasFramedBody : Bool := false
  content : Except ContentFailure Text := .ok []
  boundary : Text := []

/-- What the group of a pattern matches in a path, which is empty for a pattern without one;
`none` when the pattern does not match the path as a whole. -/
abbrev Matcher := Text → Option Text

/-- A pattern without special characters. -/
def literally (pattern : String) : Matcher := fun path =>
  if path = ascii pattern then some [] else none

/-- A pattern that ends with `(.*)`. A dot matches no line terminator. -/
def startingWith (pattern : String) : Matcher := fun path =>
  let rest := path.drop (ascii pattern).length
  if (ascii pattern).isPrefixOf path && !rest.any (fun b => b == 0x0A || b == 0x0D) then some rest
  else none

/-- A handler gets the body and what the group of its pattern matched. -/
abbrev RouteHandler := Text → Text → Response → McpM Response

abbrev Handlers := List (Matcher × RouteHandler)

/-- `Server::dispatch_request`: the first handler whose pattern matches. -/
def dispatchRequest (path body : Text) (res : Response) : Handlers → McpM (Bool × Response)
  | [] => return (false, res)
  | (matcher, handler) :: rest =>
      match matcher path with
      | some matched => do return (true, ← handler body matched res)
      | none => dispatchRequest path body res rest

/-- `detail::expect_content`. -/
def RoutedRequest.expectContent (req : RoutedRequest) : Bool :=
  ["POST", "PUT", "PATCH", "DELETE"].any (fun method => req.method == ascii method) ||
    req.hasFramedBody

/-- `Server::routing` from the content on, for a server without handlers of other methods. -/
def dispatchContent (getHandlers postHandlers : Handlers) (req : RoutedRequest) (res : Response) :
    McpM (Bool × Response) :=
  match if req.expectContent then req.content else .ok [] with
  | .error failure => return (false, { res with status := failure.status })
  | .ok body =>
      if req.method = ascii "GET" ∨ req.method = ascii "HEAD" then
        dispatchRequest req.path body res getHandlers
      else if req.method = ascii "POST" then dispatchRequest req.path body res postHandlers
      else if ["PUT", "DELETE", "OPTIONS", "PATCH"].any fun method => req.method == ascii method then
        dispatchRequest req.path body res []
      else return (false, { res with status := 400 })

/-- The ranges that a request asks for, or the status it is refused with before it is routed. -/
def RoutedRequest.parseHead (platform : Platform) (req : RoutedRequest) : Except ℤ (List Range) :=
  if req.hasHeader "Accept" &&
      !parseAcceptHeader platform.readsQuality (req.getHeaderValue "Accept") then .error 400
  else if req.hasHeader "Range" then
    match parseRangeHeader (req.getHeaderValue "Range") with
    | some ranges => .ok ranges
    | none => .error 416
  else .ok []

/-- The response of `process_request` once routing has come to an end. -/
def completed (platform : Platform) (boundary : Text) (ranges : List Range) (routed : Bool)
    (res : Response) : Response :=
  if routed then
    let res :=
      if res.status = -1 then { res with status := if ranges.isEmpty then 200 else 206 } else res
    match rangeError platform.rangeSort ranges res with
    | none => { res with status := 416, body := [] }
    | some ranges => applyRanges boundary ranges res
  else if res.status = -1 then { res with status := 404 }
  else res

/-- What `write_response_core` writes of a response: to `HEAD` no body. -/
def RoutedRequest.written (req : RoutedRequest) (res : Response) : Response :=
  if req.method = ascii "HEAD" then { res with body := [] } else res

end Httplib

/-! ## `MemoryHttpServer` -/

open Httplib

/-- The server with what its routes read. It gives the protocol its own `debugErrors`. -/
structure MemoryHttpRoutes extends MemoryHttpServer where
  host : Host
  platform : Platform
  protocol : MemoryMcpProtocol
  maxPayloadBytes : ℕ := 1048576
  mcpPath : Matcher := literally "/mcp"
  maxMcpMessageBytes : ℕ := 1048576

namespace MemoryHttpRoutes

def setJson (json : Json) (res : Response) : McpM Response := do
  return res.setContent (← .ofExcept json.dumped) "application/json"

/-- `{"ok": false, "error": message}`. -/
def refusal (message : Text) : Json :=
  .ofMembers [("ok", .boolean false), ("error", .string message)]

def refuse (status : ℤ) (message : Text) (res : Response) : McpM Response :=
  setJson (refusal message) { res with status }

/-- `try { res.set_content(handler().dump()) }` with the `catch` clause that both templates
have. -/
def handleJsonGet (server : MemoryHttpRoutes) (handler : McpM Json) (res : Response) :
    McpM Response :=
  catching (do setJson (← handler) res) fun what =>
    refuse 500 (server.protocol.errorMessage what "internal server error") res

def handleJsonPost (server : MemoryHttpRoutes) (handler : Json → McpM Json) (body : Text)
    (res : Response) : McpM Response :=
  if 0 < server.maxPayloadBytes ∧ server.maxPayloadBytes < body.length then
    refuse 413 (ascii "payload too large") res
  else
    match server.host.parseJson body with
    | none =>
        refuse 400 (server.protocol.errorMessage (server.protocol.parseError body) "invalid JSON") res
    | some j => server.handleJsonGet (handler j) res

/-- `auto result = runtime_.op(...)`, whose data or error go into the envelope. -/
def envelope (op : RuntimeOp) (succeeded : RuntimeOp.signature.Reply op → Bool)
    (data : RuntimeOp.signature.Reply op → Json)
    (error : RuntimeOp.signature.Reply op → MemoryError) : McpM Json := do
  let result ← runtime op
  return if succeeded result then successEnvelope (data result) else errorEnvelope (error result)

def postEvents (j : Json) : McpM Json :=
  envelope (.appendEvent (eventFromJson j)) (·.succeeded)
    (fun _ => .ofMembers [("succeeded", .boolean true)]) (·.error)

def postContext (printFloat : ℚ → FloatText) (j : Json) : McpM Json :=
  envelope (.buildContext (contextRequestFromJson j)) (·.succeeded)
    (fun result => .ofMembers [("context", contextPackageToJson printFloat result.context)])
    (·.error)

def postPayloads (j : Json) : McpM Json :=
  envelope (.writePayload (payloadWriteRequestFromJson j)) (·.succeeded) payloadWriteResultToJson
    (·.error)

def postConsolidate (j : Json) : McpM Json :=
  envelope (.consolidate (consolidationRequestFromJson j)) (·.succeeded) consolidationResultToJson
    (·.error)

def postSearch (printFloat : ℚ → FloatText) (j : Json) : McpM Json :=
  envelope (.searchMemory (searchRequestFromJson j)) (·.succeeded)
    (fun result => searchResponseToJson printFloat result.hits) (·.error)

def getStats : McpM Json :=
  envelope .getStats (·.succeeded)
    (fun result => .ofMembers [("stats", statsToJson result.stats)]) (·.error)

/-- What the filter of the payload route says of a path, if it refuses it. -/
def refusesPath (matched : Text) : Option String :=
  if matched.isEmpty then some "empty payload path"
  else if contains matched (ascii "..") then some "path contains forbidden traversal sequence"
  else if matched.any fun c => c < 0x20 then some "path contains control character"
  else none

def getPayload (server : MemoryHttpRoutes) (matched : Text) (res : Response) : McpM Response :=
  match refusesPath matched with
  | some message =>
      setJson (errorEnvelope { code := ascii "invalid_payload_path", message := ascii message })
        { res with status := 400 }
  | none =>
      let uri := ascii "file://" ++ matched
      server.handleJsonGet (envelope (.readPayload uri) (·.succeeded)
        (fun result => .ofMembers [("uri", .string uri), ("content", .string result.content)])
        (·.error)) res

/-- The handler of `RegisterMcpRoutes`. -/
def postMcp (server : MemoryHttpRoutes) (body : Text) (res : Response) : McpM Response :=
  if server.maxMcpMessageBytes < body.length then
    setJson (MemoryMcpProtocol.error .null (-32600) (ascii "message too large"))
      { res with status := 413 }
  else do
    let response ← server.protocol.handleJsonRpcText server.host body
    if response.isEmpty then return { res with status := 202 }
    else return res.setContent response "application/json"

/-- The handlers of `Post`, in the order in which they are set. -/
def postHandlers (server : MemoryHttpRoutes) : Handlers :=
  [(server.mcpPath, fun body _ => server.postMcp body),
    (literally "/v1/events", fun body _ => server.handleJsonPost postEvents body),
    (literally "/v1/context",
      fun body _ => server.handleJsonPost (postContext server.protocol.printFloat) body),
    (literally "/v1/payloads", fun body _ => server.handleJsonPost postPayloads body),
    (literally "/v1/consolidate", fun body _ => server.handleJsonPost postConsolidate body),
    (literally "/v1/search",
      fun body _ => server.handleJsonPost (postSearch server.protocol.printFloat) body)]

/-- The handlers of `Get`. -/
def getHandlers (server : MemoryHttpRoutes) : Handlers :=
  [(startingWith "/v1/payloads/", fun _ matched => server.getPayload matched),
    (literally "/v1/stats", fun _ _ => server.handleJsonGet getStats),
    (literally "/health", fun _ _ => setJson (.ofMembers [("status", .string (ascii "ok"))]))]

/-- `Server::routing`. What a handler before it throws is not looked at. -/
def routing (server : MemoryHttpRoutes) (req : RoutedRequest) : McpM (Bool × Response) :=
  match Httplib.routing server.registerAuth (fun _ res => .ok (false, res)) req.toRequest {} with
  | .error _ => .throw .other
  | .ok (true, res) => return (true, res)
  | .ok (false, res) => dispatchContent server.getHandlers server.postHandlers req res

/-- `Server::process_request` from the `Accept` header on, up to the response that is written.
Nothing is in the response when an exception leaves a handler. -/
def processRequest (server : MemoryHttpRoutes) (req : RoutedRequest) : McpM Response :=
  match req.parseHead server.platform with
  | .error status => return req.written { status }
  | .ok ranges =>
      (server.routing req).tryBind fun
        | .ok (routed, res) =>
            return req.written (completed server.platform req.boundary ranges routed res)
        | .error _ => return req.written { status := 500 }

end MemoryHttpRoutes

end AgentMemory
