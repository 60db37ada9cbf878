import AgentMemory.Model.HttpRoutes
import AgentMemory.Verification.Mcp.Correlation
import AgentMemory.Verification.Server.Auth
import AgentMemory.Verification.Server.Ranges

/-! # The routes of the server

Which operation of the runtime a request comes to, and what it is answered with. -/

namespace AgentMemory

open Foundation Json Httplib

/-! ## Routes that take a document -/

inductive PostRoute where
  | events
  | context
  | payloads
  | consolidate
  | search
deriving DecidableEq

namespace PostRoute

/-- In the order in which they are set. -/
def all : List PostRoute :=
  [.events, .context, .payloads, .consolidate, .search]

def path : PostRoute → String
  | .events => "/v1/events"
  | .context => "/v1/context"
  | .payloads => "/v1/payloads"
  | .consolidate => "/v1/consolidate"
  | .search => "/v1/search"

def find? (path : Text) : Option PostRoute :=
  all.find? fun route => path = ascii route.path

/-- The tool that calls the same operation. -/
def tool : PostRoute → Tool
  | .events => .appendEvent
  | .context => .buildContext
  | .payloads => .writePayload
  | .consolidate => .consolidate
  | .search => .search

def handler (printFloat : ℚ → FloatText) : PostRoute → Json → McpM Json
  | .events => MemoryHttpRoutes.postEvents
  | .context => MemoryHttpRoutes.postContext printFloat
  | .payloads => MemoryHttpRoutes.postPayloads
  | .consolidate => MemoryHttpRoutes.postConsolidate
  | .search => MemoryHttpRoutes.postSearch printFloat

end PostRoute

theorem postHandlers_eq (server : MemoryHttpRoutes) :
    server.postHandlers = (server.mcpPath, fun body _ => server.postMcp body) ::
      PostRoute.all.map fun route => (literally route.path, fun body _ =>
        server.handleJsonPost (route.handler server.protocol.printFloat) body) := rfl

theorem dispatchRequest_literally {ρ : Type} (pattern : ρ → String) (handler : ρ → RouteHandler)
    (path body : Text) (res : Response) (routes : List ρ) :
    dispatchRequest path body res
        (routes.map fun route => (literally (pattern route), handler route)) =
      match routes.find? fun route => path = ascii (pattern route) with
      | some route => do return (true, ← handler route body [] res)
      | none => return (false, res) := by
  induction routes with
  | nil => rfl
  | cons route rest ih =>
      by_cases hpath : path = ascii (pattern route)
      · simp [dispatchRequest, literally, hpath]
      · simpa [dispatchRequest, literally, hpath] using ih

/-! ## Calls of the runtime -/

section Calls

variable {σ α β : Type} (h : Handler (RuntimeOp.signature.fallible Thrown) σ) (s : σ)

/-- The operations that a function of the server calls, in order. -/
def calls (p : McpM α) : List RuntimeOp :=
  (p.trace h s).map Sigma.fst

@[simp] theorem calls_pure (a : α) : calls h s (pure a : McpM α) = [] := rfl

@[simp] theorem calls_throw (e : Thrown) : calls h s (.throw e : McpM α) = [] := rfl

@[simp] theorem calls_ofExcept (x : Except Thrown α) :
    calls h s (.ofExcept x : McpM α) = [] := by
  simp [calls]

theorem calls_tryBind (p : McpM α) (f : Except Thrown α → McpM β) :
    calls h s (p.tryBind f) =
      calls h s p ++ calls h (p.run h s).2 (f (p.run h s).1) := by
  simp [calls, Program.trace_tryBind]

/-- What follows calls nothing. -/
theorem calls_bind_of_silent {p : McpM α} {f : α → McpM β} (hf : ∀ a t, calls h t (f a) = []) :
    calls h s (p >>= f) = calls h s p := by
  change calls h s (p.tryBind _) = _
  rw [calls_tryBind]
  cases (p.run h s).1 with
  | ok a => simp [hf]
  | error e => simp

theorem calls_catching {p : McpM α} {handle : Text → McpM α}
    (hhandle : ∀ what t, calls h t (handle what) = []) :
    calls h s (catching p handle) = calls h s p := by
  unfold catching
  rw [calls_tryBind]
  rcases (p.run h s).1 with (what | -) | a
  · simp [hhandle]
  · simp
  · simp

@[simp] theorem calls_setJson (json : Json) (res : Response) :
    calls h s (MemoryHttpRoutes.setJson json res) = [] := by
  unfold MemoryHttpRoutes.setJson
  rw [calls_bind_of_silent h s fun _ _ => rfl, calls_ofExcept]

@[simp] theorem calls_refuse (status : ℤ) (message : Text) (res : Response) :
    calls h s (MemoryHttpRoutes.refuse status message res) = [] :=
  calls_setJson h s _ _

theorem calls_envelope (op : RuntimeOp) (succeeded : RuntimeOp.signature.Reply op → Bool)
    (data : RuntimeOp.signature.Reply op → Json)
    (error : RuntimeOp.signature.Reply op → MemoryError) :
    calls h s (MemoryHttpRoutes.envelope op succeeded data error) = [op] := by
  unfold MemoryHttpRoutes.envelope
  rw [calls_bind_of_silent h s fun _ _ => rfl]
  change op :: calls h _ (.ofExcept (h op s).1 : McpM _) = [op]
  rw [calls_ofExcept]

theorem calls_report (op : RuntimeOp) (succeeded : RuntimeOp.signature.Reply op → Bool)
    (data : RuntimeOp.signature.Reply op → Json)
    (error : RuntimeOp.signature.Reply op → MemoryError) :
    calls h s (Tool.report op succeeded data error) = [op] := by
  unfold Tool.report
  rw [calls_bind_of_silent h s fun _ _ => calls_ofExcept h _ _]
  change op :: calls h _ (.ofExcept (h op s).1 : McpM _) = [op]
  rw [calls_ofExcept]

/-! ### Tools -/

theorem calls_handle (printFloat : ℚ → FloatText) (tool : Tool) (args : Json) :
    calls h s (tool.handle printFloat args) = (tool.operation? args).toList := by
  cases tool with
  | readPayload =>
      unfold Tool.handle Tool.operation?
      cases args.stringValue "uri" with
      | ok uri => exact calls_report h s _ _ _ _
      | error e => rfl
  | _ => exact calls_report h s _ _ _ _

theorem calls_callTool (protocol : MemoryMcpProtocol) (name : Text) (args : Json) :
    calls h s (protocol.callTool name args) =
      ((Tool.find? name).bind (·.operation? args)).toList := by
  unfold MemoryMcpProtocol.callTool
  rw [calls_catching h s fun _ _ => calls_ofExcept h _ _]
  cases Tool.find? name with
  | none => exact calls_ofExcept h s _
  | some tool => exact calls_handle h s protocol.printFloat tool args

theorem calls_toolsCall (protocol : MemoryMcpProtocol) (req id : Json) :
    calls h s (protocol.toolsCall req id) = (calledOperation? req).toList := by
  unfold MemoryMcpProtocol.toolsCall calledOperation?
  cases req.jsonValue "params" with
  | error e => rfl
  | ok params =>
      rw [Program.ofExcept_ok_bind]
      dsimp only
      cases params.stringValue "name" with
      | error e => rfl
      | ok name =>
          rw [Program.ofExcept_ok_bind]
          cases params.jsonValue "arguments" with
          | error e => rfl
          | ok args =>
              rw [Program.ofExcept_ok_bind, calls_bind_of_silent h s fun _ _ => rfl]
              exact calls_callTool h s protocol name args

theorem calls_handleRequest (protocol : MemoryMcpProtocol) (req : Json) :
    calls h s (protocol.handleRequest req) = (requestedOperation? req).toList := by
  unfold MemoryMcpProtocol.handleRequest requestedOperation?
  cases req.stringValue "method" with
  | error e => rfl
  | ok method =>
      rw [Program.ofExcept_ok_bind]
      unfold MemoryMcpProtocol.methodHandler?
      dsimp only
      by_cases hcall : method = ascii "tools/call"
      · subst hcall
        have hstarts : ascii "tools/call" ≠ ascii "initialize" := by decide
        have hlist : ascii "tools/call" ≠ ascii "tools/list" := by decide
        simp only [hstarts, hlist, if_false, if_true]
        rw [calls_catching h s fun _ _ => rfl]
        exact calls_toolsCall h s protocol req _
      · rw [if_neg hcall]
        split_ifs with hstarts hlist
        · dsimp only
          rw [calls_catching h s fun _ _ => rfl]
          rfl
        · dsimp only
          rw [calls_catching h s fun _ _ => rfl]
          rfl
        · rfl

/-- The operation that a message comes to. A notification is not looked at. -/
def messageOperation? (host : Host) (body : Text) : Option RuntimeOp := do
  let req ← host.parseJson body
  let _ ← req.member? (ascii "id")
  requestedOperation? req

theorem calls_handleJsonRpcText (host : Host) (protocol : MemoryMcpProtocol) (body : Text) :
    calls h s (protocol.handleJsonRpcText host body) = (messageOperation? host body).toList := by
  unfold MemoryMcpProtocol.handleJsonRpcText messageOperation?
  rw [calls_catching h s fun _ _ => calls_ofExcept h _ _]
  cases host.parseJson body with
  | none => rfl
  | some req =>
      rw [Program.ofExcept_ok_bind, calls_bind_of_silent h s]
      · unfold MemoryMcpProtocol.handleJsonRpc
        cases hid : req.member? (ascii "id") with
        | none => simp [hid]
        | some id => simpa [hid] using calls_handleRequest h s protocol req
      · intro result t
        split_ifs
        · rfl
        · exact calls_ofExcept h t _

/-! ### Handlers of the server -/

theorem calls_handleJsonGet (server : MemoryHttpRoutes) (handler : McpM Json) (res : Response) :
    calls h s (server.handleJsonGet handler res) = calls h s handler := by
  unfold MemoryHttpRoutes.handleJsonGet
  rw [calls_catching h s fun _ _ => calls_refuse h _ _ _ _,
    calls_bind_of_silent h s fun _ _ => calls_setJson h _ _ _]

theorem calls_handler (printFloat : ℚ → FloatText) (route : PostRoute) (j : Json) :
    calls h s (route.handler printFloat j) = (route.tool.operation? j).toList := by
  cases route <;> exact calls_envelope h s _ _ _ _

theorem calls_handleJsonPost (server : MemoryHttpRoutes) (handler : Json → McpM Json) (body : Text)
    (res : Response) :
    calls h s (server.handleJsonPost handler body res) =
      if 0 < server.maxPayloadBytes ∧ server.maxPayloadBytes < body.length then []
      else ((server.host.parseJson body).map fun j => calls h s (handler j)).getD [] := by
  unfold MemoryHttpRoutes.handleJsonPost
  split_ifs with hsize
  · exact calls_refuse h s _ _ _
  · cases server.host.parseJson body with
    | none => exact calls_refuse h s _ _ _
    | some j => exact calls_handleJsonGet h s server (handler j) res

theorem calls_postMcp (server : MemoryHttpRoutes) (body : Text) (res : Response) :
    calls h s (server.postMcp body res) =
      if server.maxMcpMessageBytes < body.length then []
      else (messageOperation? server.host body).toList := by
  unfold MemoryHttpRoutes.postMcp
  split_ifs with hsize
  · exact calls_setJson h s _ _
  · rw [calls_bind_of_silent h s, calls_handleJsonRpcText]
    intro response t
    split_ifs <;> rfl

theorem calls_getPayload (server : MemoryHttpRoutes) (matched : Text) (res : Response) :
    calls h s (server.getPayload matched res) =
      if (MemoryHttpRoutes.refusesPath matched).isSome then []
      else [.readPayload (ascii "file://" ++ matched)] := by
  unfold MemoryHttpRoutes.getPayload
  cases MemoryHttpRoutes.refusesPath matched with
  | some message => exact calls_setJson h s _ _
  | none =>
      dsimp only
      rw [calls_handleJsonGet, calls_envelope]
      rfl

/-! ### Requests -/

theorem calls_dispatched (p : McpM Response) :
    calls h s (do return (true, ← p) : McpM (Bool × Response)) = calls h s p :=
  calls_bind_of_silent h s fun _ _ => rfl

end Calls

namespace MemoryHttpRoutes

/-- The operation of a `POST` request. The message path hides a route of the same path. -/
def postOperation? (server : MemoryHttpRoutes) (path body : Text) : Option RuntimeOp :=
  if (server.mcpPath path).isSome then
    if server.maxMcpMessageBytes < body.length then none else messageOperation? server.host body
  else if 0 < server.maxPayloadBytes ∧ server.maxPayloadBytes < body.length then none
  else do
    let route ← PostRoute.find? path
    route.tool.operation? (← server.host.parseJson body)

def getOperation? (path : Text) : Option RuntimeOp :=
  match startingWith "/v1/payloads/" path with
  | some matched =>
      if (refusesPath matched).isSome then none
      else some (.readPayload (ascii "file://" ++ matched))
  | none => if path = ascii "/v1/stats" then some .getStats else none

/-- The operation that a request comes to on the routes. -/
def routedOperation? (server : MemoryHttpRoutes) (req : RoutedRequest) : Option RuntimeOp :=
  match if req.expectContent then req.content else .ok [] with
  | .error _ => none
  | .ok body =>
      if req.method = ascii "GET" ∨ req.method = ascii "HEAD" then getOperation? req.path
      else if req.method = ascii "POST" then server.postOperation? req.path body
      else none

/-- The operation of a request whose token is accepted. It comes to none if its head is refused. -/
def operation? (server : MemoryHttpRoutes) (req : RoutedRequest) : Option RuntimeOp :=
  match req.parseHead server.platform with
  | .ok _ => server.routedOperation? req
  | .error _ => none

theorem operation?_eq_some {server : MemoryHttpRoutes} {req : RoutedRequest} {op : RuntimeOp}
    (h : server.operation? req = some op) :
    ∃ ranges, req.parseHead server.platform = .ok ranges ∧
      server.routedOperation? req = some op := by
  unfold operation? at h
  cases hhead : req.parseHead server.platform with
  | ok ranges => exact ⟨ranges, rfl, by rwa [hhead] at h⟩
  | error status => simp [hhead] at h

/-- What is not asked for by reading is posted. -/
theorem method_of_operation? {server : MemoryHttpRoutes} {req : RoutedRequest} {op : RuntimeOp}
    (h : server.operation? req = some op) (hread : getOperation? req.path ≠ some op) :
    req.method = ascii "POST" := by
  obtain ⟨-, -, h⟩ := operation?_eq_some h
  unfold routedOperation? at h
  split at h
  · cases h
  · split_ifs at h with hget hpost
    · exact absurd h hread
    · exact hpost

/-- The server lets a request through to its routes. -/
def LetsThrough (server : MemoryHttpRoutes) (req : RoutedRequest) : Prop :=
  server.apiToken = [] ∨ server.Authorized req.toRequest

section Requests

variable {server : MemoryHttpRoutes} {req : RoutedRequest}

theorem routing_letsThrough (hreq : server.LetsThrough req) :
    server.routing req = dispatchContent server.getHandlers server.postHandlers req {} := by
  have hrouting : Httplib.routing server.registerAuth (fun _ res => .ok (false, res))
      req.toRequest {} = .ok (false, {}) := by
    unfold MemoryHttpServer.registerAuth Httplib.routing
    rcases hreq with htoken | hauthorized
    · simp [htoken]
    · split_ifs
      · rfl
      · dsimp only
        rw [preRoutingHandler_authorized hauthorized]
        rfl
  rw [routing, hrouting]

theorem processRequest_of_error {status : ℤ}
    (hhead : req.parseHead server.platform = .error status) :
    server.processRequest req = pure (req.written { status }) := by
  rw [processRequest, hhead]

theorem processRequest_refused {ranges : List Httplib.Range}
    (hhead : req.parseHead server.platform = .ok ranges) (hreq : ¬server.LetsThrough req) :
    server.processRequest req = pure (req.written unauthorized) := by
  rw [LetsThrough, not_or] at hreq
  have hset : server.registerAuth = some server.preRoutingHandler := by
    simp [MemoryHttpServer.registerAuth, hreq.1]
  have hrouting : Httplib.routing server.registerAuth (fun _ res => .ok (false, res))
      req.toRequest {} = .ok (true, unauthorized) := by
    rw [hset, Httplib.routing, preRoutingHandler_unauthorized hreq.2]
    rfl
  rw [processRequest, hhead, routing, hrouting]
  change pure (req.written (completed server.platform req.boundary ranges true unauthorized)) = _
  rw [completed_of_status _ _ (by decide)]

/-- A request that is not let through calls nothing. -/
theorem processRequest_silent (hreq : ¬server.LetsThrough req) :
    ∃ res, server.processRequest req = pure res := by
  cases hhead : req.parseHead server.platform with
  | ok ranges => exact ⟨_, processRequest_refused hhead hreq⟩
  | error status => exact ⟨_, processRequest_of_error hhead⟩

theorem dispatchRequest_post (path body : Text) :
    dispatchRequest path body {} server.postHandlers =
      match server.mcpPath path with
      | some _ => do return (true, ← server.postMcp body {})
      | none =>
          match PostRoute.find? path with
          | some route => do
              return (true,
                ← server.handleJsonPost (route.handler server.protocol.printFloat) body {})
          | none => return (false, {}) := by
  rw [postHandlers_eq, dispatchRequest]
  cases server.mcpPath path with
  | some matched => rfl
  | none =>
      dsimp only
      rw [dispatchRequest_literally PostRoute.path (fun route body _ =>
        server.handleJsonPost (route.handler server.protocol.printFloat) body), PostRoute.find?]
      cases PostRoute.all.find? fun route => path = ascii route.path with
      | none => rfl
      | some route => rfl

theorem dispatchRequest_get (path body : Text) :
    dispatchRequest path body {} server.getHandlers =
      match startingWith "/v1/payloads/" path with
      | some matched => do return (true, ← server.getPayload matched {})
      | none =>
          if path = ascii "/v1/stats" then do return (true, ← server.handleJsonGet getStats {})
          else if path = ascii "/health" then do
            return (true, ← setJson (.ofMembers [("status", .string (ascii "ok"))]) {})
          else return (false, {}) := by
  rw [getHandlers, dispatchRequest]
  cases startingWith "/v1/payloads/" path with
  | some matched => rfl
  | none =>
      by_cases hstats : path = ascii "/v1/stats"
      · simp [dispatchRequest, literally, hstats]
      · by_cases hhealth : path = ascii "/health"
        · simp +decide [dispatchRequest, literally, hhealth]
        · simp [dispatchRequest, literally, hstats, hhealth]

variable {σ : Type} (h : Handler (RuntimeOp.signature.fallible Thrown) σ) (s : σ)

theorem calls_post (path body : Text) :
    calls h s (dispatchRequest path body {} server.postHandlers) =
      (server.postOperation? path body).toList := by
  rw [dispatchRequest_post, postOperation?]
  cases server.mcpPath path with
  | some matched =>
      dsimp only
      rw [calls_dispatched, calls_postMcp]
      simp only [Option.isSome_some, if_true]
      split_ifs <;> rfl
  | none =>
      simp only [Option.isSome_none, Bool.false_eq_true, if_false]
      cases PostRoute.find? path with
      | none => split_ifs <;> rfl
      | some route =>
          dsimp only
          rw [calls_dispatched, calls_handleJsonPost]
          split_ifs
          · rfl
          · cases server.host.parseJson body with
            | none => rfl
            | some j => exact calls_handler h s _ route j

theorem calls_get (path body : Text) :
    calls h s (dispatchRequest path body {} server.getHandlers) = (getOperation? path).toList := by
  rw [dispatchRequest_get, getOperation?]
  cases startingWith "/v1/payloads/" path with
  | some matched =>
      dsimp only
      rw [calls_dispatched, calls_getPayload]
      split_ifs <;> rfl
  | none =>
      dsimp only
      split_ifs
      · rw [calls_dispatched, calls_handleJsonGet]
        exact calls_envelope h s _ _ _ _
      · rw [calls_dispatched, calls_setJson]
        rfl
      · rfl

/-- A request that is let through calls the operation that it comes to, and no other. -/
theorem calls_processRequest (hreq : server.LetsThrough req) :
    calls h s (server.processRequest req) = (server.operation? req).toList := by
  unfold operation?
  cases hhead : req.parseHead server.platform with
  | error status =>
      rw [processRequest_of_error hhead]
      rfl
  | ok ranges =>
      have hsilent : calls h s (server.processRequest req) = calls h s (server.routing req) := by
        rw [processRequest, hhead]
        dsimp only
        rw [calls_tryBind]
        rcases ((server.routing req).run h s).1 with e | ⟨routed, res⟩
        · simp
        · simp
      rw [hsilent, routing_letsThrough hreq, dispatchContent]
      unfold routedOperation?
      cases if req.expectContent then req.content else .ok [] with
      | error failure => rfl
      | ok body =>
          dsimp only
          split_ifs
          · exact calls_get h s req.path body
          · exact calls_post h s req.path body
          · rfl
          · rfl

end Requests

end MemoryHttpRoutes

end AgentMemory
