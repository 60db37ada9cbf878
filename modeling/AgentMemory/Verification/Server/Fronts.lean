import AgentMemory.Verification.Server.Answers

/-! # Two fronts of one runtime

A route of the HTTP server and a tool of the MCP protocol that come to the same operation have the
same effect, and what the operation replied reaches the client as the same document. -/

namespace AgentMemory

open Foundation Json Httplib

/-! ## Documents -/

namespace RuntimeOp

def succeeded : (op : RuntimeOp) → RuntimeOp.signature.Reply op → Bool
  | .appendEvent _, result => MemoryOperationResult.succeeded result
  | .buildContext _, result => MemoryContextResult.succeeded result
  | .writePayload _, result => MemoryPayloadWriteResult.succeeded result
  | .readPayload _, result => MemoryPayloadReadResult.succeeded result
  | .consolidate _, result => MemoryConsolidationResult.succeeded result
  | .searchMemory _, result => MemorySearchResult.succeeded result
  | .getStats, result => MemoryStatsResult.succeeded result

def error : (op : RuntimeOp) → RuntimeOp.signature.Reply op → MemoryError
  | .appendEvent _, result => MemoryOperationResult.error result
  | .buildContext _, result => MemoryContextResult.error result
  | .writePayload _, result => MemoryPayloadWriteResult.error result
  | .readPayload _, result => MemoryPayloadReadResult.error result
  | .consolidate _, result => MemoryConsolidationResult.error result
  | .searchMemory _, result => MemorySearchResult.error result
  | .getStats, result => MemoryStatsResult.error result

def data (printFloat : ℚ → FloatText) : (op : RuntimeOp) → RuntimeOp.signature.Reply op → Json
  | .appendEvent _, _ => .ofMembers [("succeeded", .boolean true)]
  | .buildContext _, result =>
      .ofMembers [("context", contextPackageToJson printFloat (MemoryContextResult.context result))]
  | .writePayload _, result => payloadWriteResultToJson result
  | .readPayload uri, result =>
      .ofMembers [("uri", .string uri), ("content", .string (MemoryPayloadReadResult.content result))]
  | .consolidate _, result => consolidationResultToJson result
  | .searchMemory _, result => searchResponseToJson printFloat (MemorySearchResult.hits result)
  | .getStats, result => .ofMembers [("stats", statsToJson (MemoryStatsResult.stats result))]

/-- The document that both fronts make of a reply. -/
def document (printFloat : ℚ → FloatText) (op : RuntimeOp)
    (result : RuntimeOp.signature.Reply op) : Json :=
  if op.succeeded result then successEnvelope (op.data printFloat result)
  else errorEnvelope (op.error result)

/-- An operation is called, and its document made. -/
def documented (printFloat : ℚ → FloatText) (op : RuntimeOp) : McpM Json := do
  return op.document printFloat (← runtime op)

end RuntimeOp

theorem handler_of_operation? {printFloat : ℚ → FloatText} {route : PostRoute} {j : Json}
    {op : RuntimeOp} (h : route.tool.operation? j = some op) :
    route.handler printFloat j = op.documented printFloat := by
  cases route <;> cases h <;> rfl

/-- What a tool returns for a document. -/
def textResult (text : Text) : Json :=
  .ofMembers [("content", .array [
    .ofMembers [("type", .string (ascii "text")), ("text", .string text)]])]

theorem makeTextResult_eq (json : Json) :
    MemoryMcpProtocol.makeTextResult json = json.dumped.map textResult := by
  unfold MemoryMcpProtocol.makeTextResult
  cases json.dumped <;> rfl

theorem report_eq (op : RuntimeOp) (succeeded : RuntimeOp.signature.Reply op → Bool)
    (data : RuntimeOp.signature.Reply op → Json)
    (error : RuntimeOp.signature.Reply op → MemoryError) :
    Tool.report op succeeded data error =
      MemoryHttpRoutes.envelope op succeeded data error >>= fun json =>
        .ofExcept (MemoryMcpProtocol.makeTextResult json) := by
  unfold Tool.report MemoryHttpRoutes.envelope
  rw [Program.bind_assoc]
  rfl

theorem handle_of_operation? {printFloat : ℚ → FloatText} {tool : Tool} {args : Json}
    {op : RuntimeOp} (h : tool.operation? args = some op) :
    tool.handle printFloat args = op.documented printFloat >>= fun json =>
      .ofExcept (MemoryMcpProtocol.makeTextResult json) := by
  cases tool with
  | readPayload =>
      unfold Tool.operation? at h
      unfold Tool.handle
      cases huri : args.stringValue "uri" with
      | error e => simp [huri, Except.toOption] at h
      | ok uri =>
          rw [huri] at h
          cases h
          exact report_eq _ _ _ _
  | _ =>
      cases h
      exact report_eq _ _ _ _

/-! ## Responses -/

namespace MemoryHttpRoutes

/-- The response to an exception in a route. -/
def failure (server : MemoryHttpRoutes) : Thrown → Response
  | .standard what =>
      match (refusal (server.protocol.errorMessage what "internal server error")).dumped with
      | .ok text => Response.setContent { status := 500 } text "application/json"
      | .error _ => { status := 500 }
  | .other => { status := 500 }

/-- The response of a route to a document or an exception. -/
def respondTo (server : MemoryHttpRoutes) (document : Except Thrown Json) : Response :=
  match document >>= Json.dumped with
  | .ok text => Response.setContent { status := 200 } text "application/json"
  | .error e => server.failure e

section Requests

variable {server : MemoryHttpRoutes} {req : RoutedRequest} {op : RuntimeOp} {σ : Type}
  (h : Handler (RuntimeOp.signature.fallible Thrown) σ) (s : σ)

theorem run_documented (printFloat : ℚ → FloatText) (op : RuntimeOp) :
    (op.documented printFloat).run h s =
      ((h op s).1.map (op.document printFloat), (h op s).2) := by
  unfold RuntimeOp.documented
  rw [Program.run_map]
  change ((Program.run h (.ofExcept (h op s).1 : McpM _) (h op s).2).1.map _,
    (Program.run h (.ofExcept (h op s).1 : McpM _) (h op s).2).2) = _
  rw [Program.run_ofExcept]

theorem run_setJson (json : Json) (res : Response) :
    (setJson json res).run h s =
      (json.dumped.map fun text => res.setContent text "application/json", s) := by
  unfold setJson
  rw [Program.run_map, Program.run_ofExcept]

/-- The response to a handled request, as a whole. An exception leaves the status of a failure. -/
def finished : Except Thrown Response → Response
  | .ok res => res.settled true
  | .error _ => { status := 500 }

theorem finished_refuse (server : MemoryHttpRoutes) (what : Text) :
    finished ((refuse 500 (server.protocol.errorMessage what "internal server error") {}).run h s).1 =
      server.failure (.standard what) := by
  unfold refuse failure
  rw [run_setJson]
  dsimp only
  cases (refusal (server.protocol.errorMessage what "internal server error")).dumped <;> rfl

theorem run_handleJsonGet (server : MemoryHttpRoutes) (p : McpM Json) :
    finished ((server.handleJsonGet p {}).run h s).1 = server.respondTo (p.run h s).1 ∧
      ((server.handleJsonGet p {}).run h s).2 = (p.run h s).2 := by
  unfold handleJsonGet catching respondTo
  rw [Program.run_tryBind, Program.run_bind]
  cases p.run h s with
  | mk outcome t =>
      rcases outcome with (what | -) | json
      · dsimp only
        refine ⟨finished_refuse h t server what, ?_⟩
        unfold refuse
        rw [run_setJson]
      · exact ⟨rfl, rfl⟩
      · dsimp only
        rw [run_setJson]
        change finished _ = (match json.dumped with
          | .ok text => Response.setContent { status := 200 } text "application/json"
          | .error e => server.failure e) ∧ _
        rcases json.dumped with (what | -) | text
        · refine ⟨finished_refuse h t server what, ?_⟩
          change ((refuse 500 _ {}).run h t).2 = t
          unfold refuse
          rw [run_setJson]
        · exact ⟨rfl, rfl⟩
        · exact ⟨rfl, rfl⟩

/-- A request that does not go to the message path and comes to an operation is handled by the
template. -/
theorem dispatchContent_of_operation?
    (hmessage : req.method = ascii "POST" → server.mcpPath req.path = none)
    (hop : server.routedOperation? req = some op) :
    dispatchContent server.getHandlers server.postHandlers req {} = do
      return (true, ← server.handleJsonGet (op.documented server.protocol.printFloat) {}) := by
  unfold routedOperation? at hop
  unfold dispatchContent
  revert hop
  cases if req.expectContent then req.content else .ok [] with
  | error failure => rintro ⟨⟩
  | ok body =>
      dsimp only
      split_ifs with hget hpost
      · intro hop
        rw [dispatchRequest_get]
        unfold getOperation? at hop
        cases hstart : startingWith "/v1/payloads/" req.path with
        | some matched =>
            simp only [hstart] at hop
            split_ifs at hop with hrefuses
            cases hop
            dsimp only
            rw [getPayload, Option.not_isSome_iff_eq_none.mp hrefuses]
            rfl
        | none =>
            simp only [hstart] at hop
            split_ifs at hop with hstats
            cases hop
            dsimp only
            rw [if_pos hstats]
            rfl
      · intro hop
        rw [dispatchRequest_post]
        unfold postOperation? at hop
        simp only [hmessage hpost, Option.isSome_none, Bool.false_eq_true, if_false] at hop
        split_ifs at hop with hsize
        obtain ⟨route, hroute, hop⟩ := Option.bind_eq_some_iff.mp hop
        obtain ⟨j, hparse, hop⟩ := Option.bind_eq_some_iff.mp hop
        rw [hmessage hpost]
        simp only [hroute]
        rw [handleJsonPost, if_neg hsize, hparse]
        dsimp only
        rw [handler_of_operation? hop]
      · rintro ⟨⟩
      · rintro ⟨⟩

/-- A request that comes to an operation is answered with what that replies, or for what it
throws. -/
theorem run_processRequest (hreq : server.LetsThrough req)
    (hmessage : req.method = ascii "POST" → server.mcpPath req.path = none)
    (hop : server.operation? req = some op) :
    ∃ res, (server.processRequest req).run h s = (.ok res, (h op s).2) ∧
      Sent server.platform req
        (server.respondTo ((h op s).1.map (op.document server.protocol.printFloat))) res := by
  obtain ⟨ranges, hhead, hop⟩ := operation?_eq_some hop
  obtain ⟨hresponse, hstate⟩ :=
    run_handleJsonGet h s server (op.documented server.protocol.printFloat)
  rw [run_documented] at hresponse hstate
  rw [← hresponse, ← hstate]
  have hreturns := returns_handleJsonGet h s server (op.documented server.protocol.printFloat)
  revert hreturns
  unfold Returns processRequest
  rw [hhead]
  dsimp only
  rw [Program.run_tryBind, routing_letsThrough hreq, dispatchContent_of_operation? hmessage hop,
    Program.run_map]
  cases ((server.handleJsonGet (op.documented server.protocol.printFloat) {}).run h s).1 with
  | ok res =>
      intro hreturns
      refine ⟨_, rfl, _, ?_, rfl⟩
      rw [ranges_of_parseHead hhead]
      exact @cut_settled server.platform req.boundary ranges true res (hreturns res rfl)
  | error e =>
      have hstatus : 300 ≤ (finished (.error e)).status := by
        unfold finished
        norm_num
      exact fun _ => ⟨_, rfl, _, .failed hstatus, rfl⟩

end Requests

theorem status_failure (server : MemoryHttpRoutes) (e : Thrown) : (server.failure e).status = 500 := by
  unfold failure
  cases e with
  | standard what =>
      dsimp only
      cases (refusal (server.protocol.errorMessage what "internal server error")).dumped <;> rfl
  | other => rfl

end MemoryHttpRoutes

/-! ## Agreement -/

section Agreement

variable {server : MemoryHttpRoutes} {op : RuntimeOp} {σ : Type}
  (h : Handler (RuntimeOp.signature.fallible Thrown) σ) (s : σ)

/-- What a client of a tool may be told of a failure. -/
def ToldOfFailure (outcome : Except Thrown Json) : Prop :=
  ∀ result, outcome = .ok result →
    ∃ message text, (MemoryHttpRoutes.refusal message).dump = .ok text ∧ result = textResult text

theorem toldOfFailure_refusal (message : Text) :
    ToldOfFailure (MemoryMcpProtocol.makeTextResult (MemoryHttpRoutes.refusal message)) := by
  intro result hresult
  rw [makeTextResult_eq] at hresult
  unfold dumped at hresult
  cases hdump : (MemoryHttpRoutes.refusal message).dump with
  | error e => simp [hdump, Except.map] at hresult
  | ok text =>
      rw [hdump] at hresult
      cases hresult
      exact ⟨message, text, hdump, rfl⟩

/-- What a tool makes of the text of a document, or of an exception. -/
def toolResult (protocol : MemoryMcpProtocol) : Except Thrown Text → Except Thrown Json
  | .ok text => .ok (textResult text)
  | .error (.standard what) => MemoryMcpProtocol.makeTextResult
      (MemoryHttpRoutes.refusal (protocol.errorMessage what "tool call failed"))
  | .error .other => .error .other

/-- A tool that comes to an operation makes its result of what that replies or throws. -/
theorem run_callTool {name : Text} {args : Json}
    (hop : (Tool.find? name).bind (·.operation? args) = some op) :
    (server.protocol.callTool name args).run h s = (toolResult server.protocol
      ((h op s).1.map (op.document server.protocol.printFloat) >>= dumped), (h op s).2) := by
  obtain ⟨tool, htool, hop⟩ := Option.bind_eq_some_iff.mp hop
  unfold MemoryMcpProtocol.callTool catching
  rw [htool]
  dsimp only
  rw [handle_of_operation? hop, Program.run_tryBind, Program.run_bind,
    MemoryHttpRoutes.run_documented]
  rcases (h op s).1 with (what | -) | reply
  · exact Program.run_ofExcept h _ _
  · rfl
  · dsimp only [Except.map]
    rw [Program.run_ofExcept, makeTextResult_eq]
    change _ = (toolResult server.protocol (op.document server.protocol.printFloat reply).dumped, _)
    rcases (op.document server.protocol.printFloat reply).dumped with (what | -) | text
    · exact Program.run_ofExcept h _ _
    · rfl
    · rfl

/-- The two fronts have the same effect. Either both give the client the same document, or both
tell of a failure. A document is cut to the ranges that the request asks for. -/
theorem fronts_agree {req : RoutedRequest} (hreq : server.LetsThrough req)
    (hmessage : req.method = ascii "POST" → server.mcpPath req.path = none)
    (hop : server.operation? req = some op) {name : Text} {args : Json}
    (htool : (Tool.find? name).bind (·.operation? args) = some op) :
    ∃ whole res, (server.processRequest req).run h s =
        (.ok res, ((server.protocol.callTool name args).run h s).2) ∧
      Sent server.platform req whole res ∧
      (whole.status = 200 ∧
          ((server.protocol.callTool name args).run h s).1 = .ok (textResult whole.body) ∨
        whole.status = 500 ∧ ToldOfFailure ((server.protocol.callTool name args).run h s).1) := by
  obtain ⟨res, hres, hsent⟩ := MemoryHttpRoutes.run_processRequest h s hreq hmessage hop
  rw [run_callTool h s htool, hres]
  refine ⟨_, res, rfl, hsent, ?_⟩
  unfold MemoryHttpRoutes.respondTo
  rcases (h op s).1.map (op.document server.protocol.printFloat) >>= dumped with (what | -) | text
  · exact .inr ⟨server.status_failure _, toldOfFailure_refusal _⟩
  · exact .inr ⟨server.status_failure _, fun result hresult => by cases hresult⟩
  · exact .inl ⟨rfl, rfl⟩

/-- A platform that reads one quality. -/
def Httplib.Platform.plain : Platform where
  readsQuality value := value == ascii "1"
  rangeSort := .stable

def eventDocument : Json :=
  .object [(ascii "agentId", .string (ascii "alice")), (ascii "content", .string (ascii "hello"))]

def eventText : Text :=
  ascii "\x7b\"agentId\":\"alice\",\"content\":\"hello\"\x7d"

def eventRequest : RoutedRequest where
  path := ascii "/v1/events"
  method := ascii "POST"
  content := .ok eventText

/-- It asks for the seven bytes after the first one. -/
def rangedRequest : RoutedRequest :=
  { eventRequest with
    headers := [{ name := ascii "Range", value := ascii "bytes=1-6", valid := by decide }] }

/-- A server without a token and a limit that reads one document. -/
def eventServer : MemoryHttpRoutes where
  host := .parsing eventText eventDocument
  platform := .plain
  protocol := { printFloat := printZero, parseError := id }

/-- A runtime that saves events and does nothing else. -/
def saving : Handler (RuntimeOp.signature.fallible Thrown) Unit
  | .appendEvent _, s => (.ok memorySuccess, s)
  | _, s => (.error .other, s)

/-- An event is saved by a request for a part of the response, and by a tool. -/
theorem fronts_agree_part :
    let called := (eventServer.protocol.callTool (ascii "memory_append_event") eventDocument).run
      saving ()
    ∃ whole res, (eventServer.processRequest rangedRequest).run saving () = (.ok res, called.2) ∧
      Sent .plain rangedRequest whole res ∧
      res.status = 206 ∧ res.body = ascii "\"data\"" ∧
      whole.status = 200 ∧ called.1 = .ok (textResult whole.body) := by
  intro called
  have hop : eventServer.operation? rangedRequest =
      some (.appendEvent (eventFromJson eventDocument)) := rfl
  have htool : (Tool.find? (ascii "memory_append_event")).bind (·.operation? eventDocument) =
      some (.appendEvent (eventFromJson eventDocument)) := rfl
  have hsentPart : ((eventServer.processRequest rangedRequest).run saving ()).1.toOption.map
      (fun res => (res.status, res.body)) = some (206, ascii "\"data\"") := by decide +kernel
  obtain ⟨whole, res, hres, hsent, hagree⟩ :=
    fronts_agree saving () (.inl rfl) (fun _ => rfl) hop htool
  rw [hres] at hsentPart
  obtain ⟨hstatus, hbody⟩ := Prod.mk.inj (Option.some.inj hsentPart)
  refine ⟨whole, res, hres, hsent, hstatus, hbody, hagree.resolve_right fun hfailed => ?_⟩
  have hwhole := hsent.status_of_failed (by omega)
  omega

end Agreement

end AgentMemory
