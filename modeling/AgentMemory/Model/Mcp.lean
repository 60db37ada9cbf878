import AgentMemory.Model.Codec

/-! # The MCP protocol

A message is one JSON-RPC request. Its fields are read by accessors that throw, and three `catch`
clauses turn what is thrown into a reply. The runtime behind the tools is left open: an operation
may reply anything and throw anything. -/

namespace AgentMemory

open Foundation

/-- What a `catch` clause sees: an exception derived from `std::exception` with its text, or
something else, which no clause catches. -/
inductive Thrown where
  | standard (what : Text)
  | other
deriving DecidableEq

/-! ## Exceptions of the JSON library -/

def typeError (id : ℕ) (message : Text) : Thrown :=
  .standard (ascii "[json.exception.type_error." ++ decimal id ++ ascii "] " ++ message)

namespace Json

/-- `json.value(key, default)` for a default of any type: the member, if there is one. -/
def valueMember? (json : Json) (key : String) : Except Thrown (Option Json) :=
  if json.isObject then .ok (json.member? (ascii key))
  else .error (typeError 306 (ascii "cannot use value() with " ++ ascii json.typeName))

/-- `json.value(key, nlohmann::json::object())`. -/
def jsonValue (json : Json) (key : String) : Except Thrown Json := do
  return (← json.valueMember? key).getD (.object [])

/-- `json.value(key, std::string())`. -/
def stringValue (json : Json) (key : String) : Except Thrown Text := do
  match ← json.valueMember? key with
  | none => return []
  | some (.string s) => return s
  | some value =>
      .error (typeError 302 (ascii "type must be string, but is " ++ ascii value.typeName))

def nibbleToHex (n : ℕ) : UInt8 :=
  (ascii "0123456789ABCDEF").getD n 0

def hexBytes (byte : UInt8) : Text :=
  [nibbleToHex (byte.toNat / 16), nibbleToHex (byte.toNat % 16)]

/-- What `dump_escaped` says when it throws on a string whose last byte is `back`, from index `i`
and a state of the decoder on. -/
def utf8Error (back : UInt8) : ℕ → Utf8State → Text → Option Text
  | _, state, [] =>
      if state = .accept then none
      else some (ascii "incomplete UTF-8 string; last byte: 0x" ++ hexBytes back)
  | i, state, b :: rest =>
      match decode state b with
      | none => some (ascii "invalid UTF-8 byte at index " ++ decimal i ++ ascii ": 0x" ++ hexBytes b)
      | some next => utf8Error back (i + 1) next rest

mutual

/-- The strings and keys of a value, in the order of its dump. -/
def texts : Json → List Text
  | .string s => [s]
  | .array elements => textsOfElements elements
  | .object members => textsOfMembers members
  | _ => []

def textsOfElements : List Json → List Text
  | [] => []
  | x :: rest => texts x ++ textsOfElements rest

def textsOfMembers : List (Text × Json) → List Text
  | [] => []
  | (key, x) :: rest => key :: texts x ++ textsOfMembers rest

end

/-- The exception of `json.dump()`: the first string that is not valid is reported. -/
def dumpError (json : Json) : Thrown :=
  typeError 316 ((json.texts.findSome? fun s => utf8Error (s.getLastD 0) 0 .accept s).getD [])

/-- `json.dump()` with its exception. -/
def dumped (json : Json) : Except Thrown Text :=
  match json.dump with
  | .ok text => .ok text
  | .error _ => .error json.dumpError

end Json

/-! ## The runtime -/

structure MemorySearchResult where
  succeeded : Bool := false
  hits : List MemorySearchHit := []
  error : MemoryError := {}

structure MemoryStatsResult where
  succeeded : Bool := false
  stats : MemoryStats := {}
  error : MemoryError := {}

/-- The operations of `MemoryRuntime` that the tools call. -/
inductive RuntimeOp where
  | appendEvent (event : MemoryEvent)
  | buildContext (request : MemoryContextRequest)
  | writePayload (request : MemoryPayloadWriteRequest)
  | readPayload (uri : Text)
  | consolidate (request : MemoryConsolidationRequest)
  | searchMemory (request : MemorySearchRequest)
  | getStats

abbrev RuntimeOp.signature : Signature where
  Op := RuntimeOp
  Reply
    | .appendEvent _ => MemoryOperationResult
    | .buildContext _ => MemoryContextResult
    | .writePayload _ => MemoryPayloadWriteResult
    | .readPayload _ => MemoryPayloadReadResult
    | .consolidate _ => MemoryConsolidationResult
    | .searchMemory _ => MemorySearchResult
    | .getStats => MemoryStatsResult

/-- A function of the protocol, which calls the runtime. -/
abbrev McpM := Program (RuntimeOp.signature.fallible Thrown) Thrown

/-- `runtime_.op(...)`, with an exception passed on. -/
def runtime (op : RuntimeOp) : McpM (RuntimeOp.signature.Reply op) :=
  .call op .ofExcept

/-- `try { p } catch (const std::exception& e) { handle(e.what()) }`. -/
def catching {α : Type} (p : McpM α) (handle : Text → McpM α) : McpM α :=
  p.tryBind fun
    | .ok a => pure a
    | .error (.standard what) => handle what
    | .error .other => .throw .other

/-! ## Messages -/

/-- `json.empty()`. -/
def Json.empty : Json → Bool
  | .null => true
  | .array elements => elements.isEmpty
  | .object members => members.isEmpty
  | _ => false

/-- The configuration of the protocol, how floating-point numbers are printed, and what `parse`
says of a text it rejects. -/
structure MemoryMcpProtocol where
  debugErrors : Bool := false
  printFloat : ℚ → FloatText
  parseError : Text → Text

namespace MemoryMcpProtocol

def error (id : Json) (code : ℤ) (message : Text) : Json :=
  .ofMembers [("jsonrpc", .string (ascii "2.0")), ("id", id),
    ("error", .ofMembers [("code", .integer code), ("message", .string message)])]

def success (id result : Json) : Json :=
  .ofMembers [("jsonrpc", .string (ascii "2.0")), ("id", id), ("result", result)]

def makeTextResult (value : Json) : Except Thrown Json := do
  let text ← value.dumped
  return .ofMembers [("content", .array [
    .ofMembers [("type", .string (ascii "text")), ("text", .string text)]])]

/-- `ErrorMessage`, without its line on the error stream. -/
def errorMessage (protocol : MemoryMcpProtocol) (what : Text) (fallback : String) : Text :=
  if protocol.debugErrors then what else ascii fallback

/-! ## Tools -/

end MemoryMcpProtocol

inductive Tool where
  | appendEvent
  | buildContext
  | writePayload
  | readPayload
  | consolidate
  | search
  | stats
deriving DecidableEq

namespace Tool

/-- The keys of `toolHandlers_`, in the order of the tools list. -/
def all : List Tool :=
  [.appendEvent, .buildContext, .writePayload, .readPayload, .consolidate, .search, .stats]

def name : Tool → String
  | .appendEvent => "memory_append_event"
  | .buildContext => "memory_build_context"
  | .writePayload => "memory_write_payload"
  | .readPayload => "memory_read_payload"
  | .consolidate => "memory_consolidate"
  | .search => "memory_search"
  | .stats => "memory_stats"

def find? (name : Text) : Option Tool :=
  all.find? fun tool => ascii tool.name = name

/-- `auto result = runtime_.op(...)`, whose data or error become the text of the result. -/
def report (op : RuntimeOp) (succeeded : RuntimeOp.signature.Reply op → Bool)
    (data : RuntimeOp.signature.Reply op → Json)
    (error : RuntimeOp.signature.Reply op → MemoryError) : McpM Json := do
  let result ← runtime op
  .ofExcept (MemoryMcpProtocol.makeTextResult
    (if succeeded result then successEnvelope (data result) else errorEnvelope (error result)))

/-- The handler of each tool. -/
def handle (printFloat : ℚ → FloatText) (tool : Tool) (args : Json) : McpM Json :=
  match tool with
  | .appendEvent =>
      report (.appendEvent (eventFromJson args)) (·.succeeded)
        (fun _ => .ofMembers [("succeeded", .boolean true)]) (·.error)
  | .buildContext =>
      report (.buildContext (contextRequestFromJson args)) (·.succeeded)
        (fun result => .ofMembers [("context", contextPackageToJson printFloat result.context)])
        (·.error)
  | .writePayload =>
      report (.writePayload (payloadWriteRequestFromJson args)) (·.succeeded)
        payloadWriteResultToJson (·.error)
  | .readPayload => do
      let uri ← .ofExcept (args.stringValue "uri")
      report (.readPayload uri) (·.succeeded)
        (fun result => .ofMembers [("uri", .string uri), ("content", .string result.content)])
        (·.error)
  | .consolidate =>
      report (.consolidate (consolidationRequestFromJson args)) (·.succeeded)
        consolidationResultToJson (·.error)
  | .search =>
      report (.searchMemory (searchRequestFromJson args)) (·.succeeded)
        (fun result => searchResponseToJson printFloat result.hits) (·.error)
  | .stats =>
      report .getStats (·.succeeded)
        (fun result => .ofMembers [("stats", statsToJson result.stats)]) (·.error)

/-! ## The tools list -/

def typed (type : String) : Json :=
  .ofMembers [("type", .string (ascii type))]

def strings : Json :=
  .ofMembers [("type", .string (ascii "array")), ("items", typed "string")]

def description : Tool → String
  | .appendEvent => "Append a memory event."
  | .buildContext => "Build memory context."
  | .writePayload => "Write or offload a payload."
  | .readPayload => "Read an offloaded payload."
  | .consolidate => "Trigger memory consolidation."
  | .search => "Search memory."
  | .stats => "Return memory stats."

def properties : Tool → List (String × Json)
  | .appendEvent =>
      [("type", typed "integer"), ("agentId", typed "string"), ("sessionId", typed "string"),
        ("role", typed "string"), ("content", typed "string"), ("toolCallId", typed "string"),
        ("toolName", typed "string"), ("payloadRef", typed "string"), ("metadata", typed "object"),
        ("timestamp", typed "string")]
  | .buildContext =>
      [("agentId", typed "string"), ("sessionId", typed "string"), ("query", typed "string"),
        ("tokenBudget", typed "integer"), ("includeSections", strings),
        ("metadata", typed "object")]
  | .writePayload =>
      [("agentId", typed "string"), ("sessionId", typed "string"), ("content", typed "string"),
        ("contentType", typed "string"), ("toolCallId", typed "string"),
        ("toolName", typed "string"), ("metadata", typed "object")]
  | .readPayload => [("uri", typed "string")]
  | .consolidate =>
      [("agentId", typed "string"), ("sessionId", typed "string"), ("maxEvents", typed "integer"),
        ("forceReprocess", typed "boolean"), ("metadata", typed "object")]
  | .search =>
      [("agentId", typed "string"), ("sessionId", typed "string"), ("query", typed "string"),
        ("limit", typed "integer"), ("includeSections", strings), ("metadata", typed "object")]
  | .stats => []

def required : Tool → List String
  | .appendEvent => ["type", "agentId", "sessionId"]
  | .buildContext => ["agentId", "sessionId"]
  | .writePayload => ["content"]
  | .readPayload => ["uri"]
  | .consolidate => ["agentId"]
  | .search => ["query"]
  | .stats => []

/-- `ToolSchema`. -/
def schema (tool : Tool) : Json :=
  .ofMembers [("name", .string (ascii tool.name)),
    ("description", .string (ascii tool.description)),
    ("inputSchema", .ofMembers [("type", .string (ascii "object")),
      ("properties", .ofMembers tool.properties),
      ("required", .ofStrings (tool.required.map ascii))])]

end Tool

def buildToolsList : Json :=
  .ofMembers [("tools", .array (Tool.all.map Tool.schema))]

namespace MemoryMcpProtocol

/-! ## Requests -/

def callTool (protocol : MemoryMcpProtocol) (name : Text) (args : Json) : McpM Json :=
  catching
    (match Tool.find? name with
      | some tool => tool.handle protocol.printFloat args
      | none => .ofExcept (makeTextResult (.ofMembers [("ok", .boolean false),
          ("error", .string (ascii "unknown tool: " ++ name))])))
    fun what => .ofExcept (makeTextResult (.ofMembers [("ok", .boolean false),
      ("error", .string (protocol.errorMessage what "tool call failed"))]))

def supportedVersion : Text := ascii "2024-11-05"

/-- `AGENT_MEMORY_VERSION`, which the build sets to the version of the project. -/
def version : Text := ascii "0.1.0"

/-- The handler of `initialize`. -/
def initializeReply (req id : Json) : Json :=
  match req.member? (ascii "params") with
  | none => error id (-32602) (ascii "missing params object in initialize request")
  | some params =>
      match params.member? (ascii "protocolVersion") with
      | some (.string clientVersion) =>
          if clientVersion ≠ supportedVersion then
            error id (-32602) (ascii "unsupported protocol version: client sent " ++
              clientVersion ++ ascii ", server only supports " ++ supportedVersion)
          else success id (.ofMembers [("protocolVersion", .string supportedVersion),
            ("serverInfo", .ofMembers [("name", .string (ascii "memory-server")),
              ("version", .string version)]),
            ("capabilities", .ofMembers [("tools", .object [])])])
      | _ => error id (-32602)
          (ascii "missing required string field 'protocolVersion' in initialize params")

/-- The handler of `tools/call`. -/
def toolsCall (protocol : MemoryMcpProtocol) (req id : Json) : McpM Json := do
  let params ← .ofExcept (req.jsonValue "params")
  let name ← .ofExcept (params.stringValue "name")
  let args ← .ofExcept (params.jsonValue "arguments")
  return success id (← protocol.callTool name args)

/-- `methodHandlers_`. -/
def methodHandler? (protocol : MemoryMcpProtocol) (method : Text) :
    Option (Json → Json → McpM Json) :=
  if method = ascii "initialize" then some fun req id => return initializeReply req id
  else if method = ascii "tools/list" then some fun _ id => return success id buildToolsList
  else if method = ascii "tools/call" then some protocol.toolsCall
  else none

/-- The method is read outside the `try`. -/
def handleRequest (protocol : MemoryMcpProtocol) (req : Json) : McpM Json := do
  let id := (req.member? (ascii "id")).getD .null
  let method ← .ofExcept (req.stringValue "method")
  match protocol.methodHandler? method with
  | some handler => catching (handler req id) fun what =>
      return error id (-32603) (protocol.errorMessage what "internal error")
  | none => return error id (-32601) (ascii "method not found: " ++ method)

def handleJsonRpc (protocol : MemoryMcpProtocol) (request : Json) : McpM Json :=
  match request.member? (ascii "id") with
  | none => return .null
  | some _ => protocol.handleRequest request

def handleJsonRpcText (host : Host) (protocol : MemoryMcpProtocol) (body : Text) : McpM Text :=
  catching
    (do
      let req ← .ofExcept (match host.parseJson body with
        | some req => .ok req
        | none => .error (.standard (protocol.parseError body)))
      let result ← protocol.handleJsonRpc req
      if result.empty then return [] else .ofExcept result.dumped)
    fun what => .ofExcept
      (error .null (-32700) (protocol.errorMessage what "parse error")).dumped

end MemoryMcpProtocol

end AgentMemory
