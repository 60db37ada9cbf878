import AgentMemory.Model.Mcp

/-! # The options of the server

A configuration is read section by section. Every reader throws on a member of the wrong type; the
ranges are checked afterwards, on the values that were read. -/

namespace AgentMemory

structure HttpServerOptions where
  host : Text := ascii "127.0.0.1"
  port : ℤ := 8090
  maxPayloadBytes : ℕ := 1024 * 1024
  readTimeoutSeconds : ℤ := 0
  writeTimeoutSeconds : ℤ := 0
  threadCount : ℤ := 0
deriving DecidableEq

structure McpServerOptions where
  mode : Text := ascii "http"
  path : Text := ascii "/mcp"
  maxMessageBytes : ℕ := 1024 * 1024
deriving DecidableEq

structure ServerOptions where
  dataPath : Text := ascii "./data"
  modelConfig : Json := .object []
  strictModelConfig : Bool := false
  enablePayloadOffload : Bool := true
  offloadThreshold : ℤ := 8000
  tokenBudget : ℤ := 4096
  debugErrors : Bool := false
  apiToken : Text := []
  http : HttpServerOptions := {}
  mcp : McpServerOptions := {}

/-- `std::runtime_error`. -/
def runtimeError (message : Text) : Thrown :=
  .standard message

/-! ## Reading one member -/

/-- The loop over the members. A value that is no object has no keys: only one without elements is
passed over. -/
def validateKeys (j : Json) (allowed : List String) (path : String) : Except Thrown Unit :=
  match j with
  | .object members =>
      match members.find? fun m => !(allowed.map ascii).contains m.1 with
      | some m => .error (runtimeError (ascii "unknown server config key: " ++ ascii path ++ m.1))
      | none => .ok ()
  | .null | .array [] => .ok ()
  | _ => .error (.standard
      (ascii "[json.exception.invalid_iterator.207] cannot use key() for non-object iterators"))

def loadString (j : Json) (key : String) (defaultValue : Text := []) : Except Thrown Text :=
  match j.member? (ascii key) with
  | none => .ok defaultValue
  | some (.string s) => .ok s
  | some _ =>
      .error (runtimeError (ascii "server config key must be a string: " ++ ascii key))

/-- `get<int>()` converts a number of 64 bits. -/
def loadInt (j : Json) (key : String) (defaultValue : ℤ) : Except Thrown ℤ :=
  match j.member? (ascii key) with
  | none => .ok defaultValue
  | some (.integer n) => .ok (n.bmod (2 ^ 32))
  | some (.unsigned n) => .ok ((n : ℤ).bmod (2 ^ 32))
  | some _ =>
      .error (runtimeError (ascii "server config key must be an integer: " ++ ascii key))

def loadSize (j : Json) (key : String) (defaultValue : ℕ) : Except Thrown ℕ :=
  match j.member? (ascii key) with
  | none => .ok defaultValue
  | some (.unsigned n) =>
      if n < 2 ^ 64 then .ok n
      else .error (runtimeError (ascii "server config key is too large: " ++ ascii key))
  | some _ =>
      .error (runtimeError (ascii "server config key must be an unsigned integer: " ++ ascii key))

def loadBool (j : Json) (key : String) (defaultValue : Bool) : Except Thrown Bool :=
  match j.member? (ascii key) with
  | none => .ok defaultValue
  | some (.boolean b) => .ok b
  | some _ =>
      .error (runtimeError (ascii "server config key must be a boolean: " ++ ascii key))

def loadSubObject (j : Json) (key : String) : Except Thrown Json :=
  match j.member? (ascii key) with
  | none => .ok (.object [])
  | some (.object members) => .ok (.object members)
  | some _ =>
      .error (runtimeError (ascii "server config key must be an object: " ++ ascii key))

/-! ## Reading the sections -/

def loadMemoryOptions (memory : Json) (opts : ServerOptions) : Except Thrown ServerOptions := do
  validateKeys memory ["dataPath", "enablePayloadOffload", "offloadThreshold", "tokenBudget"]
    "memory."
  let dataPath ← loadString memory "dataPath" opts.dataPath
  let enablePayloadOffload ← loadBool memory "enablePayloadOffload" opts.enablePayloadOffload
  let offloadThreshold ← loadInt memory "offloadThreshold" opts.offloadThreshold
  let tokenBudget ← loadInt memory "tokenBudget" opts.tokenBudget
  return { opts with dataPath, enablePayloadOffload, offloadThreshold, tokenBudget }

def loadModelOptions (model : Json) (opts : ServerOptions) : Except Thrown ServerOptions := do
  validateKeys model ["enabled", "strict", "formatType", "baseUrl", "apiKey", "modelName",
    "organization", "anthropicVersion", "anthropic-version", "timeoutSeconds", "maxTokens",
    "max_tokens", "temperature", "headers", "extraParams"] "model."
  let strictModelConfig ← loadBool model "strict" opts.strictModelConfig
  let enabled ← loadBool model "enabled" true
  return { opts with
    strictModelConfig
    modelConfig := if enabled then model else opts.modelConfig }

def loadHttpOptions (http : Json) (opts : ServerOptions) : Except Thrown ServerOptions := do
  validateKeys http ["host", "port", "maxPayloadBytes", "readTimeoutSeconds",
    "writeTimeoutSeconds", "threadCount"] "server.http."
  let host ← loadString http "host" opts.http.host
  let port ← loadInt http "port" opts.http.port
  let maxPayloadBytes ← loadSize http "maxPayloadBytes" opts.http.maxPayloadBytes
  let readTimeoutSeconds ← loadInt http "readTimeoutSeconds" opts.http.readTimeoutSeconds
  let writeTimeoutSeconds ← loadInt http "writeTimeoutSeconds" opts.http.writeTimeoutSeconds
  let threadCount ← loadInt http "threadCount" opts.http.threadCount
  return { opts with
    http := { host, port, maxPayloadBytes, readTimeoutSeconds, writeTimeoutSeconds, threadCount } }

def loadAuthOptions (auth : Json) (opts : ServerOptions) : Except Thrown ServerOptions := do
  validateKeys auth ["apiToken"] "server.auth."
  let apiToken ← loadString auth "apiToken" opts.apiToken
  return { opts with apiToken }

def loadMcpOptions (mcp : Json) (opts : ServerOptions) : Except Thrown ServerOptions := do
  validateKeys mcp ["mode", "path", "maxMessageBytes"] "server.mcp."
  let mode ← loadString mcp "mode" opts.mcp.mode
  let path ← loadString mcp "path" opts.mcp.path
  let maxMessageBytes ← loadSize mcp "maxMessageBytes" opts.mcp.maxMessageBytes
  return { opts with mcp := { mode, path, maxMessageBytes } }

def loadServerSection (server : Json) (opts : ServerOptions) : Except Thrown ServerOptions := do
  validateKeys server ["debugErrors", "auth", "http", "mcp"] "server."
  let debugErrors ← loadBool server "debugErrors" opts.debugErrors
  let opts ← loadAuthOptions (← loadSubObject server "auth") { opts with debugErrors }
  let opts ← loadHttpOptions (← loadSubObject server "http") opts
  loadMcpOptions (← loadSubObject server "mcp") opts

/-- Without a model section nothing is read from it. -/
def loadModelSection (j : Json) (opts : ServerOptions) : Except Thrown ServerOptions :=
  if (j.member? (ascii "model")).isSome then do
    loadModelOptions (← loadSubObject j "model") opts
  else .ok opts

/-- `LoadServerOptions`. -/
def loadServerOptions (j : Json) : Except Thrown ServerOptions := do
  validateKeys j ["memory", "model", "server"] ""
  let opts ← loadMemoryOptions (← loadSubObject j "memory") {}
  let opts ← loadModelSection j opts
  loadServerSection (← loadSubObject j "server") opts

/-! ## Checking the values -/

/-- `if (condition) throw std::runtime_error(message)`. -/
def throwIf (condition : Bool) (message : String) : Except Thrown Unit :=
  if condition then .error (runtimeError (ascii message)) else .ok ()

def validateHttpOptions (http : HttpServerOptions) : Except Thrown Unit := do
  throwIf http.host.isEmpty "server.http.host must not be empty"
  throwIf (http.port < 1 || 65535 < http.port) "server.http.port must be between 1 and 65535"
  throwIf (http.maxPayloadBytes == 0) "server.http.maxPayloadBytes must be positive"
  throwIf (http.readTimeoutSeconds < 0 || http.writeTimeoutSeconds < 0 || http.threadCount < 0)
    "server.http timeout and thread settings must be non-negative"

/-- `ValidateServerOptions`. -/
def validateServerOptions (opts : ServerOptions) (httpMode : Bool) : Except Thrown Unit := do
  throwIf opts.dataPath.isEmpty "memory.dataPath must not be empty"
  throwIf (opts.offloadThreshold < 0) "memory.offloadThreshold must be non-negative"
  throwIf (opts.tokenBudget ≤ 0) "memory.tokenBudget must be positive"
  throwIf (opts.mcp.mode != ascii "http") "server.mcp.mode currently supports only http"
  throwIf (opts.mcp.path.head? != some 0x2F) "server.mcp.path must start with /"
  throwIf (opts.mcp.maxMessageBytes == 0) "server.mcp.maxMessageBytes must be positive"
  if httpMode then validateHttpOptions opts.http else return ()

end AgentMemory
