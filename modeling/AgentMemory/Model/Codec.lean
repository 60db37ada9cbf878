import AgentMemory.Model.Search

/-! # The JSON codecs

Each encoder writes an object of the library, each decoder reads members with a fallback for
those that are missing or of another type. -/

namespace AgentMemory

/-! ## `json_helpers.h` -/

/-- An object written as an initializer list. -/
def Json.ofMembers (members : List (String × Json)) : Json :=
  members.foldl (fun json m => json.set (ascii m.1) m.2) (.object [])

def Json.ofStrings (strings : List Text) : Json :=
  .array (strings.map .string)

def jsonFieldValue (j : Json) (key : String) : Json :=
  (j.member? (ascii key)).getD .null

def jsonString (j : Json) (key : String) (fallback : Text := []) : Text :=
  match j.member? (ascii key) with
  | some (.string s) => s
  | _ => fallback

/-- Whether a number is within the range of `int`. -/
def isInt (n : ℤ) : Bool :=
  -2 ^ 31 ≤ n && n < 2 ^ 31

/-- An unsigned number is first read as a `long long`. -/
def jsonInt (j : Json) (key : String) (fallback : ℤ := 0) : ℤ :=
  match j.member? (ascii key) with
  | some (.integer n) => if isInt n then n else fallback
  | some (.unsigned n) =>
      let number := (n : ℤ).bmod (2 ^ 64)
      if isInt number then number
      else if n < 2 ^ 31 then n
      else fallback
  | _ => fallback

def jsonFloat (j : Json) (key : String) (fallback : ℚ := 0) : ℚ :=
  match j.member? (ascii key) with
  | some (.integer n) => n
  | some (.unsigned n) => n
  | some (.float value _) => value
  | _ => fallback

def jsonBool (j : Json) (key : String) (fallback : Bool := false) : Bool :=
  match j.member? (ascii key) with
  | some (.boolean b) => b
  | _ => fallback

def jsonObject (value : Json) : Json :=
  if value.isObject then value else .object []

@[simp] theorem isObject_jsonObject (value : Json) : (jsonObject value).isObject = true := by
  unfold jsonObject
  split
  · assumption
  · rfl

def stringVectorFromJson : Json → List Text
  | .array items => items.filterMap fun
      | .string s => some s
      | _ => none
  | _ => []

/-- `std::stoi`; `none` stands for its exceptions. -/
def stoi (s : Text) : Option ℤ :=
  match stoll s with
  | some n => if isInt n.toInt then some n.toInt else none
  | none => none

def metadataInt (metadata : Json) (key : String) (fallback : ℤ := 0) : ℤ :=
  let result := jsonInt metadata key fallback
  if result ≠ fallback then result
  else
    match metadata.member? (ascii key) with
    | some (.string s) => (stoi s).getD fallback
    | _ => fallback

/-! ## `json_memory_codec.cpp` -/

def withSchema (j : Json) : Json :=
  if j.isObject then j.set (ascii "schemaVersion") (.integer 1) else j

/-- The loop over a member that is an array: elements that are no objects are passed over. -/
def decodeObjects {α : Type} (decode : Json → α) : Json → List α
  | .array items => (items.filter Json.isObject).map decode
  | _ => []

def errorToJson (error : MemoryError) : Json :=
  if error.code.isEmpty then .object []
  else .ofMembers [("code", .string error.code), ("message", .string error.message),
    ("details", .string error.details), ("retryable", .boolean error.retryable)]

def errorFromJson (j : Json) : MemoryError :=
  if !j.isObject then {}
  else {
    code := jsonString j "code"
    message := jsonString j "message"
    details := jsonString j "details"
    retryable := jsonBool j "retryable" }

/-- `WithEnvelope` on success; it is called with no error then. -/
def successEnvelope (data : Json) : Json :=
  withSchema (.ofMembers [("ok", .boolean true), ("data", data)])

/-- `WithEnvelope` on failure, where the data are not used. -/
def errorEnvelope (error : MemoryError) : Json :=
  withSchema (.ofMembers [("ok", .boolean false), ("error", errorToJson error)])

def messageToJson (message : MemoryMessage) : Json :=
  .ofMembers [("role", .string message.role), ("content", .string message.content),
    ("toolCallId", .string message.toolCallId), ("toolName", .string message.toolName),
    ("payloadRef", .string message.payloadRef)]

def messageFromJson (j : Json) : MemoryMessage where
  role := jsonString j "role"
  content := jsonString j "content"
  toolCallId := jsonString j "toolCallId"
  toolName := jsonString j "toolName"
  payloadRef := jsonString j "payloadRef"

def payloadRefToJson (payload : MemoryPayloadRef) : Json :=
  .ofMembers [("agentId", .string payload.agentId), ("sessionId", .string payload.sessionId),
    ("uri", .string payload.uri), ("contentType", .string payload.contentType),
    ("summary", .string payload.summary), ("toolName", .string payload.toolName),
    ("originalChars", .integer payload.originalChars), ("metadata", jsonObject payload.metadata),
    ("createdAt", .string payload.createdAt)]

def payloadRefFromJson (j : Json) : MemoryPayloadRef where
  agentId := jsonString j "agentId"
  sessionId := jsonString j "sessionId"
  uri := jsonString j "uri"
  contentType := jsonString j "contentType"
  summary := jsonString j "summary"
  toolName := jsonString j "toolName"
  originalChars := jsonInt j "originalChars"
  metadata := jsonObject (jsonFieldValue j "metadata")
  createdAt := jsonString j "createdAt"

def statsToJson (stats : MemoryStats) : Json :=
  withSchema (.ofMembers [("events", .integer stats.events.toInt),
    ("payloads", .integer stats.payloads.toInt), ("summaries", .integer stats.summaries.toInt),
    ("entities", .integer stats.entities.toInt), ("relations", .integer stats.relations.toInt),
    ("metadata", jsonObject stats.metadata)])

def statsFromJson (j : Json) : MemoryStats where
  events := .ofInt (jsonInt j "events")
  payloads := .ofInt (jsonInt j "payloads")
  summaries := .ofInt (jsonInt j "summaries")
  entities := .ofInt (jsonInt j "entities")
  relations := .ofInt (jsonInt j "relations")
  metadata := jsonObject (jsonFieldValue j "metadata")

def contextRequestToJson (request : MemoryContextRequest) : Json :=
  withSchema (.ofMembers [("agentId", .string request.agentId),
    ("sessionId", .string request.sessionId), ("query", .string request.query),
    ("tokenBudget", .integer request.tokenBudget.toInt),
    ("includeSections", .ofStrings request.includeSections),
    ("metadata", jsonObject request.metadata)])

def contextRequestFromJson (j : Json) : MemoryContextRequest where
  agentId := jsonString j "agentId"
  sessionId := jsonString j "sessionId"
  query := jsonString j "query"
  tokenBudget := .ofInt (jsonInt j "tokenBudget" 4096)
  includeSections := stringVectorFromJson (jsonFieldValue j "includeSections")
  metadata := jsonObject (jsonFieldValue j "metadata")

/-- The eight enumerators. -/
def MemoryEventType.isEnumerator (type : MemoryEventType) : Bool :=
  0 ≤ type.value && type.value ≤ 7

def eventTypeFromJson (j : Json) : MemoryEventType :=
  let type : MemoryEventType := ⟨jsonInt j "type" MemoryEventType.sessionStarted.value⟩
  if type.isEnumerator then type else .sessionStarted

def eventToJson (event : MemoryEvent) : Json :=
  withSchema (.ofMembers [("type", .integer event.type.value), ("agentId", .string event.agentId),
    ("sessionId", .string event.sessionId), ("role", .string event.role),
    ("content", .string event.content), ("toolCallId", .string event.toolCallId),
    ("toolName", .string event.toolName), ("payloadRef", .string event.payloadRef),
    ("metadata", jsonObject event.metadata), ("timestamp", .string event.timestamp)])

def eventFromJson (j : Json) : MemoryEvent where
  type := eventTypeFromJson j
  agentId := jsonString j "agentId"
  sessionId := jsonString j "sessionId"
  role := jsonString j "role"
  content := jsonString j "content"
  toolCallId := jsonString j "toolCallId"
  toolName := jsonString j "toolName"
  payloadRef := jsonString j "payloadRef"
  metadata := jsonObject (jsonFieldValue j "metadata")
  timestamp := jsonString j "timestamp"

def payloadWriteRequestToJson (request : MemoryPayloadWriteRequest) : Json :=
  withSchema (.ofMembers [("agentId", .string request.agentId),
    ("sessionId", .string request.sessionId), ("content", .string request.content),
    ("contentType", .string request.contentType), ("toolCallId", .string request.toolCallId),
    ("toolName", .string request.toolName), ("metadata", jsonObject request.metadata)])

def payloadWriteRequestFromJson (j : Json) : MemoryPayloadWriteRequest where
  agentId := jsonString j "agentId"
  sessionId := jsonString j "sessionId"
  content := jsonString j "content"
  contentType := jsonString j "contentType"
  toolCallId := jsonString j "toolCallId"
  toolName := jsonString j "toolName"
  metadata := jsonObject (jsonFieldValue j "metadata")

def payloadWriteResultToJson (result : MemoryPayloadWriteResult) : Json :=
  withSchema (.ofMembers [("succeeded", .boolean result.succeeded),
    ("offloaded", .boolean result.offloaded),
    ("replacementContent", .string result.replacementContent),
    ("payload", payloadRefToJson result.payload), ("error", errorToJson result.error)])

def payloadWriteResultFromJson (j : Json) (defaultReplacementContent : Text) :
    MemoryPayloadWriteResult where
  succeeded := jsonBool j "succeeded"
  offloaded := jsonBool j "offloaded"
  replacementContent := jsonString j "replacementContent" defaultReplacementContent
  payload :=
    let payload := jsonFieldValue j "payload"
    if payload.isObject then payloadRefFromJson payload else {}
  error := errorFromJson (jsonFieldValue j "error")

def consolidationRequestToJson (request : MemoryConsolidationRequest) : Json :=
  (withSchema (.ofMembers [("agentId", .string request.agentId),
    ("sessionId", .string request.sessionId), ("maxEvents", .integer request.maxEvents.toInt),
    ("forceReprocess", .boolean request.forceReprocess),
    ("metadata", jsonObject request.metadata)])).set
    (ascii "excludedSessionIds") (.ofStrings request.excludedSessionIds)

def consolidationRequestFromJson (j : Json) : MemoryConsolidationRequest where
  agentId := jsonString j "agentId"
  sessionId := jsonString j "sessionId"
  maxEvents := .ofInt (jsonInt j "maxEvents" 100)
  forceReprocess := jsonBool j "forceReprocess"
  excludedSessionIds := stringVectorFromJson (jsonFieldValue j "excludedSessionIds")
  metadata := jsonObject (jsonFieldValue j "metadata")

def consolidationResultToJson (result : MemoryConsolidationResult) : Json :=
  withSchema (.ofMembers [("succeeded", .boolean result.succeeded),
    ("fallbackUsed", .boolean result.fallbackUsed),
    ("processedEvents", .integer result.processedEvents),
    ("savedSummaries", .integer result.savedSummaries),
    ("savedEntities", .integer result.savedEntities),
    ("savedRelations", .integer result.savedRelations), ("nextCursor", .string result.nextCursor),
    ("sessionId", .string result.sessionId), ("error", errorToJson result.error)])

def consolidationResultFromJson (j : Json) : MemoryConsolidationResult where
  succeeded := jsonBool j "succeeded"
  fallbackUsed := jsonBool j "fallbackUsed"
  processedEvents := jsonInt j "processedEvents"
  savedSummaries := jsonInt j "savedSummaries"
  savedEntities := jsonInt j "savedEntities"
  savedRelations := jsonInt j "savedRelations"
  nextCursor := jsonString j "nextCursor"
  sessionId := jsonString j "sessionId"
  error := errorFromJson (jsonFieldValue j "error")

def searchRequestToJson (request : MemorySearchRequest) : Json :=
  withSchema (.ofMembers [("agentId", .string request.agentId),
    ("sessionId", .string request.sessionId), ("query", .string request.query),
    ("limit", .integer request.limit.toInt),
    ("includeSections", .ofStrings request.includeSections),
    ("metadata", jsonObject request.metadata)])

def searchRequestFromJson (j : Json) : MemorySearchRequest where
  agentId := jsonString j "agentId"
  sessionId := jsonString j "sessionId"
  query := jsonString j "query"
  limit := .ofInt (jsonInt j "limit" 10)
  includeSections := stringVectorFromJson (jsonFieldValue j "includeSections")
  metadata := jsonObject (jsonFieldValue j "metadata")

/-! ### Values with floating-point numbers

How the library prints such a number is a parameter; decoding does not look at the text. -/

section Floats

variable (printFloat : ℚ → FloatText)

def floatToJson (value : ℚ) : Json :=
  .float value (printFloat value)

def entityToJson (entity : MemoryEntity) : Json :=
  .ofMembers [("id", .string entity.id), ("entityType", .string entity.entityType),
    ("name", .string entity.name), ("summary", .string entity.summary),
    ("confidence", floatToJson printFloat entity.confidence),
    ("sourceRefs", .ofStrings entity.sourceRefs), ("metadata", jsonObject entity.metadata),
    ("createdAt", .string entity.createdAt), ("updatedAt", .string entity.updatedAt)]

def relationToJson (relation : MemoryRelation) : Json :=
  .ofMembers [("id", .string relation.id), ("fromEntityId", .string relation.fromEntityId),
    ("relationType", .string relation.relationType), ("toEntityId", .string relation.toEntityId),
    ("confidence", floatToJson printFloat relation.confidence),
    ("sourceRefs", .ofStrings relation.sourceRefs), ("metadata", jsonObject relation.metadata),
    ("createdAt", .string relation.createdAt), ("updatedAt", .string relation.updatedAt)]

def contextPackageToJson (pkg : MemoryContextPackage) : Json :=
  withSchema (.ofMembers [("messages", .array (pkg.messages.map messageToJson)),
    ("memoryText", .string pkg.memoryText),
    ("entities", .array (pkg.entities.map (entityToJson printFloat))),
    ("relations", .array (pkg.relations.map (relationToJson printFloat))),
    ("payloadRefs", .array (pkg.payloadRefs.map payloadRefToJson)),
    ("citations", .ofStrings pkg.citations), ("metadata", jsonObject pkg.metadata)])

def searchHitToJson (hit : MemorySearchHit) : Json :=
  .ofMembers [("id", .string hit.id), ("type", .string hit.type), ("content", .string hit.content),
    ("score", floatToJson printFloat hit.score), ("sourceRefs", .ofStrings hit.sourceRefs),
    ("metadata", jsonObject hit.metadata)]

def searchResponseToJson (hits : List MemorySearchHit) (ok : Bool := true) : Json :=
  withSchema (.ofMembers [("ok", .boolean ok),
    ("results", .array (hits.map (searchHitToJson printFloat)))])

end Floats

def entityFromJson (j : Json) : MemoryEntity where
  id := jsonString j "id"
  entityType := jsonString j "entityType"
  name := jsonString j "name"
  summary := jsonString j "summary"
  confidence := jsonFloat j "confidence"
  sourceRefs := stringVectorFromJson (jsonFieldValue j "sourceRefs")
  metadata := jsonObject (jsonFieldValue j "metadata")
  createdAt := jsonString j "createdAt"
  updatedAt := jsonString j "updatedAt"

def relationFromJson (j : Json) : MemoryRelation where
  id := jsonString j "id"
  fromEntityId := jsonString j "fromEntityId"
  relationType := jsonString j "relationType"
  toEntityId := jsonString j "toEntityId"
  confidence := jsonFloat j "confidence"
  sourceRefs := stringVectorFromJson (jsonFieldValue j "sourceRefs")
  metadata := jsonObject (jsonFieldValue j "metadata")
  createdAt := jsonString j "createdAt"
  updatedAt := jsonString j "updatedAt"

def contextPackageFromJson (j : Json) : MemoryContextPackage where
  memoryText := jsonString j "memoryText"
  citations := stringVectorFromJson (jsonFieldValue j "citations")
  metadata := jsonObject (jsonFieldValue j "metadata")
  messages := decodeObjects messageFromJson (jsonFieldValue j "messages")
  entities := decodeObjects entityFromJson (jsonFieldValue j "entities")
  relations := decodeObjects relationFromJson (jsonFieldValue j "relations")
  payloadRefs := decodeObjects payloadRefFromJson (jsonFieldValue j "payloadRefs")

def searchHitFromJson (item : Json) : MemorySearchHit where
  id := jsonString item "id"
  type := jsonString item "type"
  content := jsonString item "content"
  score := jsonFloat item "score"
  sourceRefs := stringVectorFromJson (jsonFieldValue item "sourceRefs")
  metadata := jsonObject (jsonFieldValue item "metadata")

def searchResultsFromJson (j : Json) : List MemorySearchHit :=
  decodeObjects searchHitFromJson (jsonFieldValue j "results")

end AgentMemory
