import AgentMemory.Model.Codec

/-! # Diagnostics of decoding

A schema names the members of an object with the type each should have. Decoding does not depend on
them. -/

namespace AgentMemory

inductive FieldType where
  | string
  | integer
  | float
  | boolean
  | array
  | object
deriving DecidableEq

structure FieldRule where
  name : String
  type : FieldType
deriving DecidableEq

structure JsonDecodeIssue where
  path : Text
  message : Text
deriving DecidableEq

structure JsonDecodeDiagnostics where
  warnings : List JsonDecodeIssue := []
  errors : List JsonDecodeIssue := []
deriving DecidableEq

def matchesType (value : Json) : FieldType → Bool
  | .string => value.isString
  | .integer => value.isNumberInteger
  | .float => value.isNumber
  | .boolean => value.isBoolean
  | .array => value.isArray
  | .object => value.isObject

def fieldTypeName : FieldType → String
  | .string => "string"
  | .integer => "integer"
  | .float => "number"
  | .boolean => "boolean"
  | .array => "array"
  | .object => "object"

/-- The static tables of `SchemaRules`. -/
def schemaTable : List (String × List FieldRule) :=
  [("message", [⟨"role", .string⟩, ⟨"content", .string⟩, ⟨"toolCallId", .string⟩,
      ⟨"toolName", .string⟩, ⟨"payloadRef", .string⟩]),
    ("payloadRef", [⟨"uri", .string⟩, ⟨"contentType", .string⟩, ⟨"summary", .string⟩,
      ⟨"toolName", .string⟩, ⟨"originalChars", .integer⟩, ⟨"metadata", .object⟩,
      ⟨"createdAt", .string⟩]),
    ("entity", [⟨"id", .string⟩, ⟨"entityType", .string⟩, ⟨"name", .string⟩, ⟨"summary", .string⟩,
      ⟨"confidence", .float⟩, ⟨"sourceRefs", .array⟩, ⟨"metadata", .object⟩, ⟨"createdAt", .string⟩,
      ⟨"updatedAt", .string⟩]),
    ("relation", [⟨"id", .string⟩, ⟨"fromEntityId", .string⟩, ⟨"relationType", .string⟩,
      ⟨"toEntityId", .string⟩, ⟨"confidence", .float⟩, ⟨"sourceRefs", .array⟩,
      ⟨"metadata", .object⟩, ⟨"createdAt", .string⟩, ⟨"updatedAt", .string⟩]),
    ("event", [⟨"type", .integer⟩, ⟨"agentId", .string⟩, ⟨"sessionId", .string⟩, ⟨"role", .string⟩,
      ⟨"content", .string⟩, ⟨"toolCallId", .string⟩, ⟨"toolName", .string⟩, ⟨"payloadRef", .string⟩,
      ⟨"metadata", .object⟩, ⟨"timestamp", .string⟩]),
    ("contextRequest", [⟨"agentId", .string⟩, ⟨"sessionId", .string⟩, ⟨"query", .string⟩,
      ⟨"tokenBudget", .integer⟩, ⟨"includeSections", .array⟩, ⟨"metadata", .object⟩]),
    ("contextPackage", [⟨"messages", .array⟩, ⟨"memoryText", .string⟩, ⟨"entities", .array⟩,
      ⟨"relations", .array⟩, ⟨"payloadRefs", .array⟩, ⟨"citations", .array⟩, ⟨"metadata", .object⟩]),
    ("payloadWriteRequest", [⟨"agentId", .string⟩, ⟨"sessionId", .string⟩, ⟨"content", .string⟩,
      ⟨"contentType", .string⟩, ⟨"toolCallId", .string⟩, ⟨"toolName", .string⟩,
      ⟨"metadata", .object⟩]),
    ("payloadWriteResult", [⟨"offloaded", .boolean⟩, ⟨"replacementContent", .string⟩,
      ⟨"payload", .object⟩]),
    ("consolidationRequest", [⟨"agentId", .string⟩, ⟨"sessionId", .string⟩, ⟨"maxEvents", .integer⟩,
      ⟨"forceReprocess", .boolean⟩, ⟨"metadata", .object⟩]),
    ("consolidationResult", [⟨"succeeded", .boolean⟩, ⟨"fallbackUsed", .boolean⟩,
      ⟨"processedEvents", .integer⟩, ⟨"savedSummaries", .integer⟩, ⟨"savedEntities", .integer⟩,
      ⟨"savedRelations", .integer⟩, ⟨"nextCursor", .string⟩, ⟨"sessionId", .string⟩,
      ⟨"error", .string⟩]),
    ("searchRequest", [⟨"agentId", .string⟩, ⟨"sessionId", .string⟩, ⟨"query", .string⟩,
      ⟨"limit", .integer⟩, ⟨"includeSections", .array⟩, ⟨"metadata", .object⟩]),
    ("searchResponse", [⟨"ok", .boolean⟩, ⟨"results", .array⟩]),
    ("stats", [⟨"events", .integer⟩, ⟨"payloads", .integer⟩, ⟨"summaries", .integer⟩,
      ⟨"entities", .integer⟩, ⟨"relations", .integer⟩, ⟨"metadata", .object⟩])]

def schemaRules (schemaName : Text) : List FieldRule :=
  match schemaTable.find? fun entry => ascii entry.1 == schemaName with
  | some entry => entry.2
  | none => []

def typeMismatch (path expected : String) (value : Json) : JsonDecodeIssue where
  path := ascii "$." ++ ascii path
  message := ascii "expected " ++ ascii expected ++ ascii ", got " ++ ascii value.typeName

def schemaVersionWarnings (j : Json) : List JsonDecodeIssue :=
  match (j.member? (ascii "schemaVersion")).filter fun value => !value.isNumberInteger with
  | some value => [typeMismatch "schemaVersion" "integer" value]
  | none =>
      if 1 < jsonInt j "schemaVersion" 1 then
        [⟨ascii "$.schemaVersion", ascii "newer schema version"⟩]
      else []

/-- A missing member is no mismatch. -/
def ruleWarning (j : Json) (rule : FieldRule) : Option JsonDecodeIssue :=
  match j.member? (ascii rule.name) with
  | some value =>
      if matchesType value rule.type then none
      else some (typeMismatch rule.name (fieldTypeName rule.type) value)
  | none => none

/-- `JsonDecodeDiagnosticsFor`. -/
def jsonDecodeDiagnosticsFor (j : Json) (schemaName : Text) : JsonDecodeDiagnostics :=
  if !j.isObject then
    { errors := [⟨ascii "$", ascii "expected object, got " ++ ascii j.typeName⟩] }
  else
    let rules := schemaRules schemaName
    if rules.isEmpty && !schemaName.isEmpty then
      { warnings := schemaVersionWarnings j ++
          [⟨ascii "$", ascii "unknown schema name: " ++ schemaName⟩] }
    else
      { warnings := schemaVersionWarnings j ++ rules.filterMap (ruleWarning j)
        errors :=
          if schemaName = ascii "searchResponse" && !(jsonFieldValue j "results").isArray then
            [⟨ascii "$.results", ascii "expected array"⟩]
          else [] }

/-! ## The types with a schema -/

inductive Schema where
  | message
  | payloadRef
  | entity
  | relation
  | event
  | contextRequest
  | contextPackage
  | payloadWriteRequest
  | payloadWriteResult
  | consolidationRequest
  | consolidationResult
  | searchRequest
  | searchResponse
  | stats
deriving DecidableEq

namespace Schema

def name : Schema → String
  | .message => "message"
  | .payloadRef => "payloadRef"
  | .entity => "entity"
  | .relation => "relation"
  | .event => "event"
  | .contextRequest => "contextRequest"
  | .contextPackage => "contextPackage"
  | .payloadWriteRequest => "payloadWriteRequest"
  | .payloadWriteResult => "payloadWriteResult"
  | .consolidationRequest => "consolidationRequest"
  | .consolidationResult => "consolidationResult"
  | .searchRequest => "searchRequest"
  | .searchResponse => "searchResponse"
  | .stats => "stats"

/-- The C++ type of a schema. -/
@[reducible] def Value : Schema → Type
  | .message => MemoryMessage
  | .payloadRef => MemoryPayloadRef
  | .entity => MemoryEntity
  | .relation => MemoryRelation
  | .event => MemoryEvent
  | .contextRequest => MemoryContextRequest
  | .contextPackage => MemoryContextPackage
  | .payloadWriteRequest => MemoryPayloadWriteRequest
  | .payloadWriteResult => MemoryPayloadWriteResult
  | .consolidationRequest => MemoryConsolidationRequest
  | .consolidationResult => MemoryConsolidationResult
  | .searchRequest => MemorySearchRequest
  | .searchResponse => List MemorySearchHit
  | .stats => MemoryStats

/-- The encoder of each type; a search response also holds a flag. -/
def encode (printFloat : ℚ → FloatText) (ok : Bool) : (schema : Schema) → schema.Value → Json
  | .message => messageToJson
  | .payloadRef => payloadRefToJson
  | .entity => entityToJson printFloat
  | .relation => relationToJson printFloat
  | .event => eventToJson
  | .contextRequest => contextRequestToJson
  | .contextPackage => contextPackageToJson printFloat
  | .payloadWriteRequest => payloadWriteRequestToJson
  | .payloadWriteResult => payloadWriteResultToJson
  | .consolidationRequest => consolidationRequestToJson
  | .consolidationResult => consolidationResultToJson
  | .searchRequest => searchRequestToJson
  | .searchResponse => fun hits => searchResponseToJson printFloat hits ok
  | .stats => statsToJson

/-- The decoder of each type, as its diagnosed variant calls it. -/
def decode : (schema : Schema) → Json → schema.Value
  | .message => messageFromJson
  | .payloadRef => payloadRefFromJson
  | .entity => entityFromJson
  | .relation => relationFromJson
  | .event => eventFromJson
  | .contextRequest => contextRequestFromJson
  | .contextPackage => contextPackageFromJson
  | .payloadWriteRequest => payloadWriteRequestFromJson
  | .payloadWriteResult => fun j => payloadWriteResultFromJson j []
  | .consolidationRequest => consolidationRequestFromJson
  | .consolidationResult => consolidationResultFromJson
  | .searchRequest => searchRequestFromJson
  | .searchResponse => searchResultsFromJson
  | .stats => statsFromJson

/-- The diagnostics of an object of the schema. -/
def diagnostics (schema : Schema) (j : Json) : JsonDecodeDiagnostics :=
  jsonDecodeDiagnosticsFor j (ascii schema.name)

end Schema

end AgentMemory
