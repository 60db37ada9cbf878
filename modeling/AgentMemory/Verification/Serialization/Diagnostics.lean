import AgentMemory.Model.Diagnostics
import AgentMemory.Verification.Serialization.Codec

/-! # Schemas, encoders and decoders

For each schema, the members that its decoder reads are listed with the types it takes. The rules of
the schema are compared with this list once; the encoders and the decoders are compared with it one
by one. -/

namespace AgentMemory

/-! ## The members of each type -/

namespace Schema

/-- The members that the decoder reads. -/
def decodedFields : Schema → List FieldRule
  | .message => [⟨"role", .string⟩, ⟨"content", .string⟩, ⟨"toolCallId", .string⟩,
      ⟨"toolName", .string⟩, ⟨"payloadRef", .string⟩]
  | .payloadRef => [⟨"agentId", .string⟩, ⟨"sessionId", .string⟩, ⟨"uri", .string⟩,
      ⟨"contentType", .string⟩, ⟨"summary", .string⟩, ⟨"toolName", .string⟩,
      ⟨"originalChars", .integer⟩, ⟨"metadata", .object⟩, ⟨"createdAt", .string⟩]
  | .entity => [⟨"id", .string⟩, ⟨"entityType", .string⟩, ⟨"name", .string⟩, ⟨"summary", .string⟩,
      ⟨"confidence", .float⟩, ⟨"sourceRefs", .array⟩, ⟨"metadata", .object⟩, ⟨"createdAt", .string⟩,
      ⟨"updatedAt", .string⟩]
  | .relation => [⟨"id", .string⟩, ⟨"fromEntityId", .string⟩, ⟨"relationType", .string⟩,
      ⟨"toEntityId", .string⟩, ⟨"confidence", .float⟩, ⟨"sourceRefs", .array⟩,
      ⟨"metadata", .object⟩, ⟨"createdAt", .string⟩, ⟨"updatedAt", .string⟩]
  | .event => [⟨"type", .integer⟩, ⟨"agentId", .string⟩, ⟨"sessionId", .string⟩, ⟨"role", .string⟩,
      ⟨"content", .string⟩, ⟨"toolCallId", .string⟩, ⟨"toolName", .string⟩,
      ⟨"payloadRef", .string⟩, ⟨"metadata", .object⟩, ⟨"timestamp", .string⟩]
  | .contextRequest => [⟨"agentId", .string⟩, ⟨"sessionId", .string⟩, ⟨"query", .string⟩,
      ⟨"tokenBudget", .integer⟩, ⟨"includeSections", .array⟩, ⟨"metadata", .object⟩]
  | .contextPackage => [⟨"messages", .array⟩, ⟨"memoryText", .string⟩, ⟨"entities", .array⟩,
      ⟨"relations", .array⟩, ⟨"payloadRefs", .array⟩, ⟨"citations", .array⟩, ⟨"metadata", .object⟩]
  | .payloadWriteRequest => [⟨"agentId", .string⟩, ⟨"sessionId", .string⟩, ⟨"content", .string⟩,
      ⟨"contentType", .string⟩, ⟨"toolCallId", .string⟩, ⟨"toolName", .string⟩,
      ⟨"metadata", .object⟩]
  | .payloadWriteResult => [⟨"succeeded", .boolean⟩, ⟨"offloaded", .boolean⟩,
      ⟨"replacementContent", .string⟩, ⟨"payload", .object⟩, ⟨"error", .object⟩]
  | .consolidationRequest => [⟨"agentId", .string⟩, ⟨"sessionId", .string⟩,
      ⟨"maxEvents", .integer⟩, ⟨"forceReprocess", .boolean⟩, ⟨"metadata", .object⟩,
      ⟨"excludedSessionIds", .array⟩]
  | .consolidationResult => [⟨"succeeded", .boolean⟩, ⟨"fallbackUsed", .boolean⟩,
      ⟨"processedEvents", .integer⟩, ⟨"savedSummaries", .integer⟩, ⟨"savedEntities", .integer⟩,
      ⟨"savedRelations", .integer⟩, ⟨"nextCursor", .string⟩, ⟨"sessionId", .string⟩,
      ⟨"error", .object⟩]
  | .searchRequest => [⟨"agentId", .string⟩, ⟨"sessionId", .string⟩, ⟨"query", .string⟩,
      ⟨"limit", .integer⟩, ⟨"includeSections", .array⟩, ⟨"metadata", .object⟩]
  | .searchResponse => [⟨"results", .array⟩]
  | .stats => [⟨"events", .integer⟩, ⟨"payloads", .integer⟩, ⟨"summaries", .integer⟩,
      ⟨"entities", .integer⟩, ⟨"relations", .integer⟩, ⟨"metadata", .object⟩]

/-- The members that the encoder writes: the flag of a search response is not read again. -/
def encodedFields : Schema → List FieldRule
  | .searchResponse => ⟨"ok", .boolean⟩ :: decodedFields .searchResponse
  | schema => schema.decodedFields

def rules (schema : Schema) : List FieldRule :=
  schemaRules (ascii schema.name)

def all : List Schema :=
  [.message, .payloadRef, .entity, .relation, .event, .contextRequest, .contextPackage,
    .payloadWriteRequest, .payloadWriteResult, .consolidationRequest, .consolidationResult,
    .searchRequest, .searchResponse, .stats]

theorem mem_all (schema : Schema) : schema ∈ all := by
  cases schema <;> decide

instance (p : Schema → Prop) [DecidablePred p] : Decidable (∀ schema, p schema) :=
  decidable_of_iff (∀ schema ∈ all, p schema)
    ⟨fun h schema => h schema schema.mem_all, fun h schema _ => h schema⟩

/-- The rules of a schema against the members of its type: there are some, none is about the
version, and but for the error of a consolidation result they name the types that are written. -/
theorem rules_agree : ∀ schema : Schema, schema.rules ≠ [] ∧
    (∀ rule ∈ schema.rules, ascii rule.name ≠ ascii "schemaVersion") ∧
    (∀ field ∈ schema.encodedFields, ascii field.name ≠ ascii "schemaVersion") ∧
    (ascii schema.name = ascii "searchResponse" ↔ schema = .searchResponse) ∧
    (schema ≠ .consolidationResult → ∀ rule ∈ schema.rules, ∀ field ∈ schema.encodedFields,
      ascii rule.name = ascii field.name → rule.type = field.type) := by
  decide +kernel

end Schema

/-! ## Diagnostics of an object -/

theorem ruleWarning_eq_none_iff {j : Json} {rule : FieldRule} :
    ruleWarning j rule = none ↔
      ∀ value, j.member? (ascii rule.name) = some value → matchesType value rule.type = true := by
  unfold ruleWarning
  cases hmember : j.member? (ascii rule.name) with
  | none => simp
  | some value => simp

theorem diagnostics_of_isObject (schema : Schema) {j : Json} (h : j.isObject = true) :
    schema.diagnostics j =
      { warnings := schemaVersionWarnings j ++ schema.rules.filterMap (ruleWarning j)
        errors :=
          if schema = .searchResponse ∧ (jsonFieldValue j "results").isArray = false then
            [⟨ascii "$.results", ascii "expected array"⟩]
          else [] } := by
  obtain ⟨hne, -, -, hname, -⟩ := schema.rules_agree
  have hrules : (schemaRules (ascii schema.name)).isEmpty = false :=
    List.isEmpty_eq_false_iff.mpr hne
  simp only [Schema.diagnostics, jsonDecodeDiagnosticsFor, h, hrules, hname, Schema.rules,
    Bool.not_true, Bool.false_and, Bool.false_eq_true, if_false, Bool.and_eq_true,
    decide_eq_true_eq, Bool.not_eq_true']

/-- Neither warnings nor errors. -/
def JsonDecodeDiagnostics.IsClean (diagnostics : JsonDecodeDiagnostics) : Prop :=
  diagnostics.warnings = [] ∧ diagnostics.errors = []

/-! ## What encoders write -/

/-- Every member is one of the fields, with its type, or the version. -/
structure Writes (fields : List FieldRule) (j : Json) : Prop where
  isObject : j.isObject = true
  members : ∀ key value, j.member? key = some value →
    (∃ field ∈ fields, ascii field.name = key ∧ matchesType value field.type = true) ∨
      (key = ascii "schemaVersion" ∧ value = .integer 1)

theorem exists_mem_of_forall₂ {α β : Type} {R : α → β → Prop} {xs : List α} {ys : List β}
    (h : List.Forall₂ R xs ys) {x : α} (hx : x ∈ xs) : ∃ y ∈ ys, R x y := by
  induction h with
  | nil => cases hx
  | cons hR _ ih =>
    rcases List.mem_cons.mp hx with rfl | hx
    · exact ⟨_, List.mem_cons_self, hR⟩
    · obtain ⟨y, hy, hRy⟩ := ih hx
      exact ⟨y, List.mem_cons_of_mem _ hy, hRy⟩

/-- The members are written in the order of the fields. -/
theorem Writes.ofMembers {fields : List FieldRule} {members : List (String × Json)}
    (h : List.Forall₂ (fun m field => m.1 = field.name ∧ matchesType m.2 field.type = true)
      members fields) : Writes fields (.ofMembers members) where
  isObject := Json.isObject_ofMembers members
  members key value hvalue := by
    rw [Json.member?_ofMembers] at hvalue
    obtain ⟨m, hfind, rfl⟩ := Option.map_eq_some_iff.mp hvalue
    have hm : m ∈ members := List.mem_reverse.mp (List.mem_of_find?_eq_some hfind)
    obtain ⟨field, hfield, hname, htype⟩ := exists_mem_of_forall₂ h hm
    have hkey : ascii m.1 = key := by simpa using List.find?_some hfind
    exact .inl ⟨field, hfield, by rw [← hname, hkey], htype⟩

theorem Writes.withSchema {fields : List FieldRule} {j : Json} (h : Writes fields j) :
    Writes fields (withSchema j) where
  isObject := by rw [isObject_withSchema, h.isObject]
  members key value hvalue := by
    rw [member?_withSchema h.isObject] at hvalue
    split at hvalue
    · next hkey => exact .inr ⟨hkey.symm, (Option.some_inj.mp hvalue).symm⟩
    · exact h.members key value hvalue

theorem Writes.set {fields : List FieldRule} {j value : Json} (h : Writes fields j)
    (field : FieldRule) (hvalue : matchesType value field.type = true) :
    Writes (fields ++ [field]) (j.set (ascii field.name) value) where
  isObject := by rw [Json.isObject_set, h.isObject]
  members key value' hvalue' := by
    rw [Json.member?_set h.isObject] at hvalue'
    split at hvalue'
    · next hkey =>
      exact .inl ⟨field, by simp, hkey, by rwa [← Option.some_inj.mp hvalue']⟩
    · rcases h.members key value' hvalue' with ⟨field', hfield', hkey⟩ | hversion
      · exact .inl ⟨field', List.mem_append_left _ hfield', hkey⟩
      · exact .inr hversion

section Encoders

variable (printFloat : ℚ → FloatText) (ok : Bool)

theorem isObject_errorToJson (error : MemoryError) : (errorToJson error).isObject = true := by
  unfold errorToJson
  split
  · rfl
  · exact Json.isObject_ofMembers _

/-- Each encoder writes the members of its type. -/
theorem writes_encode (schema : Schema) (x : schema.Value) :
    Writes schema.encodedFields (schema.encode printFloat ok x) := by
  cases schema
  case consolidationRequest =>
    have h : Writes (Schema.consolidationRequest.encodedFields.take 5) (withSchema (.ofMembers
        [("agentId", .string x.agentId), ("sessionId", .string x.sessionId),
          ("maxEvents", .integer x.maxEvents.toInt), ("forceReprocess", .boolean x.forceReprocess),
          ("metadata", jsonObject x.metadata)])) := by
      refine .withSchema (.ofMembers ?_)
      simp [Schema.encodedFields, Schema.decodedFields, matchesType, Json.isString,
        Json.isNumberInteger, Json.isBoolean]
    exact h.set ⟨"excludedSessionIds", .array⟩ rfl
  case message | payloadRef | entity | relation =>
    refine .ofMembers ?_
    simp [Schema.encodedFields, Schema.decodedFields, matchesType, floatToJson, Json.ofStrings,
      Json.isString, Json.isNumberInteger, Json.isNumber, Json.isArray]
  all_goals
    simp only [Schema.encode, eventToJson, contextRequestToJson, contextPackageToJson,
      payloadWriteRequestToJson, payloadWriteResultToJson, consolidationResultToJson,
      searchRequestToJson, searchResponseToJson, statsToJson]
    refine .withSchema (.ofMembers ?_)
    simp [Schema.encodedFields, Schema.decodedFields, matchesType, payloadRefToJson,
      isObject_errorToJson, Json.ofStrings, Json.isString, Json.isNumberInteger, Json.isBoolean,
      Json.isArray]

/-- The error of a consolidation result is written as an object. -/
theorem member?_error (result : MemoryConsolidationResult) :
    (consolidationResultToJson result).member? (ascii "error") = some (errorToJson result.error) := by
  simp +decide [consolidationResultToJson, member?_withSchema, Json.member?_ofMembers]

theorem isArray_results (hits : List MemorySearchHit) :
    (jsonFieldValue (searchResponseToJson printFloat hits ok) "results").isArray = true := by
  simp +decide [searchResponseToJson, jsonFieldValue, member?_withSchema, Json.member?_ofMembers,
    Json.isArray]

theorem schemaVersionWarnings_of_writes {fields : List FieldRule} {j : Json} (h : Writes fields j)
    (hfields : ∀ field ∈ fields, ascii field.name ≠ ascii "schemaVersion") :
    schemaVersionWarnings j = [] := by
  have hvalue : ∀ value, j.member? (ascii "schemaVersion") = some value → value = .integer 1 := by
    intro value hvalue
    rcases h.members _ value hvalue with ⟨field, hfield, hname, -⟩ | ⟨-, hone⟩
    · exact absurd hname (hfields field hfield)
    · exact hone
  unfold schemaVersionWarnings
  cases hmember : j.member? (ascii "schemaVersion") with
  | none => simp [jsonInt, hmember]
  | some value =>
    obtain rfl := hvalue value hmember
    have hnone : (some (Json.integer 1)).filter (fun value => !value.isNumberInteger) = none := rfl
    rw [hnone]
    simp [jsonInt, hmember, isInt]

/-- What is written passes its own schema, except for a consolidation result. -/
theorem diagnostics_encode_clean_iff (schema : Schema) (x : schema.Value) :
    (schema.diagnostics (schema.encode printFloat ok x)).IsClean ↔
      schema ≠ .consolidationResult := by
  have hwrites := writes_encode printFloat ok schema x
  obtain ⟨-, hrules, hfields, -, htypes⟩ := schema.rules_agree
  simp only [diagnostics_of_isObject schema hwrites.isObject, JsonDecodeDiagnostics.IsClean,
    schemaVersionWarnings_of_writes hwrites hfields, List.nil_append]
  constructor
  · rintro ⟨hwarnings, -⟩ rfl
    have hrule := List.filterMap_eq_nil_iff.mp hwarnings ⟨"error", .string⟩
      (by decide +kernel)
    have hmatches := ruleWarning_eq_none_iff.mp hrule _ (member?_error x)
    have hobject := isObject_errorToJson x.error
    revert hmatches hobject
    cases errorToJson x.error <;> simp [matchesType, Json.isString, Json.isObject]
  · intro hschema
    constructor
    · refine List.filterMap_eq_nil_iff.mpr fun rule hrule => ?_
      refine ruleWarning_eq_none_iff.mpr fun value hvalue => ?_
      rcases hwrites.members _ value hvalue with ⟨field, hfield, hname, htype⟩ | ⟨hversion, -⟩
      · rw [htypes hschema rule hrule field hfield hname.symm]
        exact htype
      · exact absurd hversion (hrules rule hrule)
    · refine if_neg ?_
      rintro ⟨rfl, hresults⟩
      have harray := isArray_results printFloat ok x
      exact absurd (harray.symm.trans hresults) (by decide)

end Encoders

/-- The result of a consolidation that succeeded is reported as having an object where a string is
expected. -/
theorem diagnostics_encode_not_clean :
    ∃ result : MemoryConsolidationResult, result.succeeded = true ∧
      Schema.consolidationResult.diagnostics (consolidationResultToJson result) =
        { warnings := [⟨ascii "$.error", ascii "expected string, got object"⟩] } ∧
      ¬(Schema.consolidationResult.diagnostics (consolidationResultToJson result)).IsClean := by
  refine ⟨{ succeeded := true }, rfl, by decide +kernel, fun h => ?_⟩
  exact absurd h.1 (by decide +kernel)

end AgentMemory
