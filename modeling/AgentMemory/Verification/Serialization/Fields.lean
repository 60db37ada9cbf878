import AgentMemory.Verification.Serialization.Diagnostics
import AgentMemory.Verification.Serialization.Integers

/-! # Members that are lost in decoding

A decoder passes over a member of a type it does not take. Whether the diagnostics tell so depends
on the rules of the schema. -/

namespace AgentMemory

/-- `value_t`. -/
inductive JsonType where
  | null
  | boolean
  | integer
  | unsigned
  | float
  | string
  | array
  | object
deriving DecidableEq

def Json.type : Json → JsonType
  | .null => .null
  | .boolean _ => .boolean
  | .integer _ => .integer
  | .unsigned _ => .unsigned
  | .float _ _ => .float
  | .string _ => .string
  | .array _ => .array
  | .object _ => .object

/-! ## What a decoder reads and what it ignores -/

section Decoders

variable {α : Type} (decode : Json → α)

/-- A member of the type decodes as if it were missing, whatever else the object has. -/
def Ignores (key : Text) (type : JsonType) : Prop :=
  ∀ j j' : Json, j.isObject = true → j'.isObject = true →
    (∃ value, j.member? key = some value ∧ value.type = type) → j'.member? key = none →
      (∀ key' ≠ key, j.member? key' = j'.member? key') → decode j = decode j'

/-- A member that is read is not ignored in all types. -/
def Reads (key : Text) : Prop :=
  ∃ type, ¬Ignores decode key type

end Decoders

/-- Every member that is read and present, but of a type that is ignored, is named by an issue. -/
def NoSilentLoss (schema : Schema) (j : Json) : Prop :=
  ∀ key value, Reads schema.decode key → j.member? key = some value →
    Ignores schema.decode key value.type →
      ∃ issue ∈ (schema.diagnostics j).warnings ++ (schema.diagnostics j).errors,
        issue.path = ascii "$." ++ key

/-- Every member that is read and present has a type that is not ignored. -/
def AllTaken (schema : Schema) (j : Json) : Prop :=
  ∀ key value, Reads schema.decode key → j.member? key = some value →
    ¬Ignores schema.decode key value.type

/-! ## Readers of one member -/

/-- The member of a field if it has the type of the field. -/
def FieldRule.taken (field : FieldRule) (j : Json) : Option Json :=
  (j.member? (ascii field.name)).filter fun value => matchesType value field.type

/-- The reader sees nothing but a member of the right type. -/
def ReadsField {β : Type} (read : Json → β) (field : FieldRule) : Prop :=
  ∀ j j' : Json, field.taken j = field.taken j' → read j = read j'

/-- The object of one member, or of none. -/
def objectOf (key : Text) (member : Option Json) : Json :=
  .object (member.toList.map fun value => (key, value))

@[simp] theorem member?_objectOf (key : Text) (member : Option Json) :
    (objectOf key member).member? key = member := by
  cases member <;> simp [objectOf, Json.member?]

theorem ReadsField.of_lookup {β : Type} {read : Json → β} {field : FieldRule}
    (hlookup : ∀ j j' : Json, j.member? (ascii field.name) = j'.member? (ascii field.name) →
      read j = read j')
    (htype : ∀ value, matchesType value field.type = false →
      read (objectOf (ascii field.name) (some value)) = read (objectOf (ascii field.name) none)) :
    ReadsField read field := by
  have htaken : ∀ j, read j = read (objectOf (ascii field.name) (field.taken j)) := by
    intro j
    rw [hlookup j (objectOf (ascii field.name) (j.member? (ascii field.name))) (by simp),
      FieldRule.taken]
    cases j.member? (ascii field.name) with
    | none => rfl
    | some value =>
      by_cases hmatches : matchesType value field.type = true
      · rw [Option.filter_some, if_pos hmatches]
      · rw [Option.filter_some, if_neg hmatches, htype value (by simpa using hmatches)]
  intro j j' h
  rw [htaken j, htaken j', h]

section Readers

variable (key : String)

theorem readsField_jsonString (fallback : Text) :
    ReadsField (fun j => jsonString j key fallback) ⟨key, .string⟩ := by
  refine .of_lookup (fun j j' h => by simp only [jsonString, h]) fun value hvalue => ?_
  simp only [jsonString, member?_objectOf]
  cases value with
  | string _ => cases hvalue
  | _ => rfl

theorem readsField_jsonInt (fallback : ℤ) :
    ReadsField (fun j => jsonInt j key fallback) ⟨key, .integer⟩ := by
  refine .of_lookup (fun j j' h => by simp only [jsonInt, h]) fun value hvalue => ?_
  simp only [jsonInt, member?_objectOf]
  cases value with
  | integer _ => cases hvalue
  | unsigned _ => cases hvalue
  | _ => rfl

theorem readsField_jsonFloat (fallback : ℚ) :
    ReadsField (fun j => jsonFloat j key fallback) ⟨key, .float⟩ := by
  refine .of_lookup (fun j j' h => by simp only [jsonFloat, h]) fun value hvalue => ?_
  simp only [jsonFloat, member?_objectOf]
  cases value with
  | integer _ => cases hvalue
  | unsigned _ => cases hvalue
  | float _ => cases hvalue
  | _ => rfl

theorem readsField_jsonBool (fallback : Bool) :
    ReadsField (fun j => jsonBool j key fallback) ⟨key, .boolean⟩ := by
  refine .of_lookup (fun j j' h => by simp only [jsonBool, h]) fun value hvalue => ?_
  simp only [jsonBool, member?_objectOf]
  cases value with
  | boolean _ => cases hvalue
  | _ => rfl

/-- A nested value is taken as a whole. -/
theorem readsField_jsonFieldValue {β : Type} {f : Json → β} {type : FieldType}
    (hf : ∀ value, matchesType value type = false → f value = f .null) :
    ReadsField (fun j => f (jsonFieldValue j key)) ⟨key, type⟩ := by
  refine .of_lookup (fun j j' h => by simp only [jsonFieldValue, h]) fun value hvalue => ?_
  simp only [jsonFieldValue, member?_objectOf, Option.getD_some, Option.getD_none]
  exact hf value hvalue

theorem readsField_strings :
    ReadsField (fun j => stringVectorFromJson (jsonFieldValue j key)) ⟨key, .array⟩ :=
  readsField_jsonFieldValue key fun value hvalue => by
    cases value with
    | array _ => cases hvalue
    | _ => rfl

theorem readsField_objects {β : Type} (decode : Json → β) :
    ReadsField (fun j => decodeObjects decode (jsonFieldValue j key)) ⟨key, .array⟩ :=
  readsField_jsonFieldValue key fun value hvalue => by
    cases value with
    | array _ => cases hvalue
    | _ => rfl

theorem readsField_jsonObject :
    ReadsField (fun j => jsonObject (jsonFieldValue j key)) ⟨key, .object⟩ :=
  readsField_jsonFieldValue key fun value hvalue => by
    cases value with
    | object _ => cases hvalue
    | _ => rfl

theorem readsField_error :
    ReadsField (fun j => errorFromJson (jsonFieldValue j key)) ⟨key, .object⟩ :=
  readsField_jsonFieldValue key fun value hvalue => by
    cases value with
    | object _ => cases hvalue
    | _ => rfl

theorem readsField_payload :
    ReadsField (fun j => if (jsonFieldValue j key).isObject then
      payloadRefFromJson (jsonFieldValue j key) else {}) ⟨key, .object⟩ :=
  @readsField_jsonFieldValue key _
    (fun payload => if payload.isObject then payloadRefFromJson payload else {}) _
    fun value hvalue => by
      cases value with
      | object _ => cases hvalue
      | _ => rfl

end Readers

/-- A decoder depends on nothing but the members it reads, in the types it takes. -/
theorem decode_congr {schema : Schema} {j j' : Json}
    (h : ∀ field ∈ schema.decodedFields, field.taken j = field.taken j') :
    schema.decode j = schema.decode j' := by
  have hint : ∀ key fallback, ⟨key, .integer⟩ ∈ schema.decodedFields →
      jsonInt j key fallback = jsonInt j' key fallback :=
    fun key fallback hkey => readsField_jsonInt key fallback j j' (h _ hkey)
  cases schema
  all_goals
    simp only [Schema.decode, messageFromJson, payloadRefFromJson, entityFromJson, relationFromJson,
      eventFromJson, eventTypeFromJson, contextRequestFromJson, contextPackageFromJson,
      payloadWriteRequestFromJson, payloadWriteResultFromJson, consolidationRequestFromJson,
      consolidationResultFromJson, searchRequestFromJson, searchResultsFromJson, statsFromJson]
  case searchResponse =>
    exact readsField_objects _ _ _ _ (h _ (by simp [Schema.decodedFields]))
  case event =>
    rw [hint "type" _ (by simp [Schema.decodedFields])]
    congr 1
    all_goals
      first
      | exact readsField_jsonString _ _ _ _ (h _ (by simp [Schema.decodedFields]))
      | exact readsField_jsonObject _ _ _ (h _ (by simp [Schema.decodedFields]))
  all_goals
    congr 1
    all_goals
      first
      | exact readsField_jsonString _ _ _ _ (h _ (by simp [Schema.decodedFields]))
      | exact hint _ _ (by simp [Schema.decodedFields])
      | exact congrArg Int32.ofInt (hint _ _ (by simp [Schema.decodedFields]))
      | exact readsField_jsonFloat _ _ _ _ (h _ (by simp [Schema.decodedFields]))
      | exact readsField_jsonBool _ _ _ _ (h _ (by simp [Schema.decodedFields]))
      | exact readsField_strings _ _ _ (h _ (by simp [Schema.decodedFields]))
      | exact readsField_objects _ _ _ _ (h _ (by simp [Schema.decodedFields]))
      | exact readsField_jsonObject _ _ _ (h _ (by simp [Schema.decodedFields]))
      | exact readsField_error _ _ _ (h _ (by simp [Schema.decodedFields]))
      | exact readsField_payload _ _ _ (h _ (by simp [Schema.decodedFields]))

/-! ## Types that are taken -/

/-- The member is not ignored in any type of the field. -/
def Sensitive {α : Type} (decode : Json → α) (field : FieldRule) : Prop :=
  ∀ value, matchesType value field.type = true → ¬Ignores decode (ascii field.name) value.type

section Sensitive

variable {α : Type} {decode : Json → α} {key : String}

/-- One object that decodes differently without the member. -/
theorem not_ignores {key : Text} {value : Json}
    (h : decode (objectOf key (some value)) ≠ decode (objectOf key none)) :
    ¬Ignores decode key value.type := by
  intro hignores
  refine h (hignores _ _ rfl rfl ⟨value, member?_objectOf key _, rfl⟩ (member?_objectOf key _) ?_)
  intro key' hne
  simp [objectOf, Json.member?, hne.symm]

theorem sensitive_string {fallback : Text} (g : α → Text)
    (h : ∀ j, g (decode j) = jsonString j key fallback) : Sensitive decode ⟨key, .string⟩ := by
  intro value hvalue
  cases value with
  | string s =>
    refine @not_ignores _ _ _ (.string (0 :: fallback)) fun heq => ?_
    have hread := congrArg g heq
    simp [h, jsonString] at hread
  | _ => cases hvalue

theorem sensitive_integer {fallback : ℤ} (g : α → ℤ)
    (h : ∀ j, g (decode j) = jsonInt j key fallback) : Sensitive decode ⟨key, .integer⟩ := by
  obtain ⟨n, hn, hne⟩ : ∃ n : ℕ, n < 2 ∧ (n : ℤ) ≠ fallback := by
    by_cases hzero : fallback = 0
    · exact ⟨1, by omega, by omega⟩
    · exact ⟨0, by omega, by omega⟩
  intro value hvalue
  cases value with
  | integer _ =>
    refine @not_ignores _ _ _ (.integer n) fun heq => hne ?_
    have hread := congrArg g heq
    rw [h, h, jsonInt_of_holdsInteger (.inl ⟨member?_objectOf _ _, by omega, by omega⟩),
      if_pos (by omega), intOr, if_pos (isInt_iff.mpr (by omega))] at hread
    simpa [jsonInt] using hread
  | unsigned _ =>
    refine @not_ignores _ _ _ (.unsigned n) fun heq => hne ?_
    have hread := congrArg g heq
    rw [h, h, jsonInt_of_holdsInteger (.inr ⟨n, member?_objectOf _ _, rfl, by omega⟩),
      if_pos (by omega), intOr, if_pos (isInt_iff.mpr (by omega))] at hread
    simpa [jsonInt] using hread
  | _ => cases hvalue

theorem sensitive_float (g : α → ℚ) (h : ∀ j, g (decode j) = jsonFloat j key) :
    Sensitive decode ⟨key, .float⟩ := by
  intro value hvalue
  cases value with
  | integer n =>
    refine @not_ignores _ _ _ (.integer 1) fun heq => ?_
    have hread := congrArg g heq
    simp [h, jsonFloat] at hread
  | unsigned n =>
    refine @not_ignores _ _ _ (.unsigned 1) fun heq => ?_
    have hread := congrArg g heq
    simp [h, jsonFloat] at hread
  | float q text =>
    refine @not_ignores _ _ _ (.float 1 .empty) fun heq => ?_
    have hread := congrArg g heq
    simp [h, jsonFloat] at hread
  | _ => cases hvalue

theorem sensitive_boolean (g : α → Bool) (h : ∀ j, g (decode j) = jsonBool j key) :
    Sensitive decode ⟨key, .boolean⟩ := by
  intro value hvalue
  cases value with
  | boolean b =>
    refine @not_ignores _ _ _ (.boolean true) fun heq => ?_
    have hread := congrArg g heq
    simp [h, jsonBool] at hread
  | _ => cases hvalue

theorem sensitive_array {β : Type} {f : Json → List β} (g : α → List β)
    (h : ∀ j, g (decode j) = f (jsonFieldValue j key))
    (hf : f (.array [.string [], .object []]) ≠ f .null) : Sensitive decode ⟨key, .array⟩ := by
  intro value hvalue
  cases value with
  | array items =>
    refine @not_ignores _ _ _ (.array [.string [], .object []]) fun heq => ?_
    have hread := congrArg g heq
    simp only [h, jsonFieldValue, member?_objectOf, Option.getD_some, Option.getD_none] at hread
    exact hf hread
  | _ => cases hvalue

theorem sensitive_strings (g : α → List Text)
    (h : ∀ j, g (decode j) = stringVectorFromJson (jsonFieldValue j key)) :
    Sensitive decode ⟨key, .array⟩ :=
  sensitive_array g h (by simp [stringVectorFromJson])

theorem sensitive_objects {β : Type} {decodeItem : Json → β} (g : α → List β)
    (h : ∀ j, g (decode j) = decodeObjects decodeItem (jsonFieldValue j key)) :
    Sensitive decode ⟨key, .array⟩ :=
  sensitive_array g h (by simp [decodeObjects, Json.isObject])

theorem sensitive_object {β : Type} {f : Json → β} (g : α → β) (member : Text × Json)
    (h : ∀ j, g (decode j) = f (jsonFieldValue j key))
    (hf : f (.object [member]) ≠ f .null) : Sensitive decode ⟨key, .object⟩ := by
  intro value hvalue
  cases value with
  | object members =>
    refine @not_ignores _ _ _ (.object [member]) fun heq => ?_
    have hread := congrArg g heq
    simp only [h, jsonFieldValue, member?_objectOf, Option.getD_some, Option.getD_none] at hread
    exact hf hread
  | _ => cases hvalue

theorem sensitive_metadata (g : α → Json)
    (h : ∀ j, g (decode j) = jsonObject (jsonFieldValue j key)) :
    Sensitive decode ⟨key, .object⟩ :=
  sensitive_object g ([], .null) h (by simp [jsonObject, Json.isObject])

theorem sensitive_error (g : α → MemoryError)
    (h : ∀ j, g (decode j) = errorFromJson (jsonFieldValue j key)) :
    Sensitive decode ⟨key, .object⟩ :=
  sensitive_object g (ascii "code", .string (ascii "code")) h (by decide +kernel)

end Sensitive

/-- The type of an event is taken if it is one of the enumerators. -/
theorem sensitive_eventType : Sensitive eventFromJson ⟨"type", .integer⟩ := by
  intro value hvalue
  cases value with
  | integer _ =>
    refine @not_ignores _ _ _ (.integer 1) fun heq => ?_
    exact absurd (congrArg (fun event => event.type) heq) (by decide +kernel)
  | unsigned _ =>
    refine @not_ignores _ _ _ (.unsigned 1) fun heq => ?_
    exact absurd (congrArg (fun event => event.type) heq) (by decide +kernel)
  | _ => cases hvalue

theorem sensitive_int32 {α : Type} {decode : Json → α} {key : String} {fallback : ℤ}
    (g : α → Int32) (hfallback : isInt fallback = true)
    (h : ∀ j, g (decode j) = .ofInt (jsonInt j key fallback)) :
    Sensitive decode ⟨key, .integer⟩ :=
  sensitive_integer (fun x => (g x).toInt) fun j => by
    rw [h, toInt_ofInt_jsonInt hfallback]

theorem sensitive_payload : Sensitive Schema.payloadWriteResult.decode ⟨"payload", .object⟩ :=
  @sensitive_object _ _ _ _ (fun payload => if payload.isObject then payloadRefFromJson payload
    else {}) (·.payload) (ascii "uri", .string (ascii "uri")) (fun _ => rfl) fun heq =>
      absurd (congrArg MemoryPayloadRef.uri heq) (by decide +kernel)

theorem sensitive_decodedFields (schema : Schema) :
    ∀ field ∈ schema.decodedFields, Sensitive schema.decode field := by
  cases schema <;> simp only [Schema.decodedFields, List.forall_mem_cons, List.not_mem_nil,
    IsEmpty.forall_iff, and_true, implies_true]
  case message =>
    exact ⟨sensitive_string (·.role) fun _ => rfl, sensitive_string (·.content) fun _ => rfl,
      sensitive_string (·.toolCallId) fun _ => rfl, sensitive_string (·.toolName) fun _ => rfl,
      sensitive_string (·.payloadRef) fun _ => rfl⟩
  case payloadRef =>
    exact ⟨sensitive_string (·.agentId) fun _ => rfl, sensitive_string (·.sessionId) fun _ => rfl,
      sensitive_string (·.uri) fun _ => rfl, sensitive_string (·.contentType) fun _ => rfl,
      sensitive_string (·.summary) fun _ => rfl, sensitive_string (·.toolName) fun _ => rfl,
      sensitive_integer (·.originalChars) fun _ => rfl, sensitive_metadata (·.metadata) fun _ => rfl,
      sensitive_string (·.createdAt) fun _ => rfl⟩
  case entity =>
    exact ⟨sensitive_string (·.id) fun _ => rfl, sensitive_string (·.entityType) fun _ => rfl,
      sensitive_string (·.name) fun _ => rfl, sensitive_string (·.summary) fun _ => rfl,
      sensitive_float (·.confidence) fun _ => rfl, sensitive_strings (·.sourceRefs) fun _ => rfl,
      sensitive_metadata (·.metadata) fun _ => rfl, sensitive_string (·.createdAt) fun _ => rfl,
      sensitive_string (·.updatedAt) fun _ => rfl⟩
  case relation =>
    exact ⟨sensitive_string (·.id) fun _ => rfl, sensitive_string (·.fromEntityId) fun _ => rfl,
      sensitive_string (·.relationType) fun _ => rfl,
      sensitive_string (·.toEntityId) fun _ => rfl, sensitive_float (·.confidence) fun _ => rfl,
      sensitive_strings (·.sourceRefs) fun _ => rfl, sensitive_metadata (·.metadata) fun _ => rfl,
      sensitive_string (·.createdAt) fun _ => rfl, sensitive_string (·.updatedAt) fun _ => rfl⟩
  case event =>
    exact ⟨sensitive_eventType, sensitive_string (·.agentId) fun _ => rfl,
      sensitive_string (·.sessionId) fun _ => rfl, sensitive_string (·.role) fun _ => rfl,
      sensitive_string (·.content) fun _ => rfl, sensitive_string (·.toolCallId) fun _ => rfl,
      sensitive_string (·.toolName) fun _ => rfl, sensitive_string (·.payloadRef) fun _ => rfl,
      sensitive_metadata (·.metadata) fun _ => rfl, sensitive_string (·.timestamp) fun _ => rfl⟩
  case contextRequest =>
    exact ⟨sensitive_string (·.agentId) fun _ => rfl, sensitive_string (·.sessionId) fun _ => rfl,
      sensitive_string (·.query) fun _ => rfl,
      sensitive_int32 (·.tokenBudget) (by decide) fun _ => rfl,
      sensitive_strings (·.includeSections) fun _ => rfl,
      sensitive_metadata (·.metadata) fun _ => rfl⟩
  case contextPackage =>
    exact ⟨sensitive_objects (·.messages) fun _ => rfl, sensitive_string (·.memoryText) fun _ => rfl,
      sensitive_objects (·.entities) fun _ => rfl, sensitive_objects (·.relations) fun _ => rfl,
      sensitive_objects (·.payloadRefs) fun _ => rfl, sensitive_strings (·.citations) fun _ => rfl,
      sensitive_metadata (·.metadata) fun _ => rfl⟩
  case payloadWriteRequest =>
    exact ⟨sensitive_string (·.agentId) fun _ => rfl, sensitive_string (·.sessionId) fun _ => rfl,
      sensitive_string (·.content) fun _ => rfl, sensitive_string (·.contentType) fun _ => rfl,
      sensitive_string (·.toolCallId) fun _ => rfl, sensitive_string (·.toolName) fun _ => rfl,
      sensitive_metadata (·.metadata) fun _ => rfl⟩
  case payloadWriteResult =>
    exact ⟨sensitive_boolean (·.succeeded) fun _ => rfl, sensitive_boolean (·.offloaded) fun _ => rfl,
      sensitive_string (·.replacementContent) fun _ => rfl, sensitive_payload,
      sensitive_error (·.error) fun _ => rfl⟩
  case consolidationRequest =>
    exact ⟨sensitive_string (·.agentId) fun _ => rfl, sensitive_string (·.sessionId) fun _ => rfl,
      sensitive_int32 (·.maxEvents) (by decide) fun _ => rfl,
      sensitive_boolean (·.forceReprocess) fun _ => rfl,
      sensitive_metadata (·.metadata) fun _ => rfl,
      sensitive_strings (·.excludedSessionIds) fun _ => rfl⟩
  case consolidationResult =>
    exact ⟨sensitive_boolean (·.succeeded) fun _ => rfl,
      sensitive_boolean (·.fallbackUsed) fun _ => rfl,
      sensitive_integer (·.processedEvents) fun _ => rfl,
      sensitive_integer (·.savedSummaries) fun _ => rfl,
      sensitive_integer (·.savedEntities) fun _ => rfl,
      sensitive_integer (·.savedRelations) fun _ => rfl,
      sensitive_string (·.nextCursor) fun _ => rfl, sensitive_string (·.sessionId) fun _ => rfl,
      sensitive_error (·.error) fun _ => rfl⟩
  case searchRequest =>
    exact ⟨sensitive_string (·.agentId) fun _ => rfl, sensitive_string (·.sessionId) fun _ => rfl,
      sensitive_string (·.query) fun _ => rfl, sensitive_int32 (·.limit) (by decide) fun _ => rfl,
      sensitive_strings (·.includeSections) fun _ => rfl,
      sensitive_metadata (·.metadata) fun _ => rfl⟩
  case searchResponse => exact sensitive_objects id fun _ => rfl
  case stats =>
    exact ⟨sensitive_int32 (·.events) (by decide) fun _ => rfl,
      sensitive_int32 (·.payloads) (by decide) fun _ => rfl,
      sensitive_int32 (·.summaries) (by decide) fun _ => rfl,
      sensitive_int32 (·.entities) (by decide) fun _ => rfl,
      sensitive_int32 (·.relations) (by decide) fun _ => rfl,
      sensitive_metadata (·.metadata) fun _ => rfl⟩

/-! ## The members that no rule checks -/

/-- Members that are read, but have no rule. -/
def Schema.uncheckedFields : Schema → List FieldRule
  | .payloadRef => [⟨"agentId", .string⟩, ⟨"sessionId", .string⟩]
  | .payloadWriteResult => [⟨"succeeded", .boolean⟩, ⟨"error", .object⟩]
  | .consolidationRequest => [⟨"excludedSessionIds", .array⟩]
  | _ => []

/-- A member without a rule has a wrong type, or the error of a consolidation result is the string
that its rule asks for. -/
def LosesSilently (schema : Schema) (j : Json) : Prop :=
  (∃ field ∈ schema.uncheckedFields, ∃ value, j.member? (ascii field.name) = some value ∧
    matchesType value field.type = false) ∨
  (schema = .consolidationResult ∧ ∃ s, j.member? (ascii "error") = some (.string s))

/-- What the rules say about the members that are read. -/
theorem rules_cover : ∀ schema : Schema,
    (∀ field ∈ schema.uncheckedFields, field ∈ schema.decodedFields ∧
      ∀ rule ∈ schema.rules, ascii rule.name ≠ ascii field.name) ∧
    (∀ field ∈ schema.decodedFields, field ∈ schema.uncheckedFields ∨ field ∈ schema.rules ∨
      (schema = .consolidationResult ∧ field = ⟨"error", .object⟩)) ∧
    (∀ field ∈ schema.decodedFields, ∀ field' ∈ schema.decodedFields,
      ascii field.name = ascii field'.name → field = field') ∧
    (∀ rule ∈ schema.rules, schema = .consolidationResult → ascii rule.name = ascii "error" →
      rule = ⟨"error", .string⟩) := by
  decide +kernel

section Loss

variable {schema : Schema} {j : Json}

theorem matchesType_congr {value value' : Json} (h : value.type = value'.type)
    (type : FieldType) : matchesType value type = matchesType value' type := by
  cases type <;> cases value <;> cases value' <;> first | rfl | cases h

theorem ignores_iff {field : FieldRule} (hfield : field ∈ schema.decodedFields) (value : Json) :
    Ignores schema.decode (ascii field.name) value.type ↔
      matchesType value field.type = false := by
  constructor
  · intro hignores
    by_contra hmatches
    exact sensitive_decodedFields schema field hfield value (by simpa using hmatches) hignores
  · rintro hmismatch j j' - - ⟨value', hvalue', htype⟩ hnone hothers
    refine decode_congr fun field' hfield' => ?_
    by_cases hname : ascii field'.name = ascii field.name
    · obtain rfl := (rules_cover schema).2.2.1 field' hfield' field hfield hname
      have hmismatch' : ¬matchesType value' field'.type = true := by
        rw [matchesType_congr htype, hmismatch]
        decide
      rw [FieldRule.taken, FieldRule.taken, hvalue', hnone, Option.filter_some,
        if_neg hmismatch', Option.filter_none]
    · rw [FieldRule.taken, FieldRule.taken, hothers _ hname]

/-- No other members are read. -/
theorem exists_field_of_reads {key : Text} (h : Reads schema.decode key) :
    ∃ field ∈ schema.decodedFields, ascii field.name = key := by
  by_contra hnone
  obtain ⟨type, hignores⟩ := h
  refine hignores fun j j' _ _ _ _ hothers => decode_congr fun field hfield => ?_
  rw [FieldRule.taken, FieldRule.taken, hothers _ fun hname => hnone ⟨field, hfield, hname⟩]

theorem reads_of_mem {field : FieldRule} (hfield : field ∈ schema.decodedFields) :
    Reads schema.decode (ascii field.name) := by
  obtain ⟨value, hvalue⟩ : ∃ value, matchesType value field.type = true := by
    cases field.type
    · exact ⟨.string [], rfl⟩
    · exact ⟨.integer 0, rfl⟩
    · exact ⟨.integer 0, rfl⟩
    · exact ⟨.boolean true, rfl⟩
    · exact ⟨.array [], rfl⟩
    · exact ⟨.object [], rfl⟩
  exact ⟨value.type, sensitive_decodedFields schema field hfield value hvalue⟩

theorem Schema.mem_encodedFields {field : FieldRule} (hfield : field ∈ schema.decodedFields) :
    field ∈ schema.encodedFields := by
  cases schema
  case searchResponse => exact List.mem_cons_of_mem _ hfield
  all_goals exact hfield

theorem path_schemaVersionWarnings {issue : JsonDecodeIssue}
    (h : issue ∈ schemaVersionWarnings j) :
    issue.path = ascii "$." ++ ascii "schemaVersion" := by
  unfold schemaVersionWarnings at h
  split at h
  · rw [List.mem_singleton.mp h]
    rfl
  · split at h
    · rw [List.mem_singleton.mp h]
      decide +kernel
    · cases h

theorem ruleWarning_eq_some_iff {rule : FieldRule} {issue : JsonDecodeIssue} :
    ruleWarning j rule = some issue ↔
      ∃ value, j.member? (ascii rule.name) = some value ∧ matchesType value rule.type = false ∧
        issue = typeMismatch rule.name (fieldTypeName rule.type) value := by
  unfold ruleWarning
  cases j.member? (ascii rule.name) with
  | none => simp
  | some value =>
    by_cases hmatches : matchesType value rule.type = true
    · simp [hmatches]
    · simp only [if_neg hmatches, Option.some_inj]
      constructor
      · rintro rfl
        exact ⟨value, rfl, by simpa using hmatches, rfl⟩
      · rintro ⟨value', rfl, -, rfl⟩
        rfl

/-- The issues about a member come from rules of its name. -/
theorem issue_iff {field : FieldRule} (hfield : field ∈ schema.decodedFields) {value : Json}
    (hvalue : j.member? (ascii field.name) = some value) :
    (∃ issue ∈ (schema.diagnostics j).warnings ++ (schema.diagnostics j).errors,
      issue.path = ascii "$." ++ ascii field.name) ↔
      ∃ rule ∈ schema.rules, ascii rule.name = ascii field.name ∧
        matchesType value rule.type = false := by
  have hobject : j.isObject = true := by
    by_contra hnot
    rw [Json.member?_of_not_isObject (by simpa using hnot)] at hvalue
    cases hvalue
  have hversion := schema.rules_agree.2.2.1 field (Schema.mem_encodedFields hfield)
  simp only [diagnostics_of_isObject schema hobject, List.mem_append, List.mem_filterMap,
    ruleWarning_eq_some_iff]
  constructor
  · rintro ⟨issue, (hissue | ⟨rule, hrule, value', hvalue', hmismatch, rfl⟩) | hissue, hpath⟩
    · rw [path_schemaVersionWarnings hissue] at hpath
      exact absurd (List.append_cancel_left hpath).symm hversion
    · have hname : ascii rule.name = ascii field.name := List.append_cancel_left hpath
      rw [hname, hvalue] at hvalue'
      obtain rfl := Option.some_inj.mp hvalue'
      exact ⟨rule, hrule, hname, hmismatch⟩
    · split at hissue
      · next hresults =>
        obtain ⟨rfl, harray⟩ := hresults
        obtain rfl := List.mem_singleton.mp hfield
        rw [jsonFieldValue, hvalue] at harray
        exact ⟨⟨"results", .array⟩, by decide +kernel, rfl, harray⟩
      · cases hissue
  · rintro ⟨rule, hrule, hname, hmismatch⟩
    refine ⟨typeMismatch rule.name (fieldTypeName rule.type) value,
      .inl (.inr ⟨rule, hrule, value, ?_, hmismatch, rfl⟩), ?_⟩
    · rw [hname, hvalue]
    · rw [← hname]
      rfl

end Loss

/-- Diagnostics name every lost member, unless it has no rule or one of another type. When there are
no issues, all members have been taken on the same condition. -/
theorem diagnostics_complete_iff (schema : Schema) (j : Json) :
    (NoSilentLoss schema j ↔ ¬LosesSilently schema j) ∧
      ((schema.diagnostics j).IsClean → (AllTaken schema j ↔ ¬LosesSilently schema j)) := by
  have hloss : NoSilentLoss schema j ↔ ¬LosesSilently schema j := by
    obtain ⟨hunchecked, hchecked, -, herror⟩ := rules_cover schema
    constructor
    · rintro h (⟨field, hfield, value, hvalue, hmismatch⟩ | ⟨rfl, s, hvalue⟩)
      · obtain ⟨hdecoded, hrules⟩ := hunchecked field hfield
        obtain ⟨rule, hrule, hname, -⟩ := (issue_iff hdecoded hvalue).mp
          (h _ value (reads_of_mem hdecoded) hvalue ((ignores_iff hdecoded value).mpr hmismatch))
        exact hrules rule hrule hname
      · have hdecoded : ⟨"error", .object⟩ ∈ Schema.consolidationResult.decodedFields := by
          simp [Schema.decodedFields]
        obtain ⟨rule, hrule, hname, hmismatch⟩ := (issue_iff hdecoded hvalue).mp
          (h _ _ (reads_of_mem hdecoded) hvalue ((ignores_iff hdecoded _).mpr rfl))
        rw [herror rule hrule rfl hname] at hmismatch
        cases hmismatch
    · rintro h key value hreads hvalue hignores
      obtain ⟨field, hfield, rfl⟩ := exists_field_of_reads hreads
      have hmismatch := (ignores_iff hfield value).mp hignores
      refine (issue_iff hfield hvalue).mpr ?_
      rcases hchecked field hfield with hunruled | hrule | ⟨rfl, rfl⟩
      · exact absurd (.inl ⟨field, hunruled, value, hvalue, hmismatch⟩) h
      · exact ⟨field, hrule, rfl, hmismatch⟩
      · refine ⟨⟨"error", .string⟩, by decide +kernel, rfl, ?_⟩
        by_contra hstring
        cases value with
        | string s => exact h (.inr ⟨rfl, s, hvalue⟩)
        | _ => exact hstring rfl
  refine ⟨hloss, fun hclean => ?_⟩
  rw [← hloss]
  constructor
  · rintro h key value hreads hvalue hignores
    exact absurd hignores (h key value hreads hvalue)
  · rintro h key value hreads hvalue hignores
    obtain ⟨issue, hissue, -⟩ := h key value hreads hvalue hignores
    rw [hclean.1, hclean.2] at hissue
    cases hissue

/-- The list of sessions to exclude, sent as a string, is dropped without an issue. -/
theorem diagnostics_not_complete :
    ∃ j : Json, j.isObject = true ∧
      Reads Schema.consolidationRequest.decode (ascii "excludedSessionIds") ∧
      (∃ s, j.member? (ascii "excludedSessionIds") = some (.string s)) ∧
      (consolidationRequestFromJson j).excludedSessionIds = [] ∧
      (Schema.consolidationRequest.diagnostics j).IsClean ∧
      ¬NoSilentLoss .consolidationRequest j := by
  have hfield : ⟨"excludedSessionIds", .array⟩ ∈ Schema.consolidationRequest.decodedFields := by
    simp [Schema.decodedFields]
  have hclean : (Schema.consolidationRequest.diagnostics
      (.object [(ascii "excludedSessionIds", .string (ascii "s1"))])).IsClean :=
    ⟨by decide +kernel, by decide +kernel⟩
  have hreads := reads_of_mem hfield
  have hmember : (Json.object [(ascii "excludedSessionIds", .string (ascii "s1"))]).member?
      (ascii "excludedSessionIds") = some (.string (ascii "s1")) := by
    simp [Json.member?]
  refine ⟨.object [(ascii "excludedSessionIds", .string (ascii "s1"))], rfl, hreads,
    ⟨ascii "s1", hmember⟩, by decide +kernel, hclean, fun h => ?_⟩
  have hignores := (ignores_iff hfield (.string (ascii "s1"))).mpr rfl
  obtain ⟨issue, hissue, -⟩ := h _ _ hreads hmember hignores
  rw [hclean.1, hclean.2] at hissue
  cases hissue

end AgentMemory
