import AgentMemory.Model.Codec

/-! # The codecs give back what they were given

A decoder looks up members by name. An encoder's object has each of its members, whatever the
order in which it was built, so that each field is a lookup in the list of members it wrote. -/

namespace AgentMemory

/-! ## Members of objects -/

theorem find?_insertMember (key key' : Text) (value : Json) (members : List (Text × Json)) :
    (Json.insertMember key value members).find? (fun m => m.1 == key') =
      if key = key' then some (key, value) else members.find? fun m => m.1 == key' := by
  induction members with
  | nil => by_cases h : key = key' <;> simp [Json.insertMember, h]
  | cons m rest ih =>
    obtain ⟨k, v⟩ := m
    unfold Json.insertMember
    by_cases hk : k = key
    · subst hk
      by_cases h : k = key' <;> simp [h]
    · rw [if_neg hk]
      by_cases hlt : key < k
      · rw [if_pos hlt]
        by_cases h : key = key' <;> simp [h]
      · rw [if_neg hlt]
        by_cases h : key = key'
        · subst h
          simp [hk, ih]
        · by_cases hk' : k = key' <;> simp [h, hk', ih]

namespace Json

@[simp] theorem isObject_set (j : Json) (key : Text) (value : Json) :
    (j.set key value).isObject = j.isObject := by
  cases j <;> rfl

theorem member?_set {j : Json} (hobject : j.isObject = true) (key key' : Text) (value : Json) :
    (j.set key value).member? key' = if key = key' then some value else j.member? key' := by
  cases j with
  | object members =>
    simp only [set, member?, find?_insertMember]
    split <;> rfl
  | _ => cases hobject

theorem member?_of_not_isObject {json : Json} (h : json.isObject = false) (key : Text) :
    json.member? key = none := by
  cases json with
  | object members => cases h
  | _ => rfl

/-- The member is a string if it is there. -/
def TextOrAbsent (json : Json) (key : String) : Prop :=
  ∀ value, json.member? (ascii key) = some value → ∃ s, value = .string s

theorem textOrAbsent_of_not_isObject {json : Json} (h : json.isObject = false) (key : String) :
    json.TextOrAbsent key := by
  intro value hvalue
  rw [member?_of_not_isObject h] at hvalue
  cases hvalue

theorem ofMembers_concat (members : List (String × Json)) (m : String × Json) :
    ofMembers (members ++ [m]) = (ofMembers members).set (ascii m.1) m.2 := by
  simp [ofMembers]

@[simp] theorem isObject_ofMembers (members : List (String × Json)) :
    (ofMembers members).isObject = true := by
  induction members using List.reverseRecOn with
  | nil => rfl
  | append_singleton rest m ih => rw [ofMembers_concat, isObject_set, ih]

/-- Of members with one name, the last is kept. -/
theorem member?_ofMembers (members : List (String × Json)) (key : Text) :
    (ofMembers members).member? key =
      (members.reverse.find? fun m => ascii m.1 == key).map Prod.snd := by
  induction members using List.reverseRecOn with
  | nil => rfl
  | append_singleton rest m ih =>
    rw [ofMembers_concat, member?_set (isObject_ofMembers rest), ih]
    by_cases h : ascii m.1 = key <;> simp [h]

end Json

@[simp] theorem isObject_withSchema (j : Json) : (withSchema j).isObject = j.isObject := by
  unfold withSchema
  split <;> simp

theorem member?_withSchema {j : Json} (hobject : j.isObject = true) (key : Text) :
    (withSchema j).member? key =
      if ascii "schemaVersion" = key then some (.integer 1) else j.member? key := by
  rw [withSchema, if_pos hobject, Json.member?_set hobject]

/-! ## Fields -/

@[simp] theorem jsonObject_of_isObject {value : Json} (h : value.isObject = true) :
    jsonObject value = value :=
  if_pos h

@[simp] theorem stringVectorFromJson_ofStrings (strings : List Text) :
    stringVectorFromJson (.ofStrings strings) = strings := by
  induction strings with
  | nil => rfl
  | cons s rest ih =>
    simp only [stringVectorFromJson, Json.ofStrings, List.map_cons, List.filterMap_cons] at ih ⊢
    rw [ih]

theorem isInt_iff {n : ℤ} : isInt n = true ↔ -2 ^ 31 ≤ n ∧ n < 2 ^ 31 := by
  simp [isInt]

theorem isInt_toInt (n : Int32) : isInt n.toInt = true :=
  isInt_iff.mpr ⟨n.le_toInt, n.toInt_lt⟩

/-- What becomes of an object becomes of each object of a list. -/
theorem decodeObjects_map {α : Type} {encode : α → Json} {decode : Json → α} {f : α → α}
    {values : List α} (hobject : ∀ x, (encode x).isObject = true)
    (h : ∀ x ∈ values, decode (encode x) = f x) :
    decodeObjects decode (.array (values.map encode)) = values.map f := by
  have hfilter : (values.map encode).filter Json.isObject = values.map encode := by
    refine List.filter_eq_self.mpr fun j hj => ?_
    obtain ⟨x, -, rfl⟩ := List.mem_map.mp hj
    exact hobject x
  rw [decodeObjects, hfilter, List.map_map]
  exact List.map_congr_left h

theorem decodeObjects_map_id {α : Type} {encode : α → Json} {decode : Json → α} {values : List α}
    (hobject : ∀ x, (encode x).isObject = true) (h : ∀ x ∈ values, decode (encode x) = x) :
    decodeObjects decode (.array (values.map encode)) = values :=
  (decodeObjects_map hobject h).trans (List.map_id values)

/-! ## Round trips -/

theorem errorFromJson_errorToJson {error : MemoryError} (h : error.code ≠ [] ∨ error = {}) :
    errorFromJson (errorToJson error) = error := by
  rcases h with hcode | rfl
  · have hnonempty : error.code.isEmpty = false := by simpa using hcode
    simp +decide [errorFromJson, errorToJson, hnonempty, jsonString, jsonBool,
      Json.member?_ofMembers]
  · rfl

theorem messageFromJson_messageToJson (message : MemoryMessage) :
    messageFromJson (messageToJson message) = message := by
  simp +decide [messageFromJson, messageToJson, jsonString, Json.member?_ofMembers]

theorem payloadRefFromJson_payloadRefToJson {payload : MemoryPayloadRef}
    (hchars : isInt payload.originalChars = true) (hmetadata : payload.metadata.isObject = true) :
    payloadRefFromJson (payloadRefToJson payload) = payload := by
  simp +decide [payloadRefFromJson, payloadRefToJson, jsonString, jsonInt, jsonFieldValue,
    Json.member?_ofMembers, hchars, hmetadata]

theorem statsFromJson_statsToJson {stats : MemoryStats} (hmetadata : stats.metadata.isObject = true) :
    statsFromJson (statsToJson stats) = stats := by
  simp +decide [statsFromJson, statsToJson, jsonInt, jsonFieldValue, member?_withSchema,
    Json.member?_ofMembers, isInt_toInt, hmetadata]

theorem contextRequestFromJson_contextRequestToJson {request : MemoryContextRequest}
    (hmetadata : request.metadata.isObject = true) :
    contextRequestFromJson (contextRequestToJson request) = request := by
  simp +decide [contextRequestFromJson, contextRequestToJson, jsonString, jsonInt, jsonFieldValue,
    member?_withSchema, Json.member?_ofMembers, isInt_toInt, hmetadata]

/-- An event comes back as it was, but its type only if it is one of the enumerators. -/
theorem eventFromJson_eventToJson {event : MemoryEvent} (hcursor : event.storeCursor = [])
    (htype : isInt event.type.value = true) (hmetadata : event.metadata.isObject = true) :
    eventFromJson (eventToJson event) =
      { event with type := if event.type.isEnumerator then event.type else .sessionStarted } := by
  simp +decide [eventFromJson, eventToJson, eventTypeFromJson, jsonString, jsonInt, jsonFieldValue,
    member?_withSchema, Json.member?_ofMembers, htype, hmetadata, hcursor]

theorem payloadWriteRequestFromJson_payloadWriteRequestToJson {request : MemoryPayloadWriteRequest}
    (hmetadata : request.metadata.isObject = true) :
    payloadWriteRequestFromJson (payloadWriteRequestToJson request) = request := by
  simp +decide [payloadWriteRequestFromJson, payloadWriteRequestToJson, jsonString, jsonFieldValue,
    member?_withSchema, Json.member?_ofMembers, hmetadata]

theorem payloadWriteResultFromJson_payloadWriteResultToJson {result : MemoryPayloadWriteResult}
    (defaultReplacementContent : Text) (hchars : isInt result.payload.originalChars = true)
    (hmetadata : result.payload.metadata.isObject = true)
    (herror : result.error.code ≠ [] ∨ result.error = {}) :
    payloadWriteResultFromJson (payloadWriteResultToJson result) defaultReplacementContent =
      result := by
  have hpayload := payloadRefFromJson_payloadRefToJson hchars hmetadata
  have hobject : (payloadRefToJson result.payload).isObject = true := Json.isObject_ofMembers _
  simp +decide [payloadWriteResultFromJson, payloadWriteResultToJson, jsonString, jsonBool,
    jsonFieldValue, member?_withSchema, Json.member?_ofMembers, hobject, hpayload,
    errorFromJson_errorToJson herror]

theorem consolidationRequestFromJson_consolidationRequestToJson
    {request : MemoryConsolidationRequest} (hmetadata : request.metadata.isObject = true) :
    consolidationRequestFromJson (consolidationRequestToJson request) = request := by
  simp +decide [consolidationRequestFromJson, consolidationRequestToJson, jsonString, jsonInt,
    jsonBool, jsonFieldValue, Json.member?_set, member?_withSchema, Json.member?_ofMembers,
    isInt_toInt, hmetadata]

theorem consolidationResultFromJson_consolidationResultToJson {result : MemoryConsolidationResult}
    (hprocessed : isInt result.processedEvents = true)
    (hsummaries : isInt result.savedSummaries = true)
    (hentities : isInt result.savedEntities = true)
    (hrelations : isInt result.savedRelations = true)
    (herror : result.error.code ≠ [] ∨ result.error = {}) :
    consolidationResultFromJson (consolidationResultToJson result) = result := by
  simp +decide [consolidationResultFromJson, consolidationResultToJson, jsonString, jsonInt,
    jsonBool, jsonFieldValue, member?_withSchema, Json.member?_ofMembers, hprocessed, hsummaries,
    hentities, hrelations, errorFromJson_errorToJson herror]

theorem searchRequestFromJson_searchRequestToJson {request : MemorySearchRequest}
    (hmetadata : request.metadata.isObject = true) :
    searchRequestFromJson (searchRequestToJson request) = request := by
  simp +decide [searchRequestFromJson, searchRequestToJson, jsonString, jsonInt, jsonFieldValue,
    member?_withSchema, Json.member?_ofMembers, isInt_toInt, hmetadata]

section Floats

variable (printFloat : ℚ → FloatText)

theorem searchHitFromJson_searchHitToJson {hit : MemorySearchHit}
    (hmetadata : hit.metadata.isObject = true) :
    searchHitFromJson (searchHitToJson printFloat hit) = hit := by
  simp +decide [searchHitFromJson, searchHitToJson, floatToJson, jsonString, jsonFloat,
    jsonFieldValue, Json.member?_ofMembers, hmetadata]

theorem searchResultsFromJson_searchResponseToJson {hits : List MemorySearchHit} (ok : Bool)
    (hmetadata : ∀ hit ∈ hits, hit.metadata.isObject = true) :
    searchResultsFromJson (searchResponseToJson printFloat hits ok) = hits := by
  have hresults : jsonFieldValue (searchResponseToJson printFloat hits ok) "results" =
      .array (hits.map (searchHitToJson printFloat)) := by
    simp +decide [searchResponseToJson, jsonFieldValue, member?_withSchema, Json.member?_ofMembers]
  rw [searchResultsFromJson, hresults]
  exact decodeObjects_map_id (fun _ => Json.isObject_ofMembers _)
    fun hit hhit => searchHitFromJson_searchHitToJson printFloat (hmetadata hit hhit)

end Floats

/-! ## All codecs of requests and results -/

/-- An error that is empty as a whole, or has a code. -/
def MemoryError.IsWhole (error : MemoryError) : Prop :=
  error.code ≠ [] ∨ error = {}

/-- Decoding undoes encoding, for events of the given types. -/
structure CodecsRoundTrip (printFloat : ℚ → FloatText) (admits : MemoryEventType → Prop) :
    Prop where
  event : ∀ event : MemoryEvent, event.storeCursor = [] → admits event.type →
    isInt event.type.value = true → event.metadata.isObject = true →
      eventFromJson (eventToJson event) = event
  message : ∀ message, messageFromJson (messageToJson message) = message
  payloadRef : ∀ payload : MemoryPayloadRef, isInt payload.originalChars = true →
    payload.metadata.isObject = true → payloadRefFromJson (payloadRefToJson payload) = payload
  contextRequest : ∀ request : MemoryContextRequest, request.metadata.isObject = true →
    contextRequestFromJson (contextRequestToJson request) = request
  payloadWriteRequest : ∀ request : MemoryPayloadWriteRequest, request.metadata.isObject = true →
    payloadWriteRequestFromJson (payloadWriteRequestToJson request) = request
  payloadWriteResult : ∀ (result : MemoryPayloadWriteResult) defaultReplacementContent,
    isInt result.payload.originalChars = true → result.payload.metadata.isObject = true →
      result.error.IsWhole →
        payloadWriteResultFromJson (payloadWriteResultToJson result) defaultReplacementContent =
          result
  consolidationResult : ∀ result : MemoryConsolidationResult,
    isInt result.processedEvents = true → isInt result.savedSummaries = true →
      isInt result.savedEntities = true → isInt result.savedRelations = true →
        result.error.IsWhole →
          consolidationResultFromJson (consolidationResultToJson result) = result
  consolidationRequest : ∀ request : MemoryConsolidationRequest,
    request.metadata.isObject = true →
      consolidationRequestFromJson (consolidationRequestToJson request) = request
  searchRequest : ∀ request : MemorySearchRequest, request.metadata.isObject = true →
    searchRequestFromJson (searchRequestToJson request) = request
  stats : ∀ stats : MemoryStats, stats.metadata.isObject = true →
    statsFromJson (statsToJson stats) = stats
  searchHits : ∀ (hits : List MemorySearchHit) ok, (∀ hit ∈ hits, hit.metadata.isObject = true) →
    searchResultsFromJson (searchResponseToJson printFloat hits ok) = hits

theorem codecs_roundTrip (printFloat : ℚ → FloatText) :
    CodecsRoundTrip printFloat fun type => type.isEnumerator = true where
  event event hcursor henumerator htype hmetadata := by
    rw [eventFromJson_eventToJson hcursor htype hmetadata, if_pos henumerator]
  message := messageFromJson_messageToJson
  payloadRef _ := payloadRefFromJson_payloadRefToJson
  contextRequest _ := contextRequestFromJson_contextRequestToJson
  payloadWriteRequest _ := payloadWriteRequestFromJson_payloadWriteRequestToJson
  payloadWriteResult _ := payloadWriteResultFromJson_payloadWriteResultToJson
  consolidationResult _ := consolidationResultFromJson_consolidationResultToJson
  consolidationRequest _ := consolidationRequestFromJson_consolidationRequestToJson
  searchRequest _ := searchRequestFromJson_searchRequestToJson
  stats _ := statsFromJson_statsToJson
  searchHits _ := searchResultsFromJson_searchResponseToJson printFloat

section Values

def finishedCall : MemoryEvent where
  agentId := ascii "alice"
  sessionId := ascii "s"
  type := .toolCallFinished
  role := ascii "tool"
  content := ascii "3 hits"
  toolCallId := ascii "call-1"
  toolName := ascii "search"
  metadata := .object [(ascii "turn", .integer (-1))]

def refusedWrite : MemoryPayloadWriteResult where
  succeeded := false
  payload := { uri := ascii "payload://1", originalChars := 9000 }
  replacementContent := ascii "too long"
  error := { code := ascii "disk_full", message := ascii "no space left" }

def emptiedBatch : MemoryConsolidationResult where
  processedEvents := 2
  savedEntities := 1

def teaHit : MemorySearchHit where
  id := ascii "e1"
  type := ascii "entity"
  score := 1 / 2
  metadata := .object [(ascii "active", .boolean true)]

/-- An event with metadata, a result with an error and one without, and hits with a score. -/
theorem codecs_roundTrip_values :
    eventFromJson (eventToJson finishedCall) = finishedCall ∧
      payloadWriteResultFromJson (payloadWriteResultToJson refusedWrite) (ascii "gone") =
        refusedWrite ∧
      consolidationResultFromJson (consolidationResultToJson emptiedBatch) = emptiedBatch ∧
      searchResultsFromJson (searchResponseToJson (fun _ => .empty) [teaHit, {}] true) =
        [teaHit, {}] := by
  have hcodecs := codecs_roundTrip fun _ => .empty
  refine ⟨hcodecs.event _ rfl rfl (by decide) rfl,
    hcodecs.payloadWriteResult _ _ (by decide) rfl (.inl (by decide)),
    hcodecs.consolidationResult _ (by decide) (by decide) (by decide) (by decide) (.inr rfl), ?_⟩
  refine hcodecs.searchHits _ _ ?_
  simp only [List.forall_mem_cons]
  exact ⟨rfl, rfl, by simp⟩

end Values

/-- An event whose type is none of the enumerators is decoded as the start of a session. -/
theorem codecs_not_roundTrip :
    ¬CodecsRoundTrip (fun _ => ⟨[], by simp⟩) fun _ => True := by
  intro h
  have hevent := h.event { type := ⟨99⟩ } rfl trivial (by decide) rfl
  rw [eventFromJson_eventToJson rfl (by decide) rfl] at hevent
  exact absurd (congrArg (fun event => event.type.value) hevent) (by decide)

end AgentMemory
