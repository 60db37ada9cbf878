import AgentMemory.Model.Store

/-! # Consolidation: batches, extraction and the write phase -/

namespace AgentMemory

open Foundation

structure LongTermMemoryBatch where
  events : List MemoryEvent := []
  sourceRefs : List Text := []

structure LongTermMemoryUpdate where
  entities : List MemoryEntity := []
  relations : List MemoryRelation := []
  profileSummaries : List Text := []
  topicSummaries : List Text := []

/-- `hasUpdate`. -/
def LongTermMemoryUpdate.isNonempty (update : LongTermMemoryUpdate) : Bool :=
  !update.topicSummaries.isEmpty || !update.profileSummaries.isEmpty ||
    !update.entities.isEmpty || !update.relations.isEmpty

/-- `LongTermMemoryProcessor::Process`. -/
abbrev LongTermMemoryProcessor := LongTermMemoryBatch → LongTermMemoryUpdate

/-! ## The batch builder -/

structure ConsolidationBatchBuildResult where
  batch : LongTermMemoryBatch := {}
  sessionId : Text := []
  sessionSummary : Text := []
  sessionSourceRefs : List Text := []
  nextCursor : Text := []

/-- The three `continue` tests of the builder's loop, passed. -/
def MemoryConsolidationRequest.selects (request : MemoryConsolidationRequest)
    (event : MemoryEvent) : Bool :=
  (request.sessionId.isEmpty || event.sessionId == request.sessionId) &&
    !request.excludedSessionIds.contains event.sessionId &&
    event.type == .messageAppended

def eventCursor (event : MemoryEvent) (i : ℕ) : Text :=
  if event.storeCursor.isEmpty then decimal (i + 1) else event.storeCursor

/-- The loop of `Build` at index `i` with `count` events taken. The cursor is set before any
test, so it names the last event looked at. -/
def buildLoop (request : MemoryConsolidationRequest) (limit : ℤ) :
    ℕ → ℤ → ConsolidationBatchBuildResult → List MemoryEvent → ConsolidationBatchBuildResult
  | _, _, result, [] => result
  | i, count, result, event :: rest =>
      let cursor := eventCursor event i
      let result := { result with nextCursor := cursor }
      if request.selects event then
        let sourceRef := ascii "session://" ++ result.sessionId ++ ascii "#event:" ++ cursor
        let result := { result with
          sessionSummary := result.sessionSummary ++ event.role ++ ascii ": " ++ event.content ++
            ascii "\n"
          batch := {
            events := result.batch.events ++ [event]
            sourceRefs := result.batch.sourceRefs ++ [sourceRef] } }
        if 0 < limit && limit ≤ count + 1 then result
        else buildLoop request limit (i + 1) (count + 1) result rest
      else buildLoop request limit (i + 1) count result rest

/-- `ConsolidationBatchBuilder::Build`. -/
def build (request : MemoryConsolidationRequest) (events : List MemoryEvent) :
    ConsolidationBatchBuildResult :=
  let result : ConsolidationBatchBuildResult := { sessionId := request.sessionId }
  if !request.forceReprocess && request.maxEvents.toInt ≤ 0 then result
  else
    let limit := if request.forceReprocess && request.maxEvents.toInt ≤ 0 then
        toInt32 events.length
      else request.maxEvents.toInt
    let result := buildLoop request limit 0 0 result events
    { result with sessionSourceRefs := [ascii "session://" ++ result.sessionId] }

/-! ## Rule-based extraction -/

def containsPreferenceSignal (text : Text) : Bool :=
  ["i like", "i prefer", "i want", "please", "always", "never"].any fun signal =>
    contains (toLower text) (ascii signal)

def topicPatterns : List (String × String) :=
  [("project", "project"), ("repository", "project"), ("code", "coding"), ("api", "api"),
    ("test", "testing"), ("deploy", "deployment"), ("database", "database"),
    ("config", "configuration"), ("security", "security"), ("ui", "ui"), ("frontend", "ui"),
    ("backend", "backend"), ("memory", "memory_system")]

/-- The topic of the first pattern that occurs in the text; empty when none does. -/
def detectTopic (text : Text) : Text :=
  match topicPatterns.find? fun pattern => contains (toLower text) (ascii pattern.1) with
  | some pattern => ascii pattern.2
  | none => []

structure RuleState where
  update : LongTermMemoryUpdate := {}
  seenTopics : List Text := []
  hasPreference : Bool := false

def topicEntity (event : MemoryEvent) (topic topicSummary : Text) (sourceRefs : List Text) :
    MemoryEntity where
  id := ascii "entity:topic." ++ topic
  agentId := event.agentId
  entityType := ascii "topic"
  name := topic ++ ascii " topic"
  summary := topicSummary
  confidence := 1 / 2
  sourceRefs := sourceRefs

/-- `0.6F` is the single-precision number nearest to 0.6. -/
def preferenceEntity (event : MemoryEvent) (sourceRefs : List Text) : MemoryEntity where
  id := ascii "entity:preference.user"
  agentId := event.agentId
  entityType := ascii "preference"
  name := ascii "User preference"
  summary := ascii "User expressed preferences in session"
  confidence := 5033165 / 8388608
  sourceRefs := sourceRefs

def preferenceRelation (event : MemoryEvent) (sourceRefs : List Text) : MemoryRelation where
  agentId := event.agentId
  fromEntityId := ascii "entity:user"
  relationType := ascii "has_preference"
  toEntityId := ascii "entity:preference.user"
  confidence := 1 / 2
  sourceRefs := sourceRefs

def ruleTopic (sourceRefs : List Text) (event : MemoryEvent) (state : RuleState) : RuleState :=
  let topic := detectTopic event.content
  if !topic.isEmpty && !state.seenTopics.contains topic then
    let topicSummary := ascii "Discussed topic: " ++ topic
    let entities := if topic = ascii "memory_system" then []
      else [topicEntity event topic topicSummary sourceRefs]
    { state with
      seenTopics := topic :: state.seenTopics
      update := { state.update with
        topicSummaries := state.update.topicSummaries ++ [topicSummary]
        entities := state.update.entities ++ entities } }
  else state

def rulePreference (sourceRefs : List Text) (event : MemoryEvent) (state : RuleState) :
    RuleState :=
  if !state.hasPreference && event.role == ascii "user" &&
      containsPreferenceSignal event.content then
    { state with
      hasPreference := true
      update := { state.update with
        entities := state.update.entities ++ [preferenceEntity event sourceRefs]
        relations := state.update.relations ++ [preferenceRelation event sourceRefs] } }
  else state

/-- `RuleBasedLongTermMemoryProcessor::Process`. -/
def ruleBasedProcess : LongTermMemoryProcessor := fun batch =>
  (batch.events.foldl (fun state event =>
    if event.type = .messageAppended then
      rulePreference batch.sourceRefs event (ruleTopic batch.sourceRefs event state)
    else state) {}).update

/-! ## Extraction by a model -/

def promptHeader : String :=
  "Extract structured long-term memory from the conversation events below.\n" ++
  "Return ONLY valid JSON with this exact schema (no markdown fences, no explanation):\n\n" ++
  "\x7b\n" ++
  "  \"topicSummaries\": [\"brief topic summary 1\", \"brief topic summary 2\"],\n" ++
  "  \"profileSummaries\": [\"user profile insight 1\"],\n" ++
  "  \"entities\": [\n" ++
  "    \x7b\n" ++
  "      \"id\": \"entity:unique.id.here\",\n" ++
  "      \"entityType\": \"preference|topic|project|task|file|user|style\",\n" ++
  "      \"name\": \"short name\",\n" ++
  "      \"summary\": \"one-line summary\",\n" ++
  "      \"confidence\": 0.0-1.0,\n" ++
  "      \"sourceRefs\": [\"session://session-id#event:1\"]\n" ++
  "    \x7d\n" ++
  "  ],\n" ++
  "  \"relations\": [\n" ++
  "    \x7b\n" ++
  "      \"fromEntityId\": \"entity:user\",\n" ++
  "      \"relationType\": \"prefers|works_on|mentions|related_to|supersedes|contradicts\",\n" ++
  "      \"toEntityId\": \"entity:...\",\n" ++
  "      \"confidence\": 0.0-1.0,\n" ++
  "      \"sourceRefs\": [\"session://session-id#event:1\"]\n" ++
  "    \x7d\n" ++
  "  ]\n" ++
  "\x7d\n\n" ++
  "Use \"supersedes\" when new information replaces an older entity.\n" ++
  "Use \"contradicts\" when information conflicts with a previous entity.\n" ++
  "Use \"prefers\" for user preferences.\n\n" ++
  "Conversation events:\n"

/-- The line of the `i`-th event in the prompt. -/
def promptLine (batch : LongTermMemoryBatch) (event : MemoryEvent × ℕ) : Text :=
  let sourceRef := batch.sourceRefs[event.2]?.getD (ascii "event://" ++ decimal (event.2 + 1))
  sourceRef ++ ascii " [" ++ event.1.role ++ ascii "]: " ++ event.1.content ++ ascii "\n"

def buildPrompt (batch : LongTermMemoryBatch) : Text :=
  ascii promptHeader ++ (batch.events.zipIdx.map (promptLine batch)).flatten

/-- `item.contains(key) && item[key].is_string() ? item[key] : fallback`. -/
def Json.stringOr (item : Json) (key : String) (fallback : Text) : Text :=
  match item.member? (ascii key) with
  | some (.string s) => s
  | _ => fallback

/-- The strings of a member that is an array; other elements are passed over. -/
def Json.strings (item : Json) (key : String) : List Text :=
  match item.member? (ascii key) with
  | some (.array elements) => elements.filterMap fun
      | .string s => some s
      | _ => none
  | _ => []

/-- The `confidence` member if it is a number, taken exactly, and else `0.5F`. -/
def Json.confidence (item : Json) : ℚ :=
  match item.member? (ascii "confidence") with
  | some (.integer n) => n
  | some (.unsigned n) => n
  | some (.float value _) => value
  | _ => 1 / 2

/-- The objects among the elements of a member that is an array. -/
def Json.objects (item : Json) (key : String) : List Json :=
  match item.member? (ascii key) with
  | some (.array elements) => elements.filter Json.isObject
  | _ => []

/-- The model's own source refs if it gave any, else those of the batch. -/
def Json.sourceRefsOr (item : Json) (sourceRefs : List Text) : List Text :=
  let refs := item.strings "sourceRefs"
  if refs.isEmpty then sourceRefs else refs

def parseEntity (sourceRefs : List Text) (agentId : Text) (item : Json × ℕ) : MemoryEntity where
  id := item.1.stringOr "id" (ascii "entity:llm." ++ decimal item.2)
  agentId := agentId
  entityType := item.1.stringOr "entityType" (ascii "unknown")
  name := item.1.stringOr "name" []
  summary := item.1.stringOr "summary" []
  confidence := item.1.confidence
  sourceRefs := item.1.sourceRefsOr sourceRefs

def parseRelation (sourceRefs : List Text) (agentId : Text) (item : Json) : MemoryRelation where
  agentId := agentId
  fromEntityId := item.stringOr "fromEntityId" []
  relationType := item.stringOr "relationType" (ascii "related_to")
  toEntityId := item.stringOr "toEntityId" []
  confidence := item.confidence
  sourceRefs := item.sourceRefsOr sourceRefs

/-- `LlmLongTermMemoryProcessor::ParseResponse`. -/
def parseResponse (host : Host) (jsonStr : Text) (sourceRefs : List Text) (agentId : Text) :
    LongTermMemoryUpdate :=
  match host.parseJson jsonStr with
  | some (.object members) =>
      let json := Json.object members
      { topicSummaries := json.strings "topicSummaries"
        profileSummaries := json.strings "profileSummaries"
        entities := (json.objects "entities").zipIdx.map (parseEntity sourceRefs agentId)
        relations := (json.objects "relations").map (parseRelation sourceRefs agentId) }
  | _ => {}

/-- The text from its first opening to its last closing brace, if these are in order. -/
def unwrap (text : Text) : Text :=
  match text.findIdx? (· == 0x7B), text.reverse.findIdx? (· == 0x7D) with
  | some start, some back =>
      let stop := text.length - 1 - back
      if start < stop then (text.drop start).take (stop - start + 1) else text
  | _, _ => text

/-- `LlmLongTermMemoryProcessor::Process` with a model. -/
def llmProcess (host : Host) (model : MemoryModelClient) (batch : LongTermMemoryBatch) :
    Except CxxException LongTermMemoryUpdate := do
  let invokeResult ← model (buildPrompt batch)
  if invokeResult.ok then
    return parseResponse host (unwrap invokeResult.text) batch.sourceRefs
      ((batch.events.head?.map (·.agentId)).getD [])
  else return {}

/-! ## The update writer -/

structure MemoryUpdateWriteResult where
  succeeded : Bool := true
  savedSummaries : ℤ := 0
  savedEntities : ℤ := 0
  savedRelations : ℤ := 0
  error : MemoryError := {}
deriving DecidableEq

def failedWrite (operation : MemoryOperationResult) : MemoryUpdateWriteResult :=
  { succeeded := false, error := operation.error }

/-- A statement of `SaveUpdate` either goes on with the result so far or returns from it. -/
abbrev WriteStep := Except MemoryUpdateWriteResult MemoryUpdateWriteResult

/-- `auto operation = ...; if (!operation) { return FailedWrite(operation); }`, after which the
result is `counted`. -/
def save (op : TransactionOp) (counted : MemoryUpdateWriteResult) : Work WriteStep := do
  let operation ← transaction op
  if operation.succeeded then return .ok counted else return .error (failedWrite operation)

def forEach {α : Type} (body : α → MemoryUpdateWriteResult → Work WriteStep) :
    List α → MemoryUpdateWriteResult → Work WriteStep
  | [], result => return .ok result
  | item :: rest, result => do
      match ← body item result with
      | .ok result => forEach body rest result
      | .error returned => return .error returned

/-- `MemoryUpdateWriter::SaveSessionSummary`. -/
def saveSessionSummary (agentId sessionId summary : Text) (sourceRefs : List Text) :
    Work MemoryUpdateWriteResult := do
  let operation ← transaction (.saveSummary agentId sessionId (ascii "session")
    (ascii "conversation") summary (1 / 2) sourceRefs)
  if operation.succeeded then return { savedSummaries := 1 }
  else return failedWrite operation

def withAgent (agentId own : Text) : Text :=
  if own.isEmpty then agentId else own

def saveTopicSummary (agentId sessionId : Text) (sourceRefs : List Text) (topicSummary : Text)
    (result : MemoryUpdateWriteResult) : Work WriteStep :=
  save (.saveSummary agentId sessionId (ascii "topic") (ascii "auto") topicSummary (1 / 2)
    sourceRefs) { result with savedSummaries := result.savedSummaries + 1 }

def saveProfileSummary (agentId sessionId : Text) (sourceRefs : List Text) (profileSummary : Text)
    (result : MemoryUpdateWriteResult) : Work WriteStep :=
  save (.saveSummary agentId sessionId (ascii "profile") (ascii "user") profileSummary
    (5033165 / 8388608) sourceRefs) { result with savedSummaries := result.savedSummaries + 1 }

def saveUpdateEntity (agentId : Text) (entity : MemoryEntity) (result : MemoryUpdateWriteResult) :
    Work WriteStep := do
  let e := { entity with agentId := withAgent agentId entity.agentId }
  match ← save (.saveEntity e) { result with savedEntities := result.savedEntities + 1 } with
  | .error returned => return .error returned
  | .ok result =>
      if e.supersededEntityId.isEmpty then return .ok result
      else save (.markEntityObsolete e.supersededEntityId e.id) result

def saveUpdateRelation (agentId : Text) (relation : MemoryRelation)
    (result : MemoryUpdateWriteResult) : Work WriteStep :=
  let r := { relation with agentId := withAgent agentId relation.agentId }
  save (.saveRelation r) { result with savedRelations := result.savedRelations + 1 }

/-- `MemoryUpdateWriter::SaveUpdate`. -/
def saveUpdate (agentId sessionId : Text) (update : LongTermMemoryUpdate)
    (sourceRefs : List Text) : Work MemoryUpdateWriteResult := do
  match ← forEach (saveTopicSummary agentId sessionId sourceRefs) update.topicSummaries {} with
  | .error returned => return returned
  | .ok result =>
  match ← forEach (saveProfileSummary agentId sessionId sourceRefs) update.profileSummaries
    result with
  | .error returned => return returned
  | .ok result =>
  match ← forEach (saveUpdateEntity agentId) update.entities result with
  | .error returned => return returned
  | .ok result =>
  match ← forEach (saveUpdateRelation agentId) update.relations result with
  | .error returned => return returned
  | .ok result => return result

/-! ## The consolidation service -/

/-- The model's update, or the fallback's when the model gave none; and `fallbackUsed`. -/
def extractUpdate (host : Host) (fallback : Option LongTermMemoryProcessor)
    (model : Option MemoryModelClient) (batch : LongTermMemoryBatch) :
    Except CxxException (LongTermMemoryUpdate × Bool) := do
  let update ← match model with
    | some model => llmProcess host model batch
    | none => pure {}
  match fallback with
  | some process => return if update.isNonempty then (update, false) else (process batch, true)
  | none => return (update, false)

/-- The variables `sessionWrite` and `updateWrite` captured by the transaction callback. -/
structure CapturedWrites where
  sessionWrite : MemoryUpdateWriteResult := {}
  updateWrite : MemoryUpdateWriteResult := {}
deriving DecidableEq

/-- `SaveConsolidationCursor` inside a callback, with its error completed. -/
def saveCursor (request : MemoryConsolidationRequest) (nextCursor : Text) :
    Work MemoryOperationResult := do
  let cursorWrite ← transaction
    (.saveConsolidationCursor request.agentId request.sessionId nextCursor)
  return if cursorWrite.succeeded then memorySuccess
    else if cursorWrite.error.hasError then cursorWrite
    else memoryFailure (ascii "cursor_save_failed")
      (ascii "failed to persist consolidation cursor")

/-- The transaction callback for a batch with events. -/
def consolidationWork (request : MemoryConsolidationRequest)
    (buildResult : ConsolidationBatchBuildResult) (update : LongTermMemoryUpdate) :
    Work (MemoryOperationResult × CapturedWrites) := do
  let sessionWrite ← saveSessionSummary request.agentId buildResult.sessionId
    buildResult.sessionSummary buildResult.sessionSourceRefs
  if !sessionWrite.succeeded then
    return (memoryFailure (ascii "consolidation_failed") (ascii "failed to persist session summary")
      sessionWrite.error.details sessionWrite.error.retryable, { sessionWrite })
  else
    let updateWrite ← if update.isNonempty then
        saveUpdate request.agentId buildResult.sessionId update buildResult.batch.sourceRefs
      else pure {}
    if !updateWrite.succeeded then
      return (memoryFailure (ascii "consolidation_failed")
        (ascii "failed to persist memory update") updateWrite.error.details
        updateWrite.error.retryable, { sessionWrite, updateWrite })
    else if buildResult.nextCursor.isEmpty then
      return (memorySuccess, { sessionWrite, updateWrite })
    else
      return (← saveCursor request buildResult.nextCursor, { sessionWrite, updateWrite })

/-- `operation.error.HasError() ? operation.error : fallback`. -/
def MemoryOperationResult.errorOr (operation : MemoryOperationResult) (code message : Text) :
    MemoryError :=
  if operation.error.hasError then operation.error else { code, message }

/-- The write phase for a batch in which every event was filtered out: only the cursor moves. -/
def persistCursor (request : MemoryConsolidationRequest)
    (buildResult : ConsolidationBatchBuildResult) (result : MemoryConsolidationResult) :
    SqlM MemoryConsolidationResult := do
  if buildResult.nextCursor.isEmpty then return { result with succeeded := true }
  else
    let (operation, _) ← runInTransaction () do
      return (← saveCursor request buildResult.nextCursor, ())
    return { result with
      succeeded := operation.succeeded
      error := if operation.succeeded then result.error
        else operation.errorOr (ascii "cursor_save_failed")
          (ascii "failed to persist consolidation cursor") }

/-- The write phase for a batch with events. -/
def persistUpdate (request : MemoryConsolidationRequest)
    (buildResult : ConsolidationBatchBuildResult) (update : LongTermMemoryUpdate)
    (result : MemoryConsolidationResult) : SqlM MemoryConsolidationResult := do
  let (operation, writes) ← runInTransaction {} (consolidationWork request buildResult update)
  let result := { result with succeeded := operation.succeeded }
  if operation.succeeded then
    return { result with
      savedSummaries := writes.sessionWrite.savedSummaries + writes.updateWrite.savedSummaries
      savedEntities := writes.updateWrite.savedEntities
      savedRelations := writes.updateWrite.savedRelations }
  else
    return { result with
      error := operation.errorOr (ascii "consolidation_failed")
        (ascii "failed to persist consolidation update") }

/-- The part of `Consolidate` before its transaction: a batch without events asks no model. -/
def extract (host : Host) (fallback : Option LongTermMemoryProcessor)
    (model : Option MemoryModelClient) (buildResult : ConsolidationBatchBuildResult) :
    Except CxxException (LongTermMemoryUpdate × Bool) :=
  if buildResult.batch.events.isEmpty then .ok ({}, false)
  else extractUpdate host fallback model buildResult.batch

/-- The part of `Consolidate` from its transaction on. -/
def persist (request : MemoryConsolidationRequest) (buildResult : ConsolidationBatchBuildResult)
    (update : LongTermMemoryUpdate) (fallbackUsed : Bool) : SqlM MemoryConsolidationResult :=
  let result : MemoryConsolidationResult :=
    { sessionId := buildResult.sessionId
      nextCursor := buildResult.nextCursor
      processedEvents := toInt32 buildResult.batch.events.length }
  if buildResult.batch.events.isEmpty then persistCursor request buildResult result
  else persistUpdate request buildResult update { result with fallbackUsed }

/-- `ConsolidationService::Consolidate`. -/
def consolidate (host : Host) (fallback : Option LongTermMemoryProcessor)
    (request : MemoryConsolidationRequest) (events : List MemoryEvent)
    (model : Option MemoryModelClient) : SqlM MemoryConsolidationResult := do
  let buildResult := build request events
  let (update, fallbackUsed) ← .ofExcept (extract host fallback model buildResult)
  persist request buildResult update fallbackUsed

end AgentMemory
