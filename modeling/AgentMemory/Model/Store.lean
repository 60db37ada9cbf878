import AgentMemory.Model.Database

/-! # The SQLite store

The `...Unlocked` functions return `bool`; here they return the success of the failing
statement or the text that `sqlite3_errmsg` then holds, which is what their callers report. -/

namespace AgentMemory

open Foundation

/-- `bool` with the message of the statement that failed. -/
abbrev SqlResult := Except Text Unit

def executeUnlocked (command : Command Write) : SqlM SqlResult :=
  Program.perform (S := Command.signature Write Text) command

/-- Preparing, binding and stepping one statement. -/
def step (w : Write) : SqlM SqlResult :=
  executeUnlocked (.write w)

/-- `if (!first) { return false; }` followed by `second`. -/
def andThen (first second : SqlM SqlResult) : SqlM SqlResult := do
  match ← first with
  | .ok () => second
  | .error message => return .error message

/-! ## Writes -/

/-- The values bound by `SaveEventUnlocked`, given the serialised metadata. -/
def MemoryEvent.values (event : MemoryEvent) (metadataJson : Text) : EventValues where
  agentId := bindNullable event.agentId
  sessionId := bindNullable event.sessionId
  eventType := event.type.value
  role := bindNullable event.role
  content := bindNullable event.content
  payloadRef := bindNullable event.payloadRef
  toolCallId := bindNullable event.toolCallId
  toolName := bindNullable event.toolName
  metadataJson := bindNullable metadataJson

def saveEventUnlocked (event : MemoryEvent) : SqlM SqlResult :=
  andThen (step .prepare) do
    let metadataJson ← .ofExcept
      (if event.metadata.isObject then event.metadata.dump else (Json.object []).dump)
    step (.insertEvent (event.values metadataJson))

def savePayloadUnlocked (payload : MemoryPayloadRef) : SqlM SqlResult :=
  step (.upsertPayload {
    agentId := bindText payload.agentId
    sessionId := bindText payload.sessionId
    ref := bindText payload.uri
    contentType := bindText payload.contentType
    toolName := bindText payload.toolName
    summary := bindText payload.summary
    originalChars := payload.originalChars })

def saveSummaryUnlocked (agentId sessionId level topic summary : Text) (confidence : ℚ)
    (sourceRefs : List Text) : SqlM SqlResult := do
  let refsStr ← .ofExcept (serializeSourceRefs sourceRefs)
  step (.insertSummary {
    agentId := bindText agentId
    sessionId := bindText sessionId
    level := bindText level
    topic := bindText topic
    summary := bindText summary
    confidence
    sourceRefsJson := bindText refsStr })

def markDuplicateEntitiesObsoleteUnlocked (entity : MemoryEntity) : SqlM SqlResult :=
  if entity.id.isEmpty || entity.agentId.isEmpty || entity.entityType.isEmpty ||
      entity.name.isEmpty then
    return .ok ()
  else
    step (.markDuplicateEntities (bindText entity.id) (bindText entity.agentId)
      (bindText entity.entityType) (bindText entity.name))

def markEntityObsoleteUnlocked (entityId supersededBy : Text) : SqlM SqlResult :=
  step (.markEntityObsolete (bindText entityId) (bindText supersededBy))

/-- The values bound by `SaveEntityUnlocked`, given its two serialised columns. -/
def MemoryEntity.values (entity : MemoryEntity) (refsStr metadataStr : Text) : EntityValues where
  id := bindText entity.id
  agentId := bindText entity.agentId
  entityType := bindText entity.entityType
  name := bindText entity.name
  summary := bindText entity.summary
  confidence := entity.confidence
  sourceRefsJson := bindText refsStr
  metadataJson := bindText metadataStr
  active := entity.isActive
  supersededBy :=
    if entity.supersededByEntityId.isEmpty then none
    else some (bindText entity.supersededByEntityId)

def saveEntityUnlocked (entity : MemoryEntity) : SqlM SqlResult := do
  let metadata := if entity.metadata.isObject then entity.metadata else .object []
  let refsStr ← .ofExcept (serializeSourceRefs entity.sourceRefs)
  let metadataStr ← .ofExcept metadata.dump
  andThen (markDuplicateEntitiesObsoleteUnlocked entity)
    (andThen (step (.upsertEntity (entity.values refsStr metadataStr)))
      (if entity.supersededEntityId.isEmpty then return .ok ()
        else markEntityObsoleteUnlocked entity.supersededEntityId entity.id))

/-- The metadata `SaveRelationUnlocked` stores; a contradiction carries its conflict markers. -/
def MemoryRelation.storedMetadata (relation : MemoryRelation) : Json :=
  let metadata := if relation.metadata.isObject then relation.metadata else .object []
  if relation.relationType = ascii "contradicts" then
    (metadata.set (ascii "conflict") (.boolean true)).set (ascii "conflictsWithEntityId")
      (.string relation.toEntityId)
  else metadata

example :
    ({ relationType := ascii "contradicts", toEntityId := ascii "e2" } :
      MemoryRelation).storedMetadata.dump =
        .ok (ascii "\x7b\"conflict\":true,\"conflictsWithEntityId\":\"e2\"\x7d") := by
  decide

/-- The values bound by `SaveRelationUnlocked`, given its two serialised columns. -/
def MemoryRelation.values (relation : MemoryRelation) (refsStr metadataStr : Text) :
    RelationValues where
  agentId := bindText relation.agentId
  fromEntity := bindText relation.fromEntityId
  relation := bindText relation.relationType
  toEntity := bindText relation.toEntityId
  confidence := relation.confidence
  sourceRefsJson := bindText refsStr
  metadataJson := bindText metadataStr

def saveRelationUnlocked (relation : MemoryRelation) : SqlM SqlResult := do
  let refsStr ← .ofExcept (serializeSourceRefs relation.sourceRefs)
  let metadataStr ← .ofExcept relation.storedMetadata.dump
  andThen
    (step (.deactivateRelation (bindText relation.fromEntityId) (bindText relation.relationType)
      (bindText relation.toEntityId) (bindText relation.agentId)))
    (andThen (step (.insertRelation (relation.values refsStr metadataStr)))
      (if relation.relationType = ascii "supersedes" then
        markEntityObsoleteUnlocked relation.toEntityId relation.fromEntityId
      else return .ok ()))

def cursorToInt (cursor : Text) : Int64 :=
  if cursor.isEmpty then 0 else (stoll cursor).getD 0

def saveConsolidationCursorUnlocked (agentId sessionId cursor : Text) : SqlM SqlResult :=
  step (.upsertCursor (bindText agentId) (bindText sessionId) (cursorToInt cursor))

/-! ## Results -/

/-- `SqliteFailure`. -/
def sqliteFailure (errmsg : Text) (context : String) : MemoryOperationResult :=
  let details := if errmsg.isEmpty then ascii "sqlite operation failed" else errmsg
  memoryFailure (ascii "sqlite_error") (ascii "sqlite operation failed")
    (ascii context ++ ascii ": " ++ details) true

/-- `unlocked ? MemorySuccess() : SqliteFailure(db_, context)`. -/
def reporting (context : String) (unlocked : SqlM SqlResult) : SqlM MemoryOperationResult := do
  match ← unlocked with
  | .ok () => return memorySuccess
  | .error errmsg => return sqliteFailure errmsg context

def saveEvent (event : MemoryEvent) : SqlM MemoryOperationResult :=
  reporting "SaveEvent" (saveEventUnlocked event)

def savePayload (payload : MemoryPayloadRef) : SqlM MemoryOperationResult :=
  reporting "SavePayload" (savePayloadUnlocked payload)

/-! ## Transactions -/

/-- The interface `MemoryStoreTransaction`. -/
inductive TransactionOp where
  | saveSummary (agentId sessionId level topic summary : Text) (confidence : ℚ)
      (sourceRefs : List Text)
  | saveEntity (entity : MemoryEntity)
  | saveRelation (relation : MemoryRelation)
  | markEntityObsolete (entityId supersededBy : Text)
  | saveConsolidationCursor (agentId sessionId cursor : Text)

abbrev TransactionOp.signature : Signature where
  Op := TransactionOp
  Reply _ := MemoryOperationResult

def TransactionOp.unlocked : TransactionOp → SqlM SqlResult
  | .saveSummary agentId sessionId level topic summary confidence sourceRefs =>
      saveSummaryUnlocked agentId sessionId level topic summary confidence sourceRefs
  | .saveEntity entity => saveEntityUnlocked entity
  | .saveRelation relation => saveRelationUnlocked relation
  | .markEntityObsolete entityId supersededBy => markEntityObsoleteUnlocked entityId supersededBy
  | .saveConsolidationCursor agentId sessionId cursor =>
      saveConsolidationCursorUnlocked agentId sessionId cursor

def TransactionOp.method : TransactionOp → String
  | .saveSummary .. => "SaveSummary"
  | .saveEntity _ => "SaveEntity"
  | .saveRelation _ => "SaveRelation"
  | .markEntityObsolete .. => "MarkEntityObsolete"
  | .saveConsolidationCursor .. => "SaveConsolidationCursor"

/-- `SqliteStoreTransaction`. -/
def TransactionOp.body (op : TransactionOp) : SqlM MemoryOperationResult :=
  reporting ("Transaction::" ++ op.method) op.unlocked

/-- The method of `MemorySqliteStore` of the same name, outside a transaction. -/
def TransactionOp.storeMethod (op : TransactionOp) : SqlM MemoryOperationResult :=
  reporting op.method op.unlocked

/-- A callback that works on a `MemoryStoreTransaction&`. It sees what each operation returns or
throws. -/
abbrev Work := Program (TransactionOp.signature.fallible CxxException) CxxException

def Host.perform (host : Host) : Handler (TransactionOp.signature.fallible CxxException) Connection :=
  fun op => op.body.runOn host

/-- Runs a callback on a connection whose transaction is open. -/
def Work.runOn {α : Type} (host : Host) (work : Work α) (c : Connection) :
    Except CxxException α × Connection :=
  work.run host.perform c

/-- `transaction.op(...)`, with an exception passed on. -/
def transaction (op : TransactionOp) : Work MemoryOperationResult :=
  .call op .ofExcept

/-- `RunInTransaction`. Next to its result the callback leaves `γ` in the variables it captures
by reference, which hold `captured` before the call. There is no `try`, so an exception of the
callback leaves at once. -/
def runInTransaction {γ : Type} (captured : γ) (work : Work (MemoryOperationResult × γ)) :
    SqlM (MemoryOperationResult × γ) := do
  match ← executeUnlocked .beginTransaction with
  | .error errmsg => return (sqliteFailure errmsg "RunInTransaction::begin", captured)
  | .ok () =>
      let (result, captured) ← work.interpret TransactionOp.body
      if result.succeeded then
        match ← executeUnlocked .commit with
        | .error errmsg =>
            let _ ← executeUnlocked .rollback
            return (sqliteFailure errmsg "RunInTransaction::commit", captured)
        | .ok () => return (memorySuccess, captured)
      else
        let _ ← executeUnlocked .rollback
        return (if result.error.hasError then result
          else memoryFailure (ascii "transaction_failed") (ascii "transaction work failed"),
          captured)

/-! ## Calls -/

/-- The writing calls of the interface `MemoryStore`. -/
inductive StoreCall where
  | saveEvent (event : MemoryEvent)
  | savePayload (payload : MemoryPayloadRef)
  | operation (op : TransactionOp)
  | runInTransaction (work : Work MemoryOperationResult)

def StoreCall.body : StoreCall → SqlM MemoryOperationResult
  | .saveEvent event => AgentMemory.saveEvent event
  | .savePayload payload => AgentMemory.savePayload payload
  | .operation op => op.storeMethod
  | .runInTransaction work => do
      return (← AgentMemory.runInTransaction () do return (← work, ())).1

/-- The connection after a sequence of calls, each of which may also fail or throw. -/
def runCalls (host : Host) (calls : List StoreCall) (c : Connection) : Connection :=
  calls.foldl (fun c call => (call.body.runOn host c).2) c

/-! ## Reads -/

structure ConsolidationCursorResult where
  succeeded : Bool := false
  cursor : Text := []
  error : MemoryError := {}

structure MemoryEventsResult where
  succeeded : Bool := false
  events : List MemoryEvent := []
  error : MemoryError := {}

/-- One `SELECT`: its result on the current tables, or the error of a failed statement, whose
context ends with the step that failed. -/
def select {α : Type} (host : Host) (context : String) (failed : MemoryError → α)
    (query : Database → α) (c : Connection) : α × Connection :=
  let outcome := host.outcome c.clock
  let result :=
    if outcome.accepted then query c.current
    else failed (sqliteFailure outcome.errmsg
      (context ++ if outcome.atPrepare then "::prepare" else "::step")).error
  (result, { c with clock := c.clock + 1 })

def Database.cursor? (agentId sessionId : Text) (db : Database) : Option Int64 :=
  (db.cursors.find? (CursorRow.isFor (bindText agentId) (bindText sessionId))).map (·.cursor)

def loadConsolidationCursor (host : Host) (agentId sessionId : Text) (c : Connection) :
    ConsolidationCursorResult × Connection :=
  select host "LoadConsolidationCursor" (fun error => { error })
    (fun db => {
      succeeded := true
      cursor := match db.cursor? agentId sessionId with
        | some cursor => decimal cursor.toInt
        | none => [] }) c

def parseJsonSafely (host : Host) (text : Text) : Json :=
  match host.parseJson text with
  | some json => if json.isObject then json else .object []
  | none => .object []

def readEventRow (host : Host) (row : Rowid × EventRow) : MemoryEvent where
  storeCursor := decimal row.1.val
  agentId := row.2.agentId.columnText
  sessionId := row.2.sessionId.columnText
  type := ⟨row.2.eventType⟩
  role := row.2.role.columnText
  content := row.2.content.columnText
  payloadRef := row.2.payloadRef.columnText
  toolCallId := row.2.toolCallId.columnText
  toolName := row.2.toolName.columnText
  metadata := parseJsonSafely host row.2.metadataJson.columnText

/-- The `WHERE` clause of `LoadEventsAfterCursor`: a session restricts the scan to it, and only
without one the excluded sessions are left out. No text of the log equals a parameter above
SQLite's limit; that an excluded id above it leaves out every session is not modelled. -/
def EventRow.afterCursor (agentId sessionId : Text) (cursor : Int64)
    (excludedSessionIds : List Text) (row : Rowid × EventRow) : Bool :=
  decide (cursor.toInt < row.1.val) && row.2.agentId.is (bindText agentId) &&
    if sessionId.isEmpty then row.2.sessionId.notIn (excludedSessionIds.map bindText)
    else row.2.sessionId.is (bindText sessionId)

def loadEventsAfterCursor (host : Host) (agentId sessionId cursor : Text)
    (excludedSessionIds : List Text) (c : Connection) : MemoryEventsResult × Connection :=
  select host "LoadEventsAfterCursor" (fun error => { error })
    (fun db => {
      succeeded := true
      events := (db.events.rows.filter
        (EventRow.afterCursor agentId sessionId (cursorToInt cursor) excludedSessionIds)).map
          (readEventRow host) }) c

end AgentMemory
