import AgentMemory.Foundation.Pool
import AgentMemory.Model.Context
import AgentMemory.Model.HttpRoutes
import AgentMemory.Model.Payload
import AgentMemory.Model.Runtime

/-! # The service

`BuiltinMemoryRuntime` behind the HTTP server. Each request is handled by a thread of its own, and
the threads share one store and one payload directory. What a thread does between two operations
touches nothing that is shared; the mutexes are those that the code takes. -/

namespace AgentMemory

open Foundation Httplib

/-! ## Statistics -/

/-- The five `SELECT COUNT(*)` of `GetStoreStats`, each with the field that it fills. -/
def statsQueries : List ((Database → ℕ) × (Int32 → MemoryStats → MemoryStats)) :=
  [(fun db => db.events.rows.length, fun n stats => { stats with events := n }),
    (fun db => db.payloads.rows.length, fun n stats => { stats with payloads := n }),
    (fun db => db.summaries.rows.length, fun n stats => { stats with summaries := n }),
    (fun db => db.entities.rows.length, fun n stats => { stats with entities := n }),
    (fun db => db.relations.rows.length, fun n stats => { stats with relations := n })]

/-- The loop of `GetStoreStats`. `sqlite3_column_int` takes the low 32 bits of a count. -/
def runStatsQueries (host : Host) : List ((Database → ℕ) × (Int32 → MemoryStats → MemoryStats)) →
    MemoryStats → Connection → MemoryStatsResult × Connection
  | [], stats, c => ({ succeeded := true, stats }, c)
  | (count, assign) :: queries, stats, c =>
      match select host "GetStoreStats" Except.error (fun db => .ok (count db)) c with
      | (.error error, c) => ({ stats, error }, c)
      | (.ok n, c) => runStatsQueries host queries (assign (.ofNat n) stats) c

/-- `MemorySqliteStore::GetStoreStats`. -/
def getStoreStats (host : Host) (c : Connection) : MemoryStatsResult × Connection :=
  runStatsQueries host statsQueries {} c

/-! ## Operations -/

/-- The reading calls of the interface `MemoryStore`. -/
inductive StoreRead where
  | loadConsolidationCursor (agentId sessionId : Text)
  | loadEventsAfterCursor (agentId sessionId cursor : Text) (excludedSessionIds : List Text)
  | loadRecentEvents (agentId sessionId : Text) (limit : Int32)
  | loadLongTermMemory (agentId : Text) (limit : Int32) (sessionId : Text)
  | searchLongTermMemory (request : MemorySearchRequest)
  | loadRecentPayloads (agentId sessionId : Text) (limit : Int32)
  | getStoreStats

abbrev StoreRead.signature : Signature where
  Op := StoreRead
  Reply
    | .loadConsolidationCursor .. => ConsolidationCursorResult
    | .loadEventsAfterCursor .. => MemoryEventsResult
    | .loadRecentEvents .. => MemoryEventsResult
    | .loadLongTermMemory .. => LongTermMemorySnapshotResult
    | .searchLongTermMemory _ => MemorySearchStoreResult
    | .loadRecentPayloads .. => MemoryPayloadRefsResult
    | .getStoreStats => MemoryStatsResult

def QueryHost.read (host : QueryHost) : Handler StoreRead.signature Connection
  | .loadConsolidationCursor agentId sessionId =>
      AgentMemory.loadConsolidationCursor host.toHost agentId sessionId
  | .loadEventsAfterCursor agentId sessionId cursor excludedSessionIds =>
      AgentMemory.loadEventsAfterCursor host.toHost agentId sessionId cursor excludedSessionIds
  | .loadRecentEvents agentId sessionId limit =>
      AgentMemory.loadRecentEvents host.toHost agentId sessionId limit
  | .loadLongTermMemory agentId limit sessionId =>
      AgentMemory.loadLongTermMemory host agentId limit sessionId
  | .searchLongTermMemory request => AgentMemory.searchLongTermMemory host request
  | .loadRecentPayloads agentId sessionId limit =>
      AgentMemory.loadRecentPayloads host agentId sessionId limit
  | .getStoreStats => AgentMemory.getStoreStats host.toHost

/-- What a thread does to what is shared. A call of the store is one operation, since the store's
mutex is held for the whole of it. `extract` and `persist` are the two parts of
`ConsolidationService::Consolidate`. -/
inductive ServiceOp where
  | read (call : StoreRead)
  | saveEvent (event : MemoryEvent)
  | extract (asksModel : Bool) (buildResult : ConsolidationBatchBuildResult)
  | persist (request : MemoryConsolidationRequest) (buildResult : ConsolidationBatchBuildResult)
      (update : LongTermMemoryUpdate) (fallbackUsed : Bool)
  | payload (op : PayloadOp)
  | loadTextFile (path : Text)

abbrev ServiceOp.signature : Signature where
  Op := ServiceOp
  Reply
    | .read call => StoreRead.signature.Reply call
    | .saveEvent _ => Except Thrown MemoryOperationResult
    | .extract .. => Except Thrown (LongTermMemoryUpdate × Bool)
    | .persist .. => Except Thrown MemoryConsolidationResult
    | .payload op => PayloadOp.signature.Reply op
    | .loadTextFile _ => Option Text

/-- The mutexes: `consolidationMutex` and `mutex` of the runtime, and those of the payload service
and of the store. -/
inductive Mutex where
  | consolidation
  | payload
  | store
  | services
deriving DecidableEq

namespace Mutex

/-- A thread that holds one mutex only waits for one of a higher rank. -/
def rank : Mutex → ℕ
  | consolidation => 0
  | payload => 1
  | store => 2
  | services => 3

theorem rank_injective : Function.Injective rank := by
  intro m n h
  cases m <;> cases n <;> first | rfl | cases h

instance : LinearOrder Mutex :=
  LinearOrder.lift' rank rank_injective

end Mutex

/-- What a thread runs. -/
abbrev ServiceM := Program (ServiceOp.signature.locking Mutex) Thrown

/-- A call of the store under its mutex. -/
def storeCall (op : ServiceOp) : ServiceM (ServiceOp.signature.Reply op) :=
  Program.locked .store (Program.operate (S := ServiceOp.signature) op)

def readStore (call : StoreRead) : ServiceM (StoreRead.signature.Reply call) :=
  storeCall (.read call)

/-- An operation of the payload service, of which only the saving of a row is a call of the
store. -/
def payloadCall (op : PayloadOp) : ServiceM (PayloadOp.signature.Reply op) :=
  match op with
  | .savePayload request payload => storeCall (.payload (.savePayload request payload))
  | op => Program.operate (S := ServiceOp.signature) (.payload op)

/-! ## `BuiltinMemoryRuntime` -/

/-- The code outside of the repository. An exception that the standard library or the JSON library
throws is seen by the server as `thrown` says. -/
structure ServiceHost extends ContextHost where
  system : ℕ → SystemOutcome
  weaklyCanonical : Text → Option Text
  thrown : CxxException → Thrown

def ServiceHost.payloadHost (host : ServiceHost) : PayloadHost where
  database := host.toHost
  outcome := host.system

/-- The runtime with its services; a model answers differently at different times. -/
structure BuiltinMemoryRuntime extends RuntimeServices where
  payloadService : Option PayloadService := none
  contextBuilder : Option ContextBuilder := none
  modelClient : Option (ℕ → MemoryModelClient) := none

/-- `GetStore` and its likes, which read a pointer that never changes. -/
def getService {α : Type} (service : α) : ServiceM α :=
  Program.locked .services (pure service)

namespace BuiltinMemoryRuntime

variable (host : ServiceHost) (impl : BuiltinMemoryRuntime)

def storeUnavailableMessage : ServiceM Text :=
  getService (AgentMemory.storeUnavailableMessage impl.toRuntimeServices)

/-- `BuiltinMemoryRuntime::AppendEvent`. -/
def appendEvent (event : MemoryEvent) : ServiceM MemoryOperationResult := do
  if !(← getService impl.store) then
    return memoryFailure (ascii "store_unavailable") (← impl.storeUnavailableMessage)
  else
    let saved ← storeCall (.saveEvent event)
    let result ← .ofExcept saved
    return if result.succeeded then memorySuccess
      else if result.error.hasError then result
      else memoryFailure (ascii "event_persist_failed") (ascii "failed to persist memory event")

/-! ### The context builder -/

def loadMessagesForContext (builder : ContextBuilder) (request : MemoryContextRequest) :
    ServiceM MemoryEventsResult := do
  let limit := messageLimit request
  if !builder.eventStore || limit = 0 then return { succeeded := true }
  else
    let events ← readStore (.loadRecentEvents request.agentId request.sessionId (.ofInt limit))
    if !MemoryEventsResult.succeeded events then return events
    else return {
      succeeded := true
      events := (MemoryEventsResult.events events).filter fun event =>
        event.type = .messageAppended }

/-- The records of a snapshot that the hits name. -/
def selectHits (snapshot : LongTermMemorySnapshot) (hits : List MemorySearchHit) :
    LongTermMemorySnapshot where
  entities := snapshot.entities.filter fun entity => (hitIds "entity" hits).contains entity.id
  relations := snapshot.relations.filter fun relation =>
    (hitIds "relation" hits).any (relationIdMatches relation)

def selectLongTermMemory (builder : ContextBuilder) (request : MemoryContextRequest) (limit : ℤ) :
    ServiceM SelectedLongTermMemory := do
  if !builder.longTermStore || !builder.searchStore || limit ≤ 0 then return {}
  else if request.query.isEmpty then
    let snapshot : LongTermMemorySnapshotResult ←
      readStore (.loadLongTermMemory request.agentId (.ofInt limit) request.sessionId)
    if !snapshot.succeeded then return { succeeded := false, error := snapshot.error }
    else return { snapshot := snapshot.snapshot }
  else
    let searchResult : MemorySearchStoreResult ←
      readStore (.searchLongTermMemory (contextSearchRequest request limit))
    if !searchResult.succeeded then return { succeeded := false, error := searchResult.error }
    else
      let snapshotResult : LongTermMemorySnapshotResult ←
        readStore (.loadLongTermMemory request.agentId (.ofInt limit) request.sessionId)
      if !snapshotResult.succeeded then
        return {
          succeeded := false
          searchResults := searchResult.results
          usedSearch := true
          error := snapshotResult.error }
      else
        return {
          searchResults := searchResult.results
          usedSearch := true
          snapshot := selectHits snapshotResult.snapshot searchResult.results }

def loadPayloadsForContext (builder : ContextBuilder) (request : MemoryContextRequest) :
    ServiceM MemoryPayloadRefsResult := do
  let limit := payloadLimit request
  if limit = 0 || !builder.payloadStore then return { succeeded := true }
  else
    let payloads : MemoryPayloadRefsResult ←
      readStore (.loadRecentPayloads request.agentId request.sessionId (.ofInt limit))
    if !payloads.succeeded then return payloads
    else return {
      succeeded := true
      payloads := choosePayloads limit (parsePayloadQuery request.query) [] []
        payloads.payloads }

/-- The messages section, which is left empty when it is not asked for. -/
def contextMessages (builder : ContextBuilder) (request : MemoryContextRequest) :
    ServiceM MemoryEventsResult :=
  if shouldInclude request ContextSections.messages then loadMessagesForContext builder request
  else return { succeeded := true }

/-- The long-term section. -/
def contextLongTerm (builder : ContextBuilder) (request : MemoryContextRequest) :
    ServiceM SelectedLongTermMemory :=
  let limit := longTermMemoryLimit builder request
  if shouldInclude request ContextSections.longTerm && builder.longTermStore &&
      builder.searchStore && 0 < limit then
    selectLongTermMemory builder request limit
  else return {}

/-- `ContextBuilder::BuildContext`. -/
def buildContextWith (builder : ContextBuilder) (request : MemoryContextRequest) :
    ServiceM MemoryContextResult := do
  let messages ← contextMessages builder request
  if !messages.succeeded then return { error := messages.error }
  else
    let selected ← contextLongTerm builder request
    if !selected.succeeded then return { error := selected.error }
    else
      let pkg := contextPackage host.streamFloat builder request messages.events selected
      if shouldInclude request ContextSections.payloads then
        let selectedPayloads ← loadPayloadsForContext builder request
        if !selectedPayloads.succeeded then return { error := selectedPayloads.error }
        else return { succeeded := true, context := withPayloads selectedPayloads.payloads pkg }
      else return { succeeded := true, context := pkg }

/-- `BuiltinMemoryRuntime::BuildContext`. -/
def buildContext (request : MemoryContextRequest) : ServiceM MemoryContextResult := do
  match ← getService impl.contextBuilder with
  | none => return { error := {
      code := ascii "context_build_failed", message := ascii "context builder unavailable" } }
  | some contextBuilder => buildContextWith host contextBuilder request

/-! ### Payloads -/

/-- `BuiltinMemoryRuntime::WritePayload`. -/
def writePayload (request : MemoryPayloadWriteRequest) : ServiceM MemoryPayloadWriteResult := do
  match ← getService impl.payloadService with
  | none => return {
      replacementContent := request.content
      error := {
        code := ascii "payload_write_failed", message := ascii "payload service unavailable" } }
  | some payloadService =>
      Program.locked .payload
        ((AgentMemory.writePayload payloadService request).translate host.thrown payloadCall)

/-- `BuiltinMemoryRuntime::ReadPayload`. -/
def readPayload (uri : Text) : ServiceM MemoryPayloadReadResult := do
  match ← getService impl.payloadService with
  | none => return payloadReadFailed "payload service unavailable"
  | some payloadService =>
      Program.locked .payload (readPayloadWith host.weaklyCanonical
        (fun path => Program.operate (S := ServiceOp.signature) (.loadTextFile path))
        payloadService uri)

/-! ### Consolidation -/

/-- The part of `ConsolidationService::Consolidate` from its transaction on. Without an event and a
cursor it does not call the store. -/
def persistBatch (request : MemoryConsolidationRequest)
    (buildResult : ConsolidationBatchBuildResult) (update : LongTermMemoryUpdate)
    (fallbackUsed : Bool) : ServiceM (Except Thrown MemoryConsolidationResult) :=
  let persist := ServiceOp.persist request buildResult update fallbackUsed
  if buildResult.batch.events.isEmpty && buildResult.nextCursor.isEmpty then
    Program.operate (S := ServiceOp.signature) persist
  else storeCall persist

/-- `ConsolidationService::Consolidate`. -/
def consolidateEvents (request : MemoryConsolidationRequest) (events : List MemoryEvent)
    (asksModel : Bool) : ServiceM MemoryConsolidationResult := do
  let buildResult := build request events
  let extracted ← Program.operate (S := ServiceOp.signature) (.extract asksModel buildResult)
  let (update, fallbackUsed) ← .ofExcept extracted
  let persisted ← persistBatch request buildResult update fallbackUsed
  .ofExcept persisted

/-- The cursor a consolidation starts from, or the error it ends with. -/
def loadStartCursor (request : MemoryConsolidationRequest) :
    ServiceM (Except MemoryError Text) := do
  if request.forceReprocess then return .ok []
  else
    let cursorResult : ConsolidationCursorResult ←
      readStore (.loadConsolidationCursor request.agentId request.sessionId)
    if cursorResult.succeeded then return .ok cursorResult.cursor
    else if cursorResult.error.hasError then return .error cursorResult.error
    else return .error { code := ascii "cursor_load_failed"
                         message := ascii "failed to load consolidation cursor" }

def loadEvents (request : MemoryConsolidationRequest) (startCursor : Text) :
    ServiceM (Except MemoryError (List MemoryEvent)) := do
  let eventsResult : MemoryEventsResult ← readStore (.loadEventsAfterCursor request.agentId
    request.sessionId startCursor request.excludedSessionIds)
  if eventsResult.succeeded then return .ok eventsResult.events
  else if eventsResult.error.hasError then return .error eventsResult.error
  else return .error { code := ascii "events_load_failed"
                       message := ascii "failed to load events for consolidation" }

/-- `ConsolidateWithModel` while it holds `consolidationMutex`. -/
def consolidateLocked (request : MemoryConsolidationRequest) (asksModel : Bool) :
    ServiceM MemoryConsolidationResult := do
  match ← loadStartCursor request with
  | .error error => return { error }
  | .ok startCursor =>
      match ← loadEvents request startCursor with
      | .error error => return { error }
      | .ok events => consolidateEvents request events asksModel

/-- `BuiltinMemoryRuntime::Consolidate`. -/
def consolidate (request : MemoryConsolidationRequest) : ServiceM MemoryConsolidationResult := do
  let asksModel ← getService impl.modelClient.isSome
  let consolidationService ← getService impl.consolidationService
  let store ← getService impl.store
  if !store then
    return { error := {
      code := ascii "store_unavailable", message := ← impl.storeUnavailableMessage } }
  else if !consolidationService then
    return { error := {
      code := ascii "consolidation_unavailable"
      message := ascii "consolidation service unavailable" } }
  else Program.locked .consolidation (consolidateLocked request asksModel)

/-! ### Queries -/

/-- `BuiltinMemoryRuntime::SearchMemory`. -/
def searchMemory (request : MemorySearchRequest) : ServiceM MemorySearchResult := do
  if !(← getService impl.store) then
    return { error := {
      code := ascii "search_unavailable", message := ← impl.storeUnavailableMessage } }
  else
    let result : MemorySearchStoreResult ← readStore (.searchLongTermMemory request)
    return { succeeded := result.succeeded, hits := result.results, error := result.error }

/-- `BuiltinMemoryRuntime::GetStats`. -/
def getStats : ServiceM MemoryStatsResult := do
  if !(← getService impl.store) then
    return { error := {
      code := ascii "stats_unavailable", message := ← impl.storeUnavailableMessage } }
  else readStore .getStoreStats

/-- The operations of the runtime. -/
def body : (op : RuntimeOp) → ServiceM (RuntimeOp.signature.Reply op)
  | .appendEvent event => impl.appendEvent event
  | .buildContext request => impl.buildContext host request
  | .writePayload request => impl.writePayload host request
  | .readPayload uri => impl.readPayload host uri
  | .consolidate request => impl.consolidate request
  | .searchMemory request => impl.searchMemory request
  | .getStats => impl.getStats

/-! ## What the operations do -/

/-- A call of the store that only reads. -/
def performRead (call : StoreRead) (w : World) : StoreRead.signature.Reply call × World :=
  let (reply, connection) := host.toQueryHost.read call w.connection
  (reply, { w with connection })

/-- A program of SQL statements as one call of the store. -/
def performSql {α : Type} (p : SqlM α) (w : World) : Except Thrown α × World :=
  let (reply, connection) := p.runOn host.toHost w.connection
  (reply.mapError host.thrown, { w with connection })

def perform : Handler ServiceOp.signature World
  | .read call => performRead host call
  | .saveEvent event => performSql host (AgentMemory.saveEvent event)
  | .extract asksModel buildResult => fun w =>
      let model := if asksModel then impl.modelClient.map fun client => client w.clock else none
      ((AgentMemory.extract host.toHost (some impl.longTermProcessor) model buildResult).mapError
        host.thrown, w.tick)
  | .persist request buildResult update fallbackUsed =>
      performSql host (AgentMemory.persist request buildResult update fallbackUsed)
  | .payload op => host.payloadHost.perform op
  | .loadTextFile path => fun w =>
      (impl.payloadService.bind fun service =>
        AgentMemory.loadTextFile w service.canonicalPayloadDirectory path, w)

end BuiltinMemoryRuntime

/-! ## Runs -/

/-- What the server does for a request. -/
def MemoryHttpRoutes.serve (server : MemoryHttpRoutes) (host : ServiceHost)
    (runtime : BuiltinMemoryRuntime) (req : RoutedRequest) : ServiceM Response :=
  (server.processRequest req).interpret (runtime.body host)

/-- A server at work: its threads, what they share, and the calls they have made. -/
abbrev Service := Pool ServiceOp.signature Mutex Thrown Response World

/-- The detached thread of a cleanup handles an entry. -/
def CleansUp (w w' : World) : Prop :=
  ∃ entry, w' = cleanup entry w

/-- What the server comes to from a state of what is shared, whatever requests reach it. -/
def MemoryHttpRoutes.Reaches (server : MemoryHttpRoutes) (host : ServiceHost)
    (runtime : BuiltinMemoryRuntime) (w : World) : Service → Prop :=
  Pool.Reachable (runtime.perform host) (fun program => ∃ req, program = server.serve host runtime req)
    CleansUp w

end AgentMemory
