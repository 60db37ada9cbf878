import AgentMemory.Model.Consolidation

/-! # The runtime

A consolidation call reads the cursor and the events in two statements, asks the model, and
writes in one transaction. The store's mutex is held for each of these steps alone, so other
calls run in between; `consolidationMutex` keeps two consolidations apart. -/

namespace AgentMemory

open Foundation

/-- The parts of `RuntimeServices` that events and consolidation use. -/
structure RuntimeServices where
  store : Bool
  storeError : Text := []
  consolidationService : Bool := store
  longTermProcessor : LongTermMemoryProcessor := ruleBasedProcess

def storeUnavailableMessage (services : RuntimeServices) : Text :=
  if services.storeError.isEmpty then ascii "memory store unavailable" else services.storeError

/-- `BuiltinMemoryRuntime::AppendEvent`. -/
def appendEvent (services : RuntimeServices) (event : MemoryEvent) :
    SqlM MemoryOperationResult := do
  if !services.store then
    return memoryFailure (ascii "store_unavailable") (storeUnavailableMessage services)
  else
    let result ← saveEvent event
    return if result.succeeded then memorySuccess
      else if result.error.hasError then result
      else memoryFailure (ascii "event_persist_failed") (ascii "failed to persist memory event")

/-- The cursor a call starts from: none is read for a forced one. -/
def loadStartCursor (host : Host) (request : MemoryConsolidationRequest) (c : Connection) :
    Except MemoryError Text × Connection :=
  if request.forceReprocess then (.ok [], c)
  else
    let (cursorResult, c) := loadConsolidationCursor host request.agentId request.sessionId c
    if cursorResult.succeeded then (.ok cursorResult.cursor, c)
    else if cursorResult.error.hasError then (.error cursorResult.error, c)
    else (.error { code := ascii "cursor_load_failed"
                   message := ascii "failed to load consolidation cursor" }, c)

def loadEvents (host : Host) (request : MemoryConsolidationRequest) (startCursor : Text)
    (c : Connection) : Except MemoryError (List MemoryEvent) × Connection :=
  let (eventsResult, c) := loadEventsAfterCursor host request.agentId request.sessionId startCursor
    request.excludedSessionIds c
  if eventsResult.succeeded then (.ok eventsResult.events, c)
  else if eventsResult.error.hasError then (.error eventsResult.error, c)
  else (.error { code := ascii "events_load_failed"
                 message := ascii "failed to load events for consolidation" }, c)

/-- The error of a runtime without its store or its consolidation service. -/
def unavailable (services : RuntimeServices) : Option MemoryError :=
  if !services.store then
    some { code := ascii "store_unavailable", message := storeUnavailableMessage services }
  else if !services.consolidationService then
    some { code := ascii "consolidation_unavailable"
           message := ascii "consolidation service unavailable" }
  else none

/-- The part of `ConsolidateWithModel` before it calls the service: the events, or the error that
is returned instead. -/
def loadForConsolidation (host : Host) (services : RuntimeServices)
    (request : MemoryConsolidationRequest) (c : Connection) :
    Except MemoryError (List MemoryEvent) × Connection :=
  match unavailable services with
  | some error => (.error error, c)
  | none =>
      match loadStartCursor host request c with
      | (.error error, c) => (.error error, c)
      | (.ok startCursor, c) => loadEvents host request startCursor c

/-- `ConsolidateWithModel`, with no other call in between. -/
def consolidateWithModel (host : Host) (services : RuntimeServices)
    (request : MemoryConsolidationRequest) (model : Option MemoryModelClient) (c : Connection) :
    Except CxxException MemoryConsolidationResult × Connection :=
  match loadForConsolidation host services request c with
  | (.error error, c) => (.ok { error }, c)
  | (.ok events, c) =>
      (consolidate host (some services.longTermProcessor) request events model).runOn host c

/-- Whether a call returned, and with success. -/
def callSucceeded : Except CxxException MemoryConsolidationResult → Bool
  | .ok result => result.succeeded
  | .error _ => false

/-! ## Interleaved calls -/

/-- How far the consolidation that holds `consolidationMutex` has come. -/
inductive Phase where
  | idle
  | started (request : MemoryConsolidationRequest) (model : Option MemoryModelClient)
  | cursorLoaded (request : MemoryConsolidationRequest) (model : Option MemoryModelClient)
      (startCursor : Text)
  | eventsLoaded (request : MemoryConsolidationRequest) (model : Option MemoryModelClient)
      (log : List (Rowid × EventRow)) (events : List MemoryEvent)
  | extracted (request : MemoryConsolidationRequest) (log : List (Rowid × EventRow))
      (events : List MemoryEvent) (update : LongTermMemoryUpdate) (fallbackUsed : Bool)

/-- A finished call: its request, the event table it loaded from, its batch and its result. -/
structure CompletedCall where
  request : MemoryConsolidationRequest
  log : List (Rowid × EventRow) := []
  batch : List MemoryEvent := []
  result : Except CxxException MemoryConsolidationResult

def CompletedCall.succeeded (call : CompletedCall) : Bool :=
  callSucceeded call.result

structure RuntimeState where
  connection : Connection
  phase : Phase := .idle
  completed : List CompletedCall := []

def RuntimeState.complete (call : CompletedCall) (c : Connection) (s : RuntimeState) :
    RuntimeState where
  connection := c
  phase := .idle
  completed := s.completed ++ [call]

/-- The next step of the consolidation that is under way. -/
def RuntimeState.advance (host : Host) (services : RuntimeServices) (s : RuntimeState) :
    RuntimeState :=
  match s.phase with
  | .idle => s
  | .started request model =>
      match unavailable services with
      | some error => s.complete { request, result := .ok { error } } s.connection
      | none =>
          match loadStartCursor host request s.connection with
          | (.error error, c) => s.complete { request, result := .ok { error } } c
          | (.ok startCursor, c) =>
              { s with connection := c, phase := .cursorLoaded request model startCursor }
  | .cursorLoaded request model startCursor =>
      match loadEvents host request startCursor s.connection with
      | (.error error, c) => s.complete { request, result := .ok { error } } c
      | (.ok events, c) =>
          { s with
            connection := c
            phase := .eventsLoaded request model s.connection.current.events.rows events }
  | .eventsLoaded request model log events =>
      match extract host (some services.longTermProcessor) model (build request events) with
      | .error e =>
          s.complete { request, log, batch := (build request events).batch.events, result := .error e }
            s.connection
      | .ok (update, fallbackUsed) =>
          { s with phase := .extracted request log events update fallbackUsed }
  | .extracted request log events update fallbackUsed =>
      let (result, c) := (persist request (build request events) update fallbackUsed).runOn host
        s.connection
      s.complete { request, log, batch := (build request events).batch.events, result } c

/-- One step of a runtime whose consolidation requests satisfy `admits`. -/
inductive RuntimeStep (host : Host) (services : RuntimeServices)
    (admits : MemoryConsolidationRequest → Prop) : RuntimeState → RuntimeState → Prop where
  | append (s : RuntimeState) (event : MemoryEvent) :
      RuntimeStep host services admits s
        { s with connection := ((appendEvent services event).runOn host s.connection).2 }
  | consolidate (s : RuntimeState) (request : MemoryConsolidationRequest)
      (model : Option MemoryModelClient) (idle : s.phase = .idle) (admitted : admits request) :
      RuntimeStep host services admits s { s with phase := .started request model }
  | advance (s : RuntimeState) :
      RuntimeStep host services admits s (s.advance host services)

end AgentMemory
