import AgentMemory.Verification.Service.Requests

/-! # Requests that are handled one after the other

A thread that runs alone does step by step what the functions of the store, the context builder, the
payload service and the consolidation do at once. -/

namespace AgentMemory

open Foundation Httplib

/-! ## Atomic operations -/

namespace BuiltinMemoryRuntime

variable (host : ServiceHost) (impl : BuiltinMemoryRuntime)

/-- `BuiltinMemoryRuntime::Consolidate` at once. The model is asked if events were loaded. -/
def atomicConsolidate (request : MemoryConsolidationRequest) (w : World) :
    Except Thrown MemoryConsolidationResult × World :=
  let services := impl.toRuntimeServices
  let (reply, connection) := consolidateWithModel host.toHost services request
    (impl.modelClient.map fun client => client w.clock) w.connection
  let loaded := (loadForConsolidation host.toHost services request w.connection).1
  (reply.mapError host.thrown,
    { w with connection, clock := w.clock + loaded.isOk.toNat })

def atomicContext (request : MemoryContextRequest) (w : World) : MemoryContextResult × World :=
  match impl.contextBuilder with
  | none => ({ error := {
      code := ascii "context_build_failed", message := ascii "context builder unavailable" } }, w)
  | some builder =>
      let (result, connection) := AgentMemory.buildContext host.toContextHost builder request
        w.connection
      (result, { w with connection })

def atomicWrite (request : MemoryPayloadWriteRequest) (w : World) :
    Except Thrown MemoryPayloadWriteResult × World :=
  match impl.payloadService with
  | none => (.ok {
      replacementContent := request.content
      error := {
        code := ascii "payload_write_failed", message := ascii "payload service unavailable" } }, w)
  | some service =>
      let (reply, w) := (AgentMemory.writePayload service request).run host.payloadHost.perform w
      (reply.mapError host.thrown, w)

def atomicRead (uri : Text) (w : World) : MemoryPayloadReadResult :=
  match impl.payloadService with
  | none => payloadReadFailed "payload service unavailable"
  | some service => AgentMemory.readPayload host.weaklyCanonical service w uri

def atomicSearch (request : MemorySearchRequest) (w : World) : MemorySearchResult × World :=
  if !impl.store then
    ({ error := {
        code := ascii "search_unavailable"
        message := AgentMemory.storeUnavailableMessage impl.toRuntimeServices } }, w)
  else
    let (result, connection) := searchLongTermMemory host.toQueryHost request w.connection
    ({ succeeded := result.succeeded, hits := result.results, error := result.error },
      { w with connection })

def atomicStats (w : World) : MemoryStatsResult × World :=
  if !impl.store then
    ({ error := {
        code := ascii "stats_unavailable"
        message := AgentMemory.storeUnavailableMessage impl.toRuntimeServices } }, w)
  else
    let (result, connection) := getStoreStats host.toHost w.connection
    (result, { w with connection })

/-- Each operation of the runtime at once. -/
def atomic : Handler (RuntimeOp.signature.fallible Thrown) World
  | .appendEvent event => performSql host (AgentMemory.appendEvent impl.toRuntimeServices event)
  | .buildContext request => fun w =>
      (.ok (impl.atomicContext host request w).1, (impl.atomicContext host request w).2)
  | .writePayload request => impl.atomicWrite host request
  | .readPayload uri => fun w => (.ok (impl.atomicRead host uri w), w)
  | .consolidate request => impl.atomicConsolidate host request
  | .searchMemory request => fun w =>
      (.ok (impl.atomicSearch host request w).1, (impl.atomicSearch host request w).2)
  | .getStats => fun w => (.ok (impl.atomicStats host w).1, (impl.atomicStats host w).2)

end BuiltinMemoryRuntime

/-! ## The bodies without their locks -/

@[simp] theorem unlocked_getService {α : Type} (service : α) :
    (getService service).unlocked = pure service :=
  Program.unlocked_locked _ _

@[simp] theorem unlocked_storeCall (op : ServiceOp) :
    (storeCall op).unlocked = Program.perform (S := ServiceOp.signature) op :=
  Program.unlocked_locked _ _

@[simp] theorem unlocked_readStore (call : StoreRead) :
    (readStore call).unlocked = Program.perform (S := ServiceOp.signature) (.read call) :=
  Program.unlocked_locked _ _

theorem run_storeCall_bind {α : Type} (op : ServiceOp)
    (f : ServiceOp.signature.Reply op → ServiceM α) (h : Handler ServiceOp.signature World)
    (w : World) :
    (storeCall op >>= f).unlocked.run h w = (f (h op w).1).unlocked.run h (h op w).2 := rfl

theorem run_operate_bind {α : Type} (op : ServiceOp)
    (f : ServiceOp.signature.Reply op → ServiceM α) (h : Handler ServiceOp.signature World)
    (w : World) :
    (Program.operate (S := ServiceOp.signature) op >>= f).unlocked.run h w =
      (f (h op w).1).unlocked.run h (h op w).2 := rfl

namespace BuiltinMemoryRuntime

variable (host : ServiceHost) (impl : BuiltinMemoryRuntime)

theorem run_appendEvent_unlocked (event : MemoryEvent) (w : World) :
    (impl.appendEvent event).unlocked.run (impl.perform host) w =
      performSql host (AgentMemory.appendEvent impl.toRuntimeServices event) w := by
  unfold appendEvent AgentMemory.appendEvent
  cases impl.store with
  | false => rfl
  | true =>
      rcases hrun : (saveEvent event).runOn host.toHost w.connection with ⟨reply, c⟩
      have hperform : impl.perform host (.saveEvent event) w =
          (reply.mapError host.thrown, { w with connection := c }) := by
        change performSql host (saveEvent event) w = _
        unfold performSql
        rw [hrun]
      refine (run_storeCall_bind _ _ _ _).trans ?_
      simp only [Bool.not_true, Bool.false_eq_true, if_false]
      rw [hperform]
      unfold performSql
      unfold SqlM.runOn at hrun ⊢
      rw [Program.run_bind, hrun]
      cases reply <;> rfl

/-! ### Context -/

variable {host} in
theorem perform_read (call : StoreRead) {reply : StoreRead.signature.Reply call} {w : World}
    {c : Connection} (h : host.toQueryHost.read call w.connection = (reply, c)) :
    impl.perform host (.read call) w = (reply, { w with connection := c }) := by
  change performRead host call w = _
  unfold performRead
  rw [h]

theorem run_contextMessages (builder : ContextBuilder) (request : MemoryContextRequest) (w : World) :
    (contextMessages builder request).unlocked.run (impl.perform host) w =
      (.ok (AgentMemory.contextMessages host.toHost builder request w.connection).1,
        { w with connection :=
            (AgentMemory.contextMessages host.toHost builder request w.connection).2 }) := by
  unfold contextMessages AgentMemory.contextMessages loadMessagesForContext
    AgentMemory.loadMessagesForContext
  split
  · dsimp only
    split
    · rfl
    · refine (run_storeCall_bind _ _ _ _).trans ?_
      rcases hread : loadRecentEvents host.toHost request.agentId request.sessionId
        (.ofInt (messageLimit request)) w.connection with ⟨events, c⟩
      rw [impl.perform_read (.loadRecentEvents ..) hread]
      dsimp only
      split <;> rfl
  · rfl

theorem run_contextLongTerm (builder : ContextBuilder) (request : MemoryContextRequest) (w : World) :
    (contextLongTerm builder request).unlocked.run (impl.perform host) w =
      (.ok (AgentMemory.contextLongTerm host.toQueryHost builder request w.connection).1,
        { w with connection :=
            (AgentMemory.contextLongTerm host.toQueryHost builder request w.connection).2 }) := by
  unfold contextLongTerm AgentMemory.contextLongTerm selectLongTermMemory
    AgentMemory.selectLongTermMemory
  dsimp only
  split
  · split
    · rfl
    · split
      · refine (run_storeCall_bind _ _ _ _).trans ?_
        rcases hread : loadLongTermMemory host.toQueryHost request.agentId
          (.ofInt (longTermMemoryLimit builder request)) request.sessionId w.connection with
          ⟨snapshot, c⟩
        rw [impl.perform_read (.loadLongTermMemory ..) hread]
        dsimp only
        split <;> rfl
      · refine (run_storeCall_bind _ _ _ _).trans ?_
        rcases hsearch : searchLongTermMemory host.toQueryHost (contextSearchRequest request
          (longTermMemoryLimit builder request)) w.connection with ⟨searchResult, c⟩
        rw [impl.perform_read (.searchLongTermMemory _) hsearch]
        dsimp only
        split
        · rfl
        · refine (run_storeCall_bind _ _ _ _).trans ?_
          rcases hread : loadLongTermMemory host.toQueryHost request.agentId
            (.ofInt (longTermMemoryLimit builder request)) request.sessionId c with
            ⟨snapshotResult, c'⟩
          rw [impl.perform_read (.loadLongTermMemory ..) (w := { w with connection := c })
            hread]
          dsimp only
          split <;> rfl
  · rfl

theorem run_loadPayloadsForContext (builder : ContextBuilder) (request : MemoryContextRequest)
    (w : World) :
    (loadPayloadsForContext builder request).unlocked.run (impl.perform host) w =
      (.ok (AgentMemory.loadPayloadsForContext host.toQueryHost builder request w.connection).1,
        { w with connection :=
            (AgentMemory.loadPayloadsForContext host.toQueryHost builder request
              w.connection).2 }) := by
  unfold loadPayloadsForContext AgentMemory.loadPayloadsForContext
  dsimp only
  split
  · rfl
  · refine (run_storeCall_bind _ _ _ _).trans ?_
    rcases hread : loadRecentPayloads host.toQueryHost request.agentId request.sessionId
      (.ofInt (payloadLimit request)) w.connection with ⟨payloads, c⟩
    rw [impl.perform_read (.loadRecentPayloads ..) hread]
    dsimp only
    split <;> rfl

theorem run_buildContext_unlocked (request : MemoryContextRequest) (w : World) :
    (impl.buildContext host request).unlocked.run (impl.perform host) w =
      (.ok (impl.atomicContext host request w).1, (impl.atomicContext host request w).2) := by
  unfold buildContext atomicContext
  cases impl.contextBuilder with
  | none => rfl
  | some builder =>
      change (buildContextWith host builder request).unlocked.run (impl.perform host) w = _
      unfold buildContextWith AgentMemory.buildContext
      rw [Program.unlocked_bind, Program.run_bind, run_contextMessages]
      dsimp only
      split
      · rfl
      · rw [Program.unlocked_bind, Program.run_bind, run_contextLongTerm]
        dsimp only
        split
        · rfl
        · split
          · rw [Program.unlocked_bind, Program.run_bind, run_loadPayloadsForContext]
            dsimp only
            split <;> rfl
          · rfl

/-! ### Payloads -/

theorem run_payloadCall (op : PayloadOp) (w : World) :
    (payloadCall op).unlocked.run (impl.perform host) w =
      (.ok (host.payloadHost.perform op w).1, (host.payloadHost.perform op w).2) := by
  cases op <;> rfl

theorem run_writePayload_unlocked (request : MemoryPayloadWriteRequest) (w : World) :
    (impl.writePayload host request).unlocked.run (impl.perform host) w =
      impl.atomicWrite host request w := by
  unfold writePayload atomicWrite
  cases impl.payloadService with
  | none => rfl
  | some service =>
      change (Program.unlocked (Program.locked _ _)).run (impl.perform host) w = _
      rw [Program.unlocked_locked, Program.unlocked_translate]
      exact Program.run_translate (impl.run_payloadCall host) _ w

theorem run_readPayload_unlocked (uri : Text) (w : World) :
    (impl.readPayload host uri).unlocked.run (impl.perform host) w =
      (.ok (impl.atomicRead host uri w), w) := by
  unfold readPayload atomicRead
  cases hservice : impl.payloadService with
  | none => rfl
  | some service =>
      change (Program.unlocked (Program.locked _ _)).run (impl.perform host) w = _
      rw [Program.unlocked_locked]
      unfold readPayloadWith AgentMemory.readPayload readPayloadWith
      dsimp only
      split
      · rfl
      · split
        · rfl
        · split
          · rfl
          · have hload : impl.perform host (.loadTextFile (canonicalPath host.weaklyCanonical
                (uri.drop 7))) w = (loadTextFile w service.canonicalPayloadDirectory
                  (canonicalPath host.weaklyCanonical (uri.drop 7)), w) := by
              change (impl.payloadService.bind _, w) = _
              rw [hservice]
              rfl
            refine (run_operate_bind _ _ _ _).trans ?_
            rw [hload]
            dsimp only
            cases loadTextFile w service.canonicalPayloadDirectory
              (canonicalPath host.weaklyCanonical (uri.drop 7)) with
            | none => rfl
            | some content => cases content <;> rfl

/-! ### Consolidation and queries -/

theorem run_loadStartCursor (request : MemoryConsolidationRequest) (w : World) :
    (loadStartCursor request).unlocked.run (impl.perform host) w =
      (.ok (AgentMemory.loadStartCursor host.toHost request w.connection).1,
        { w with connection :=
            (AgentMemory.loadStartCursor host.toHost request w.connection).2 }) := by
  unfold loadStartCursor AgentMemory.loadStartCursor
  split
  · rfl
  · refine (run_storeCall_bind _ _ _ _).trans ?_
    rcases hread : loadConsolidationCursor host.toHost request.agentId request.sessionId
      w.connection with ⟨cursorResult, c⟩
    rw [impl.perform_read (.loadConsolidationCursor ..) hread]
    dsimp only
    split_ifs <;> rfl

theorem run_loadEvents (request : MemoryConsolidationRequest) (startCursor : Text) (w : World) :
    (loadEvents request startCursor).unlocked.run (impl.perform host) w =
      (.ok (AgentMemory.loadEvents host.toHost request startCursor w.connection).1,
        { w with connection :=
            (AgentMemory.loadEvents host.toHost request startCursor w.connection).2 }) := by
  unfold loadEvents AgentMemory.loadEvents
  refine (run_storeCall_bind _ _ _ _).trans ?_
  rcases hread : loadEventsAfterCursor host.toHost request.agentId request.sessionId startCursor
    request.excludedSessionIds w.connection with ⟨eventsResult, c⟩
  rw [impl.perform_read (.loadEventsAfterCursor ..) hread]
  dsimp only
  split_ifs <;> rfl

theorem run_consolidateEvents (request : MemoryConsolidationRequest) (events : List MemoryEvent)
    (w : World) :
    (consolidateEvents request events impl.modelClient.isSome).unlocked.run (impl.perform host) w =
      performSql host (AgentMemory.consolidate host.toHost (some impl.longTermProcessor) request
        events (impl.modelClient.map fun client => client w.clock)) w.tick := by
  have hmodel : (if impl.modelClient.isSome then impl.modelClient.map fun client => client w.clock
      else none) = impl.modelClient.map fun client => client w.clock := by
    cases impl.modelClient <;> rfl
  have hextract : impl.perform host (.extract impl.modelClient.isSome (build request events)) w =
      ((extract host.toHost (some impl.longTermProcessor)
        (impl.modelClient.map fun client => client w.clock) (build request events)).mapError
          host.thrown, w.tick) := by
    rw [← hmodel]
    rfl
  refine (run_operate_bind _ _ _ _).trans ?_
  rw [hextract]
  unfold AgentMemory.consolidate
  dsimp only
  cases extract host.toHost (some impl.longTermProcessor)
    (impl.modelClient.map fun client => client w.clock) (build request events) with
  | error e => rfl
  | ok updated =>
      obtain ⟨update, fallbackUsed⟩ := updated
      have hpersist : ∀ p : ServiceM (Except Thrown MemoryConsolidationResult),
          p.unlocked = Program.perform (S := ServiceOp.signature)
            (.persist request (build request events) update fallbackUsed) →
          (p >>= Program.ofExcept).unlocked.run (impl.perform host) w.tick =
            performSql host (persist request (build request events) update fallbackUsed)
              w.tick := by
        intro p hp
        rw [Program.unlocked_bind, hp, Program.run_bind, Program.run_perform]
        have hperform : impl.perform host
            (.persist request (build request events) update fallbackUsed) w.tick =
              performSql host (persist request (build request events) update fallbackUsed)
                w.tick := rfl
        dsimp only
        rw [hperform]
        rcases performSql host (persist request (build request events) update fallbackUsed)
          w.tick with ⟨reply, w'⟩
        cases reply <;> rfl
      refine (hpersist (persistBatch request (build request events) update fallbackUsed) ?_).trans ?_
      · unfold persistBatch
        dsimp only
        split <;> rfl
      · rfl

theorem run_consolidate_unlocked (request : MemoryConsolidationRequest) (w : World) :
    (impl.consolidate request).unlocked.run (impl.perform host) w =
      impl.atomicConsolidate host request w := by
  unfold consolidate atomicConsolidate consolidateWithModel loadForConsolidation unavailable
  dsimp only
  cases impl.store with
  | false => rfl
  | true =>
      cases impl.consolidationService with
      | false => rfl
      | true =>
          change (Program.unlocked (Program.locked _ _)).run (impl.perform host) w = _
          rw [Program.unlocked_locked]
          unfold consolidateLocked
          rw [Program.unlocked_bind, Program.run_bind, run_loadStartCursor]
          simp only [Bool.not_true, Bool.false_eq_true, if_false]
          rcases AgentMemory.loadStartCursor host.toHost request w.connection with ⟨start, c⟩
          cases start with
          | error error => rfl
          | ok startCursor =>
              dsimp only
              rw [Program.unlocked_bind, Program.run_bind, run_loadEvents]
              dsimp only
              rcases AgentMemory.loadEvents host.toHost request startCursor c with ⟨loaded, c'⟩
              cases loaded with
              | error error => rfl
              | ok events =>
                  exact impl.run_consolidateEvents host request events { w with connection := c' }

theorem run_searchMemory_unlocked (request : MemorySearchRequest) (w : World) :
    (impl.searchMemory request).unlocked.run (impl.perform host) w =
      (.ok (impl.atomicSearch host request w).1, (impl.atomicSearch host request w).2) := by
  unfold searchMemory atomicSearch
  cases impl.store with
  | false => rfl
  | true => rfl

theorem run_getStats_unlocked (w : World) :
    impl.getStats.unlocked.run (impl.perform host) w =
      (.ok (impl.atomicStats host w).1, (impl.atomicStats host w).2) := by
  unfold getStats atomicStats
  cases impl.store with
  | false => rfl
  | true => rfl

theorem run_body_unlocked (op : RuntimeOp) (w : World) :
    (impl.body host op).unlocked.run (impl.perform host) w = impl.atomic host op w := by
  cases op with
  | appendEvent event => exact impl.run_appendEvent_unlocked host event w
  | buildContext request => exact impl.run_buildContext_unlocked host request w
  | writePayload request => exact impl.run_writePayload_unlocked host request w
  | readPayload uri => exact impl.run_readPayload_unlocked host uri w
  | consolidate request => exact impl.run_consolidate_unlocked host request w
  | searchMemory request => exact impl.run_searchMemory_unlocked host request w
  | getStats => exact impl.run_getStats_unlocked host w

end BuiltinMemoryRuntime

/-! ## Requests in turn -/

section Turns

variable {server : MemoryHttpRoutes} {host : ServiceHost} {runtime : BuiltinMemoryRuntime}
  {w : World} {service : Service}

theorem run_serve_unlocked (req : RoutedRequest) (w : World) :
    (server.serve host runtime req).unlocked.run (runtime.perform host) w =
      (server.processRequest req).run (runtime.atomic host) w := by
  have hlower : Program.lower (runtime.perform host) (fun op => (runtime.body host op).unlocked) =
      runtime.atomic host :=
    funext fun op => funext fun w => runtime.run_body_unlocked host op w
  unfold MemoryHttpRoutes.serve
  rw [Program.unlocked_interpret, Program.run_interpret, hlower]

theorem runAll_serve (reqs : List RoutedRequest) (w : World) :
    Program.runAll (runtime.perform host)
        ((reqs.map (server.serve host runtime)).map (·.unlocked)) w =
      Program.runAll (runtime.atomic host) (reqs.map server.processRequest) w := by
  induction reqs generalizing w with
  | nil => rfl
  | cons req reqs ih =>
      simp only [List.map_cons, Program.runAll_cons]
      rw [run_serve_unlocked, ih]

/-- A new server can handle requests that come one after the other. -/
theorem exists_served (server : MemoryHttpRoutes) (host : ServiceHost)
    (runtime : BuiltinMemoryRuntime) (reqs : List RoutedRequest) (w : World) :
    ∃ service, server.Reaches host runtime w service ∧
      service.threads.map (·.program) = reqs.map (server.serve host runtime) ∧
      service.state = (Program.runAll (runtime.atomic host) (reqs.map server.processRequest) w).2 := by
  have hnew : server.Reaches host runtime w { state := w } := .refl
  have hserved : ∀ program ∈ reqs.map (server.serve host runtime),
      ∃ req, program = server.serve host runtime req := by
    intro program hprogram
    obtain ⟨req, -, rfl⟩ := List.mem_map.mp hprogram
    exact ⟨req, rfl⟩
  obtain ⟨service, hturn⟩ := Pool.exists_inTurn (fun _ => disciplined_of_served) hnew hserved
  obtain ⟨threads, -, -, hstate⟩ := hturn.run (by simp)
  rw [runAll_serve] at hstate
  exact ⟨service, hturn.reachable hnew hserved, hturn.programs, hstate⟩

/-- Whatever the server has been through, requests that come one after the other can be handled,
and are handled as if each operation of the runtime were done at once, while no cleanup of payload
files goes on. -/
theorem served_in_turn (hservice : server.Reaches host runtime w service)
    (hidle : ∀ thread ∈ service.threads, thread.rest.Done) (reqs : List RoutedRequest) :
    (∃ service', Pool.InTurn (runtime.perform host) service
      (reqs.map (server.serve host runtime)) service') ∧
    ∀ service', Pool.InTurn (runtime.perform host) service
        (reqs.map (server.serve host runtime)) service' →
      ∃ threads, service'.threads = service.threads ++ threads ∧
        (threads.map (·.rest) = (Program.runAll (runtime.atomic host)
          (reqs.map server.processRequest) service.state).1.map .ofExcept) ∧
        service'.state = (Program.runAll (runtime.atomic host)
          (reqs.map server.processRequest) service.state).2 := by
  constructor
  · refine Pool.exists_inTurn (fun _ => disciplined_of_served) hservice ?_
    intro program hprogram
    obtain ⟨req, -, rfl⟩ := List.mem_map.mp hprogram
    exact ⟨req, rfl⟩
  · intro service' hturn
    rw [← runAll_serve]
    exact hturn.run hidle

/-- Two events are stored on a new server. -/
theorem served_in_turn_twice :
    let runtime : BuiltinMemoryRuntime := { store := true }
    ∃ service', Pool.InTurn (runtime.perform .plain) { state := .blank }
        ([eventRequest, eventRequest].map (MemoryHttpRoutes.plain.serve .plain runtime)) service' ∧
      service'.state.connection.current.events.rows.length = 2 := by
  intro runtime
  have hservice : MemoryHttpRoutes.plain.Reaches .plain runtime .blank { state := .blank } := .refl
  obtain ⟨⟨service', hturn⟩, hruns⟩ :=
    served_in_turn hservice (by simp) [eventRequest, eventRequest]
  obtain ⟨threads, -, -, hstate⟩ := hruns service' hturn
  refine ⟨service', hturn, ?_⟩
  rw [hstate]
  decide +kernel

end Turns

end AgentMemory
