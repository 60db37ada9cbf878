import AgentMemory.Verification.Service.Effects
import AgentMemory.Verification.Service.Alone
import AgentMemory.Verification.Store.Lossless

/-! # Every acknowledged event is stored once

Threads may append events in any order and other requests may come in between. What the log has
gained is what the accepted saves have brought, one row for each and in their order, and each
request brings what it is told of. -/

namespace AgentMemory

open Foundation Json Httplib

/-! ## The log and the history -/

/-- The values that are stored for an event, if its metadata can be serialised. -/
def MemoryEvent.stored? (event : MemoryEvent) : Option EventValues :=
  ((if event.metadata.isObject then event.metadata.dump else (Json.object []).dump).map
    event.values).toOption

/-- The event of a save that was accepted. -/
def acceptedEvent? : ServiceOp.signature.Called → Option MemoryEvent
  | ⟨.saveEvent event, .ok result⟩ =>
      if MemoryOperationResult.succeeded result then some event else none
  | _ => none

/-- The rows beyond those at the start are the accepted events, in the order of the calls. -/
def LogMatches (rows : List (Rowid × EventRow)) (history : List ServiceOp.signature.Called)
    (w : World) : Prop :=
  ∃ appended, w.connection.current.events.rows = rows ++ appended ∧
    appended.map (fun row => some row.2.toEventValues) =
      (history.filterMap acceptedEvent?).map MemoryEvent.stored?

section History

variable {host : ServiceHost} {runtime : BuiltinMemoryRuntime} {rows : List (Rowid × EventRow)}

/-- A save stores the event and reports a success, or does neither. -/
theorem run_saveEvent_cases (host : Host) (event : MemoryEvent) (c : Connection) :
    (∃ c' i row, (saveEvent event).runOn host c = (.ok memorySuccess, c') ∧
        some row.toEventValues = event.stored? ∧
        c'.current.events.rows = c.current.events.rows ++ [(i, row)]) ∨
      ∃ reply c', (saveEvent event).runOn host c = (reply, c') ∧
        (∀ result, reply = .ok result → result.succeeded = false) ∧
        c'.current.events.rows = c.current.events.rows := by
  unfold saveEvent saveEventUnlocked MemoryEvent.stored?
  rw [run_reporting, run_andThen]
  rcases run_step host .prepare c with ⟨db, heffect, hrun⟩ | ⟨message, hrun⟩
  · cases heffect
    rw [hrun]
    dsimp only
    cases (if event.metadata.isObject then event.metadata.dump else (Json.object []).dump) with
    | error e => exact .inr ⟨_, _, rfl, by simp, rfl⟩
    | ok metadataJson =>
        have hbind : (Program.ofExcept (.ok metadataJson) >>= fun metadataJson =>
            step (.insertEvent (event.values metadataJson)) : SqlM SqlResult) =
            step (.insertEvent (event.values metadataJson)) := rfl
        rw [hbind]
        rcases run_step host (.insertEvent (event.values metadataJson))
          { c with clock := c.clock + 1 } with ⟨db, heffect, hrun⟩ | ⟨message, hrun⟩
        · obtain ⟨events, hins, hdb⟩ := Option.bind_eq_some_iff.mp heffect
          cases hdb
          obtain ⟨i, -, hrows⟩ := Table.insert_eq_some hins
          rw [hrun]
          exact .inl ⟨_, i, _, rfl, rfl, hrows⟩
        · rw [hrun]
          exact .inr ⟨_, _, rfl, fun result hresult => by cases hresult; rfl, rfl⟩
  · rw [hrun]
    exact .inr ⟨_, _, rfl, fun result hresult => by cases hresult; rfl, rfl⟩

/-- Nothing but a save touches the log. -/
theorem events_notMem_tables {op : ServiceOp} (hsave : ¬∃ event, op = .saveEvent event) :
    .events ∉ op.tables := by
  cases op with
  | saveEvent event => exact absurd ⟨event, rfl⟩ hsave
  | payload op => cases op <;> simp [ServiceOp.tables]
  | _ => simp [ServiceOp.tables]

/-- One operation adds to the log what it adds to the history. -/
theorem logMatches_step (history : List ServiceOp.signature.Called) (op : ServiceOp) (w : World)
    (h : LogMatches rows history w) :
    LogMatches rows (history ++ [⟨op, (runtime.perform host op w).1⟩])
      (runtime.perform host op w).2 := by
  obtain ⟨appended, hrows, hvalues⟩ := h
  by_cases hsave : ∃ event, op = .saveEvent event
  · obtain ⟨event, rfl⟩ := hsave
    rcases run_saveEvent_cases host.toHost event w.connection with
      ⟨c', i, row, hrun, hstored, hgrown⟩ | ⟨reply, c', hrun, hfailed, hkept⟩
    · have hperform : runtime.perform host (.saveEvent event) w =
          (.ok memorySuccess, { w with connection := c' }) := by
        change BuiltinMemoryRuntime.performSql host (saveEvent event) w = _
        unfold BuiltinMemoryRuntime.performSql
        rw [hrun]
        rfl
      rw [hperform]
      refine ⟨appended ++ [(i, row)], ?_, ?_⟩
      · dsimp only
        rw [hgrown, hrows, List.append_assoc]
      · rw [List.filterMap_append, List.map_append, List.map_append, hvalues]
        exact congrArg _ (congrArg (fun stored => [stored]) hstored)
    · have hperform : runtime.perform host (.saveEvent event) w =
          (reply.mapError host.thrown, { w with connection := c' }) := by
        change BuiltinMemoryRuntime.performSql host (saveEvent event) w = _
        unfold BuiltinMemoryRuntime.performSql
        rw [hrun]
      have hnone : acceptedEvent? ⟨.saveEvent event, reply.mapError host.thrown⟩ = none := by
        cases reply with
        | error e => rfl
        | ok result => exact if_neg (by simp [hfailed result rfl])
      rw [hperform]
      refine ⟨appended, ?_, ?_⟩
      · dsimp only
        rw [hkept, hrows]
      · rw [List.filterMap_append, List.filterMap_cons_none hnone, List.filterMap_nil,
          List.append_nil, hvalues]
  · have hnone : acceptedEvent? ⟨op, (runtime.perform host op w).1⟩ = none := by
      cases op with
      | saveEvent event => exact absurd ⟨event, rfl⟩ hsave
      | _ => rfl
    refine ⟨appended, ?_, ?_⟩
    · rw [perform_events (events_notMem_tables hsave), hrows]
    · rw [List.filterMap_append, List.filterMap_cons_none hnone, List.filterMap_nil,
        List.append_nil, hvalues]

theorem logMatches_of_reaches {server : MemoryHttpRoutes} {w : World} {service : Service}
    (hservice : server.Reaches host runtime w service) :
    LogMatches w.connection.current.events.rows service.history service.state := by
  refine Pool.history_invariant (I := LogMatches w.connection.current.events.rows)
    (P := fun _ => True) (fun history op w _ => logMatches_step history op w) ?_ ?_ ?_ hservice
  · rintro history w w' ⟨entry, rfl⟩ ⟨appended, hrows, hvalues⟩
    refine ⟨appended, ?_, hvalues⟩
    rw [cleanup_connection]
    exact hrows
  · intro program hserved
    exact (disciplined_of_served hserved).all fun _ _ _ => trivial
  · exact ⟨[], (List.append_nil _).symm, rfl⟩

end History

/-! ## The threads -/

/-- The event of a call of the runtime that reported a success. -/
def acknowledgedEvent? : (op : RuntimeOp) × Except Thrown (RuntimeOp.signature.Reply op) →
    Option MemoryEvent
  | ⟨.appendEvent event, .ok result⟩ =>
      if MemoryOperationResult.succeeded result then some event else none
  | _ => none

section Threads

variable {server : MemoryHttpRoutes} {host : ServiceHost} {runtime : BuiltinMemoryRuntime}
  {w : World} {service : Service}

/-- An operation of the runtime reports a success for the event that it has saved, if any. -/
theorem filterMap_acceptedEvent? {op : RuntimeOp}
    {reply : Except Thrown (RuntimeOp.signature.Reply op)}
    {log : List ServiceOp.signature.Called} (h : (runtime.body host op).unlocked.Ends log reply) :
    log.filterMap acceptedEvent? = (acknowledgedEvent? ⟨op, reply⟩).toList := by
  by_cases happend : ∃ event, op = .appendEvent event
  · obtain ⟨event, rfl⟩ := happend
    change (runtime.appendEvent event).unlocked.Ends log reply at h
    unfold BuiltinMemoryRuntime.appendEvent at h
    cases hstore : runtime.store with
    | false =>
        rw [hstore] at h
        obtain ⟨rfl, rfl⟩ := h
        rfl
    | true =>
        rw [hstore] at h
        obtain ⟨saved, rest, rfl, h⟩ := h
        cases saved with
        | error e =>
            obtain ⟨rfl, rfl⟩ := h
            rfl
        | ok result =>
            obtain ⟨rfl, rfl⟩ := h
            cases hresult : MemoryOperationResult.succeeded result with
            | true => simp [acceptedEvent?, acknowledgedEvent?, hresult, memorySuccess]
            | false =>
                simp only [Bool.false_eq_true, if_false]
                split <;> simp [acceptedEvent?, acknowledgedEvent?, hresult, memoryFailure]
  · have hcalls := h.all (P := op.Calls)
      (Program.All.unlocked ((runtime.balanced_body host op).all fun _ _ h => h.2))
    have hnone : acknowledgedEvent? ⟨op, reply⟩ = none := by
      cases op with
      | appendEvent event => exact absurd ⟨event, rfl⟩ happend
      | _ => rfl
    rw [hnone, List.filterMap_eq_nil_iff.mpr]
    · rfl
    · rintro ⟨called, result⟩ hmem
      have hcalled := hcalls _ hmem
      cases called with
      | saveEvent event =>
          cases op with
          | appendEvent event' => exact absurd ⟨event', rfl⟩ happend
          | _ => cases hcalled
      | _ => rfl

/-- The calls of the runtime that a request makes report what its thread has saved. -/
theorem filterMap_acknowledgedEvent?
    {calls : List ((op : RuntimeOp) × Except Thrown (RuntimeOp.signature.Reply op))}
    {logs : List (List ServiceOp.signature.Called)}
    (h : List.Forall₂ (fun call log => (runtime.body host call.1).unlocked.Ends log call.2)
      calls logs) :
    logs.flatten.filterMap acceptedEvent? = calls.filterMap acknowledgedEvent? := by
  induction h with
  | nil => rfl
  | @cons call log calls logs hends _ ih =>
      rw [List.flatten_cons, List.filterMap_append, ih, filterMap_acceptedEvent? hends]
      cases hevent : acknowledgedEvent? call with
      | none => rw [List.filterMap_cons_none hevent, Option.toList_none, List.nil_append]
      | some event => rw [List.filterMap_cons_some hevent, Option.toList_some, List.singleton_append]

/-- The response to an event that is stored. -/
def eventStored : Response :=
  Response.setContent { status := 200 }
    (ascii "\x7b\"data\":\x7b\"succeeded\":true\x7d,\"ok\":true,\"schemaVersion\":1\x7d")
    "application/json"

/-- The text of a document for an error begins otherwise than that for a success. -/
theorem dump_errorEnvelope_ne {error : MemoryError} {text : Text}
    (h : (errorEnvelope error).dump = .ok text) : text ≠ eventStored.body := by
  have hmembers : errorEnvelope error = .object [(ascii "error", errorToJson error),
      (ascii "ok", .boolean false), (ascii "schemaVersion", .integer 1)] := by
    simp +decide [errorEnvelope, withSchema, Json.ofMembers, Json.set, insertMember, Json.isObject]
  rw [hmembers] at h
  obtain ⟨members, hdump, htext⟩ := except_bind_eq_ok h
  obtain ⟨name, hname, hrest⟩ := except_bind_eq_ok hdump
  obtain ⟨first, -, hrest⟩ := except_bind_eq_ok hrest
  obtain ⟨others, -, hrest⟩ := except_bind_eq_ok hrest
  cases hname
  cases hrest
  cases htext
  intro heq
  cases heq

theorem dumped_stored :
    (successEnvelope (.ofMembers [("succeeded", .boolean true)])).dumped = .ok eventStored.body := by
  have hmembers : successEnvelope (.ofMembers [("succeeded", .boolean true)]) = .object [
      (ascii "data", .object [(ascii "succeeded", .boolean true)]),
      (ascii "ok", .boolean true), (ascii "schemaVersion", .integer 1)] := by
    simp +decide [successEnvelope, withSchema, Json.ofMembers, Json.set, insertMember]
  rw [hmembers]
  rfl

theorem respondTo_appendEvent (server : MemoryHttpRoutes) (event : MemoryEvent)
    (reply : Except Thrown MemoryOperationResult) :
    server.respondTo (reply.map ((RuntimeOp.appendEvent event).document
        server.protocol.printFloat)) = eventStored ↔
      acknowledgedEvent? ⟨.appendEvent event, reply⟩ = some event := by
  have hfailed (e : Thrown) : server.failure e ≠ eventStored := by
    intro h
    have hstatus := server.status_failure e
    rw [h] at hstatus
    cases hstatus
  cases reply with
  | error e => exact iff_of_false (hfailed e) (by simp [acknowledgedEvent?])
  | ok result =>
      have hdocument : (RuntimeOp.appendEvent event).document server.protocol.printFloat result =
          if result.succeeded then successEnvelope (.ofMembers [("succeeded", .boolean true)])
          else errorEnvelope result.error := rfl
      change server.respondTo (.ok _) = _ ↔ _
      rw [hdocument]
      have hbind (json : Json) : (Except.ok json >>= Json.dumped) = json.dumped := rfl
      unfold MemoryHttpRoutes.respondTo
      rw [hbind]
      cases hresult : result.succeeded with
      | true =>
          rw [if_pos rfl, dumped_stored]
          exact iff_of_true rfl (if_pos hresult)
      | false =>
          rw [if_neg Bool.false_ne_true]
          refine iff_of_false ?_ (by simp [acknowledgedEvent?, hresult])
          unfold Json.dumped
          cases hdump : (errorEnvelope result.error).dump with
          | error e => exact hfailed _
          | ok text => exact fun h => dump_errorEnvelope_ne hdump (congrArg Response.body h)

theorem eq_appendEvent_of_acknowledged {op : RuntimeOp}
    {reply : Except Thrown (RuntimeOp.signature.Reply op)} {event : MemoryEvent}
    (h : acknowledgedEvent? ⟨op, reply⟩ = some event) : op = .appendEvent event := by
  cases op with
  | appendEvent event' =>
      cases reply with
      | error e => cases h
      | ok result =>
          cases hresult : MemoryOperationResult.succeeded result with
          | true =>
              cases h.symm.trans (if_pos hresult)
              rfl
          | false => cases h.symm.trans (if_neg (by simp [hresult]))
  | _ => cases h

/-- The events that a log has saved. -/
def savedEvents (log : List ServiceOp.signature.Called) : List MemoryEvent :=
  log.filterMap acceptedEvent?

/-- No event is saved by reading. -/
theorem getOperation?_ne_appendEvent (path : Text) (event : MemoryEvent) :
    MemoryHttpRoutes.getOperation? path ≠ some (.appendEvent event) := by
  unfold MemoryHttpRoutes.getOperation?
  split
  · split_ifs <;> simp
  · split_ifs <;> simp

/-- A request saves at most the event that it comes to, and on a route of its own its response, if
it asks for all of it, says whether it has. -/
structure Accounts (server : MemoryHttpRoutes) (req : RoutedRequest) (res : Response)
    (saved : List MemoryEvent) : Prop where
  requested : ∀ event ∈ saved, saved = [event] ∧ server.LetsThrough req ∧
    server.operation? req = some (.appendEvent event)
  told : server.LetsThrough req → (req.method = ascii "POST" → server.mcpPath req.path = none) →
    req.hasHeader "Range" = false → ∀ event, server.operation? req = some (.appendEvent event) →
      (res = eventStored ↔ saved = [event])

theorem Handled.accounts {thread : Thread ServiceOp.signature Mutex Thrown Response}
    {req : RoutedRequest}
    {calls : List ((op : RuntimeOp) × Except Thrown (RuntimeOp.signature.Reply op))} {res : Response}
    (h : Handled server host runtime thread req calls res) :
    Accounts server req res (savedEvents thread.log) := by
  obtain ⟨-, -, hends, logs, hlog, hlogs⟩ := h
  have : ∀ op, Nonempty ((RuntimeOp.signature.fallible Thrown).Reply op) :=
    fun _ => ⟨.error .other⟩
  obtain ⟨hrun, htrace⟩ := hends.run_scripted
  have hsaved : savedEvents thread.log = calls.filterMap acknowledgedEvent? := by
    rw [savedEvents, hlog, filterMap_acknowledgedEvent? hlogs]
  rw [hsaved]
  by_cases hreq : server.LetsThrough req
  · have hcalls := MemoryHttpRoutes.calls_processRequest Program.scripted calls hreq
    rw [AgentMemory.calls, htrace] at hcalls
    cases hop : server.operation? req with
    | none =>
        rw [hop] at hcalls
        rw [List.map_eq_nil_iff.mp hcalls]
        exact ⟨by simp, fun _ _ _ event hevent => by rw [hop] at hevent; cases hevent⟩
    | some op =>
        rw [hop] at hcalls
        obtain ⟨⟨_, reply⟩, rfl, rfl⟩ := List.map_eq_singleton_iff.mp hcalls
        dsimp only at hop
        refine ⟨fun event hevent => ?_, fun _ hmessage hrange event hevent => ?_⟩
        · have hack : acknowledgedEvent? ⟨_, reply⟩ = some event := by
            obtain ⟨call, hcall, hack⟩ := List.mem_filterMap.mp hevent
            rwa [List.mem_singleton.mp hcall] at hack
          rw [eq_appendEvent_of_acknowledged hack] at hop
          exact ⟨by rw [List.filterMap_cons_some hack, List.filterMap_nil], hreq, hop⟩
        · cases hop.symm.trans hevent
          obtain ⟨sent, hresponse, hsent⟩ := MemoryHttpRoutes.run_processRequest Program.scripted
            [⟨.appendEvent event, reply⟩] hreq hmessage hop
          have hreply : (Program.scripted (S := RuntimeOp.signature.fallible Thrown)
              (.appendEvent event) [⟨.appendEvent event, reply⟩]).1 = reply := by
            simp [Program.scripted]
          have hposted : req.method ≠ ascii "HEAD" := by
            rw [MemoryHttpRoutes.method_of_operation? hop (getOperation?_ne_appendEvent _ _)]
            decide
          rw [hsent.eq_whole hrange hposted, hrun, hreply] at hresponse
          have hres : res = server.respondTo (reply.map ((RuntimeOp.appendEvent event).document
              server.protocol.printFloat)) := by
            cases congrArg Prod.fst hresponse
            rfl
          rw [hres, respondTo_appendEvent]
          cases hack : acknowledgedEvent? ⟨.appendEvent event, reply⟩ with
          | none => simp [List.filterMap_cons_none hack]
          | some event' => simp [List.filterMap_cons_some hack]
  · obtain ⟨refused, hrefused⟩ := MemoryHttpRoutes.processRequest_silent hreq
    rw [hrefused] at hends
    obtain ⟨rfl, -⟩ := hends
    exact ⟨by simp, fun hlets => absurd hlets hreq⟩

/-- Whatever requests come and however they are interleaved: the rows that the log has gained are the
events that the threads have saved, each once, and what a request is answered says whether its event
is among them. -/
theorem events_accounted (hservice : server.Reaches host runtime w service) :
    ∃ appended, service.state.connection.current.events.rows =
        w.connection.current.events.rows ++ appended ∧
      (appended.map fun row => some row.2.toEventValues).Perm
        ((service.threads.flatMap fun thread => savedEvents thread.log).map MemoryEvent.stored?) ∧
      ∀ thread ∈ service.threads, thread.rest.Done →
        ∃ req res, thread.program = server.serve host runtime req ∧ thread.rest = .pure res ∧
          Accounts server req res (savedEvents thread.log) := by
  obtain ⟨appended, hrows, hvalues⟩ := logMatches_of_reaches hservice
  refine ⟨appended, hrows, ?_, fun thread hthread hdone => ?_⟩
  · have hperm := ((Pool.history_perm hservice).filterMap acceptedEvent?).map MemoryEvent.stored?
    rw [← hvalues, List.filterMap_flatMap] at hperm
    exact hperm
  · obtain ⟨req, calls, res, hhandled, -⟩ := handled_of_done hservice hthread hdone
    exact ⟨req, res, hhandled.program, hhandled.rest, hhandled.accounts⟩

/-- Two requests bring two events. -/
theorem events_accounted_twice :
    let runtime : BuiltinMemoryRuntime := { store := true }
    ∃ service, MemoryHttpRoutes.plain.Reaches .plain runtime .blank service ∧
      service.state.connection.current.events.rows.length = 2 ∧
      ∃ appended, service.state.connection.current.events.rows = [] ++ appended ∧
        (appended.map fun row => some row.2.toEventValues).Perm
          ((service.threads.flatMap fun thread => savedEvents thread.log).map
            MemoryEvent.stored?) := by
  intro runtime
  obtain ⟨service, hservice, -, hstate⟩ :=
    exists_served .plain .plain runtime [eventRequest, eventRequest] .blank
  obtain ⟨appended, hrows, hperm, -⟩ := events_accounted hservice
  refine ⟨service, hservice, ?_, appended, hrows, hperm⟩
  rw [hstate]
  decide +kernel

end Threads

end AgentMemory
