import AgentMemory.Verification.Runtime.ExactlyOnce
import AgentMemory.Verification.Service.Events

/-! # The service takes every event once

While requests of all kinds are handled at the same time, the consolidations of one scope take the
events of the scope one after the other. What a consolidation relies on while it holds its mutex is
that the log only grows and that nobody else moves the cursor. -/

namespace AgentMemory

open Foundation Httplib

/-! ## Cursors of other scopes -/

/-- The request has the cursor of the scope. -/
def Scope.Owns (scope : Scope) (request : MemoryConsolidationRequest) : Prop :=
  bindText request.agentId = bindText scope.agentId ∧
    bindText request.sessionId = bindText scope.sessionId

instance (scope : Scope) (request : MemoryConsolidationRequest) :
    Decidable (scope.Owns request) :=
  inferInstanceAs (Decidable (_ ∧ _))

theorem Scope.Admits.owns {scope : Scope} {request : MemoryConsolidationRequest}
    (h : scope.Admits request) : scope.Owns request :=
  ⟨by rw [h.1], by rw [h.2.1]⟩

section Cursors

variable {host : Host} {scope : Scope} {request : MemoryConsolidationRequest}
  {buildResult : ConsolidationBatchBuildResult} {update : LongTermMemoryUpdate}

theorem applied_otherCursor (hother : ¬scope.Owns request) {ops : List TransactionOp}
    (hops : ops ⊆ persistOperations request buildResult update) {ws : List Write}
    (hws : statementsOf ops = .ok ws) {db db' : Database}
    (happlied : Session.Applied host.engine ws db db') :
    db'.cursor? scope.agentId scope.sessionId = db.cursor? scope.agentId scope.sessionId := by
  refine happlied.invariant
    (P := fun w => w.table = some .cursors → ∃ cursor,
      w = .upsertCursor (bindText request.agentId) (bindText request.sessionId) cursor)
    (I := fun d => d.cursor? scope.agentId scope.sessionId =
      db.cursor? scope.agentId scope.sessionId) ?_ ?_ rfl
  · intro n w d d' hw heffect hd
    rw [engine_effect] at heffect
    by_cases htable : w.table = some .cursors
    · obtain ⟨cursor, rfl⟩ := hw htable
      rw [cursor?_of_upsertCursor_other heffect, hd]
      intro hkey
      obtain ⟨hagent, hsession⟩ := Prod.mk.inj hkey
      exact hother ⟨hagent.symm, hsession.symm⟩
    · rw [← hd]
      unfold Database.cursor?
      rw [(Write.effect_sameExcept heffect).cursors htable]
  · intro w hw htable
    obtain ⟨op, hop, ws', hop', hw'⟩ := mem_statementsOf hws hw
    have hpart := hops hop
    rw [persistOperations_eq, List.mem_append] at hpart
    rcases hpart with hupdate | hcursor
    · obtain ⟨table, hmem, htable'⟩ := statements_tables hop' w hw'
      cases htable.symm.trans htable'
      simpa using updatePart_tables op hupdate _ hmem
    · unfold cursorOperations at hcursor
      split at hcursor
      · cases hcursor
      · rw [List.mem_singleton.mp hcursor] at hop'
        cases hop'
        exact ⟨_, List.mem_singleton.mp hw'⟩

/-- A write phase for another scope leaves the cursor. -/
theorem persist_otherCursor (hother : ¬scope.Owns request) (fallbackUsed : Bool) (c : Connection) :
    ((persist request buildResult update fallbackUsed).runOn host c).2.current.cursorValue
        scope.agentId scope.sessionId =
      c.current.cursorValue scope.agentId scope.sessionId := by
  unfold Database.cursorValue
  rcases persist_cases host request buildResult update fallbackUsed c with
    ⟨-, -, result, clock, -, hrun⟩ | ⟨-, -, ws, c', hws, happlied, -, hrun⟩ |
      ⟨-, -, before, op, after, e, ws, hsplit, -, hws, happlied, -, -, -⟩
  · rw [hrun]
  · rw [hrun, applied_otherCursor hother (List.Subset.refl _) hws happlied]
  · have hbefore : before ⊆ persistOperations request buildResult update := by
      rw [hsplit]
      exact List.subset_append_left _ _
    rw [applied_otherCursor hother hbefore hws happlied]

end Cursors

/-! ## What has been taken -/

/-- The batch of a write phase that succeeded for the scope. -/
def takenBatch (scope : Scope) : ServiceOp.signature.Called → List MemoryEvent
  | ⟨.persist request buildResult _ _, .ok result⟩ =>
      if scope.Owns request ∧ MemoryConsolidationResult.succeeded result then
        buildResult.batch.events
      else []
  | _ => []

/-- What has been taken is what the cursor has passed, and the cursor names a stored event. -/
structure Taking (host : Host) (scope : Scope) (shared : Shared ServiceOp.signature World) :
    Prop where
  taken : shared.1.flatMap (takenBatch scope) =
    (passed scope.wants (shared.2.connection.current.cursorValue scope.agentId scope.sessionId)
      shared.2.connection.current.events.rows).map (readEventRow host)
  cursor : shared.2.connection.current.cursorValue scope.agentId scope.sessionId = 0 ∨
    ∃ row ∈ shared.2.connection.current.events.rows,
      shared.2.connection.current.cursorValue scope.agentId scope.sessionId = row.1.val

section Taking

variable {host : ServiceHost} {runtime : BuiltinMemoryRuntime} {scope : Scope}
  {history : List ServiceOp.signature.Called} {w w' : World}

/-- The batches taken so far, as those of one call of a runtime that is idle. -/
theorem Taking.consuming (h : Taking host.toHost scope (history, w)) :
    Consuming host.toHost scope {
      connection := w.connection
      completed := [{
        request := { maxEvents := 0 }
        batch := history.flatMap (takenBatch scope)
        result := .ok { succeeded := true } }] } := by
  refine ⟨?_, h.cursor, ?_, trivial⟩
  · have hbatches : batches [{
        request := { maxEvents := 0 }
        batch := history.flatMap (takenBatch scope)
        result := .ok { succeeded := true } }] = history.flatMap (takenBatch scope) :=
      batches_of_succeeded [] rfl
    rw [hbatches]
    exact h.taken
  · intro before call after result hsplit hresult _ hfewer
    obtain ⟨rfl, rfl⟩ : before = [] ∧ after = [] := by
      cases before with
      | nil =>
          refine ⟨rfl, ?_⟩
          simpa using (List.cons.inj hsplit).2.symm
      | cons first before => simp at hsplit
    obtain ⟨rfl, -⟩ := List.cons.inj hsplit
    cases hresult
    have hlt : (0 : ℤ) < (0 : Int32).toInt := hfewer
    exact absurd hlt (by decide)

/-- An operation that takes nothing and leaves the cursor. -/
theorem Taking.grow (h : Taking host.toHost scope (history, w)) {called : ServiceOp.signature.Called}
    (hrows : w.connection.current.events.rows <+: w'.connection.current.events.rows)
    (hcursor : w'.connection.current.cursorValue scope.agentId scope.sessionId =
      w.connection.current.cursorValue scope.agentId scope.sessionId)
    (hbatch : takenBatch scope called = []) :
    Taking host.toHost scope (history ++ [called], w') := by
  obtain ⟨more, hmore⟩ := hrows
  have hlater := h.consuming.lt_of_appended hmore.symm
  refine ⟨?_, ?_⟩
  · dsimp only
    rw [List.flatMap_append, List.flatMap_singleton, hbatch, List.append_nil, hcursor, ← hmore,
      passed_append hlater]
    exact h.taken
  · dsimp only
    rw [hcursor, ← hmore]
    refine h.cursor.imp_right ?_
    rintro ⟨row, hrow, hvalue⟩
    exact ⟨row, List.mem_append_left _ hrow, hvalue⟩

/-- What takes nothing from the scope. -/
def ServiceOp.Spares (scope : Scope) : ServiceOp → Prop
  | .persist request .. => ¬scope.Owns request
  | _ => True

/-- The log at most grows, and the cursor is moved by a write phase of the scope only. -/
theorem perform_spares (host : ServiceHost) (runtime : BuiltinMemoryRuntime) {op : ServiceOp}
    (hop : op.Spares scope) (w : World) :
    w.connection.current.events.rows <+:
        (runtime.perform host op w).2.connection.current.events.rows ∧
      (runtime.perform host op w).2.connection.current.cursorValue scope.agentId scope.sessionId =
        w.connection.current.cursorValue scope.agentId scope.sessionId ∧
      takenBatch scope ⟨op, (runtime.perform host op w).1⟩ = [] := by
  cases op with
  | saveEvent event =>
      refine ⟨?_, cursorValue_of_cursors (perform_cursors (by simp [ServiceOp.tables]) w), rfl⟩
      have hconnection : (runtime.perform host (.saveEvent event) w).2.connection =
          ((saveEvent event).runOn host.toHost w.connection).2 := rfl
      rw [hconnection]
      rcases run_saveEvent_cases host.toHost event w.connection with
        ⟨c', i, row, hrun, -, hrows⟩ | ⟨reply, c', hrun, -, hrows⟩
      · rw [hrun, hrows]
        exact List.prefix_append _ _
      · rw [hrun, hrows]
  | persist request buildResult update fallbackUsed =>
      refine ⟨?_, persist_otherCursor hop fallbackUsed w.connection, ?_⟩
      · rw [perform_events (by simp [ServiceOp.tables])]
      · generalize (runtime.perform host (.persist request buildResult update fallbackUsed) w).1 =
          reply
        cases reply with
        | error e => rfl
        | ok result => exact if_neg fun howns => hop howns.1
  | payload op =>
      have htables : .events ∉ (ServiceOp.payload op).tables ∧
          .cursors ∉ (ServiceOp.payload op).tables := by
        cases op <;> simp [ServiceOp.tables]
      refine ⟨?_, cursorValue_of_cursors (perform_cursors htables.2 w), rfl⟩
      rw [perform_events htables.1]
  | _ =>
      refine ⟨?_, cursorValue_of_cursors (perform_cursors (by simp [ServiceOp.tables]) w), rfl⟩
      rw [perform_events (by simp [ServiceOp.tables])]

/-- A write phase of the scope whose batch was loaded at the cursor. -/
theorem Taking.persist (hbound : scope.BoundExactly) (h : Taking host.toHost scope (history, w))
    {request : MemoryConsolidationRequest} (hadmits : scope.Admits request)
    {log : List (Rowid × EventRow)} {events : List MemoryEvent}
    (hloaded : LoadedAtCursor host.toHost scope w.connection.current log events)
    (update : LongTermMemoryUpdate) (fallbackUsed : Bool) :
    Taking host.toHost scope (Shared.after (runtime.perform host)
      (.persist request (build request events) update fallbackUsed) (history, w)) := by
  have hperform : runtime.perform host
      (.persist request (build request events) update fallbackUsed) w =
        BuiltinMemoryRuntime.performSql host
          (AgentMemory.persist request (build request events) update fallbackUsed) w := rfl
  unfold Shared.after
  rw [hperform]
  unfold BuiltinMemoryRuntime.performSql
  obtain ⟨reply, c', hrun, hkeeps, ⟨hfailed, hcursors⟩ | ⟨rfl, hsaves⟩⟩ :=
    run_persist host.toHost request (build request events) update fallbackUsed w.connection
  · rw [hrun]
    refine h.grow ?_ (cursorValue_of_cursors hcursors) ?_
    · dsimp only
      rw [hkeeps.events]
    · cases reply with
      | error e => rfl
      | ok result =>
          refine if_neg ?_
          rintro ⟨-, hsucceeded⟩
          cases hsucceeded.symm.trans hfailed
  · rw [hrun]
    have hcompleted := @Consuming.complete_succeeded _ _ hbound _ h.consuming _ _ _ hadmits hloaded
      update fallbackUsed _ hkeeps.events hsaves
    have htaken := hcompleted.taken
    have hsucceeded := persistedResult_succeeded (build request events) update fallbackUsed
    rw [RuntimeState.complete, batches_of_succeeded _ (by exact hsucceeded), h.consuming.taken,
      ← h.taken]
      at htaken
    refine ⟨?_, hcompleted.cursor⟩
    have hbatch : takenBatch scope ⟨.persist request (build request events) update fallbackUsed,
        .ok (persistedResult (build request events) update fallbackUsed)⟩ =
          (build request events).batch.events := if_pos ⟨hadmits.owns, hsucceeded⟩
    change (history ++ [_]).flatMap (takenBatch scope) = _
    rw [List.flatMap_append, List.flatMap_singleton]
    exact (congrArg _ hbatch).trans htaken

theorem Taking.spares (runtime : BuiltinMemoryRuntime) (h : Taking host.toHost scope (history, w))
    {op : ServiceOp}
    (hop : op.Spares scope) :
    Taking host.toHost scope (Shared.after (runtime.perform host) op (history, w)) := by
  obtain ⟨hrows, hcursor, hbatch⟩ := perform_spares host runtime hop w
  exact h.grow hrows hcursor hbatch

end Taking

/-! ## Outlines -/

/-- What a consolidation relies on while it holds its mutex. -/
def Undisturbed (scope : Scope) (locks : List Mutex)
    (shared shared' : Shared ServiceOp.signature World) :
    Prop :=
  .consolidation ∈ locks →
    shared.2.connection.current.events.rows <+: shared'.2.connection.current.events.rows ∧
      shared'.2.connection.current.cursorValue scope.agentId scope.sessionId =
        shared.2.connection.current.cursorValue scope.agentId scope.sessionId

/-- A cursor has been loaded, and is still that of the scope. -/
structure AtCursor (host : Host) (scope : Scope) (startCursor : Text)
    (shared : Shared ServiceOp.signature World) : Prop where
  taking : Taking host scope shared
  cursor : (cursorToInt startCursor).toInt =
    shared.2.connection.current.cursorValue scope.agentId scope.sessionId

/-- Events have been loaded, and are still those after the cursor in a part of the log. -/
structure WithEvents (host : Host) (scope : Scope) (events : List MemoryEvent)
    (shared : Shared ServiceOp.signature World) : Prop where
  taking : Taking host scope shared
  loaded : ∃ log, LoadedAtCursor host scope shared.2.connection.current log events

section Outlines

variable {host : ServiceHost} {runtime : BuiltinMemoryRuntime} {scope : Scope}

theorem LoadedAtCursor.grow {db db' : Database} {log : List (Rowid × EventRow)}
    {events : List MemoryEvent} (h : LoadedAtCursor host.toHost scope db log events)
    (hrows : db.events.rows <+: db'.events.rows)
    (hcursor : db'.cursorValue scope.agentId scope.sessionId =
      db.cursorValue scope.agentId scope.sessionId) :
    LoadedAtCursor host.toHost scope db' log events := by
  refine ⟨h.1.trans hrows, ?_⟩
  rw [hcursor]
  exact h.2

theorem kept_atCursor (startCursor : Text) {locks : List Mutex} (hlocks : .consolidation ∈ locks) :
    Kept (Undisturbed scope) (Taking host.toHost scope) locks
      (AtCursor host.toHost scope startCursor) := by
  refine ⟨fun _ h => h.taking, fun shared shared' hrely hI h => ⟨hI, ?_⟩⟩
  rw [(hrely hlocks).2]
  exact h.cursor

theorem kept_withEvents (host : ServiceHost) (scope : Scope) (events : List MemoryEvent)
    {locks : List Mutex}
    (hlocks : .consolidation ∈ locks) :
    Kept (Undisturbed scope) (Taking host.toHost scope) locks
      (WithEvents host.toHost scope events) := by
  refine ⟨fun _ h => h.taking, fun shared shared' hrely hI h => ⟨hI, ?_⟩⟩
  obtain ⟨log, hloaded⟩ := h.loaded
  exact ⟨log, hloaded.grow (hrely hlocks).1 (hrely hlocks).2⟩

theorem WithEvents.spares {events : List MemoryEvent} {shared : Shared ServiceOp.signature World}
    (h : WithEvents host.toHost scope events shared) {op : ServiceOp} (hop : op.Spares scope) :
    WithEvents host.toHost scope events (shared.after (runtime.perform host) op) := by
  obtain ⟨hrows, hcursor, -⟩ := perform_spares host runtime hop shared.2
  obtain ⟨log, hloaded⟩ := h.loaded
  exact ⟨h.taking.spares runtime hop, log, hloaded.grow hrows hcursor⟩

variable (host runtime scope) in
/-- An outline of what a thread does, with the invariant that the events are taken in order. -/
abbrev TakesInOrder {α : Type} (locks : List Mutex) (F : Shared ServiceOp.signature World → Prop)
    (p : ServiceM α) (G : α → Shared ServiceOp.signature World → Prop) : Prop :=
  Outlined (S := ServiceOp.signature) (runtime.perform host) (Undisturbed scope)
    (Taking host.toHost scope) locks F p G

theorem takesInOrder_storeCall {op : ServiceOp} {locks : List Mutex}
    {F : Shared ServiceOp.signature World → Prop}
    {G : ServiceOp.signature.Reply op → Shared ServiceOp.signature World → Prop}
    (hF : Kept (Undisturbed scope) (Taking host.toHost scope) locks F)
    (hG : ∀ reply, Kept (Undisturbed scope) (Taking host.toHost scope) locks (G reply))
    (hstep : ∀ shared, F shared → G (runtime.perform host op shared.2).1
      (shared.after (runtime.perform host) op)) :
    TakesInOrder host runtime scope locks F (storeCall op) G := by
  have hmono : ∀ shared shared' : Shared ServiceOp.signature World,
      Undisturbed scope (.store :: locks) shared shared' → Undisturbed scope locks shared shared' :=
    fun _ _ hrely hmem => hrely (List.mem_cons_of_mem _ hmem)
  exact outlined_locked hmono hF hG
    (outlined_operate (hF.cons hmono) (fun reply => (hG reply).cons hmono) hstep)

theorem cursor_of_loadConsolidationCursor {host : Host} {agentId sessionId : Text} {c : Connection}
    (h : (loadConsolidationCursor host agentId sessionId c).1.succeeded = true) :
    (cursorToInt (loadConsolidationCursor host agentId sessionId c).1.cursor).toInt =
      c.current.cursorValue agentId sessionId := by
  unfold loadConsolidationCursor select at h ⊢
  unfold Database.cursorValue
  cases haccepted : (host.outcome c.clock).accepted with
  | false => simp [haccepted] at h
  | true =>
      simp only [haccepted, if_true]
      cases c.current.cursor? agentId sessionId with
      | none => rfl
      | some cursor => rw [cursorToInt_decimal, Option.getD_some]

theorem events_of_loadEventsAfterCursor {host : Host} {agentId sessionId cursor : Text}
    {excludedSessionIds : List Text} {c : Connection}
    (h : (loadEventsAfterCursor host agentId sessionId cursor excludedSessionIds c).1.succeeded =
      true) :
    (loadEventsAfterCursor host agentId sessionId cursor excludedSessionIds c).1.events =
      (c.current.events.rows.filter (EventRow.afterCursor agentId sessionId (cursorToInt cursor)
        excludedSessionIds)).map (readEventRow host) := by
  unfold loadEventsAfterCursor select at h ⊢
  cases haccepted : (host.outcome c.clock).accepted with
  | false => simp [haccepted] at h
  | true => simp [haccepted]

theorem takesInOrder_loadStartCursor {request : MemoryConsolidationRequest}
    (hadmits : scope.Admits request) :
    TakesInOrder host runtime scope [.consolidation] (Taking host.toHost scope)
      (BuiltinMemoryRuntime.loadStartCursor request) fun
        | .ok startCursor => AtCursor host.toHost scope startCursor
        | .error _ => Taking host.toHost scope := by
  have hkept (reply : ConsolidationCursorResult) :
      Kept (Undisturbed scope) (Taking host.toHost scope) [.consolidation] fun shared =>
        Taking host.toHost scope shared ∧
          (reply.succeeded = true → AtCursor host.toHost scope reply.cursor shared) := by
    refine ⟨fun _ h => h.1, fun shared shared' hrely hI h => ⟨hI, fun hsucceeded => ?_⟩⟩
    exact (kept_atCursor _ (List.mem_singleton_self _)).stable _ _ hrely hI (h.2 hsucceeded)
  unfold BuiltinMemoryRuntime.loadStartCursor
  rw [if_neg (by simp [hadmits.2.2.2.1])]
  refine outlined_bind (takesInOrder_storeCall (kept_invariant _) hkept ?_) fun reply => ?_
  · intro shared htaking
    have hspares : ServiceOp.Spares scope (.read (.loadConsolidationCursor request.agentId
      request.sessionId)) := trivial
    have hafter := htaking.spares runtime hspares
    refine ⟨hafter, fun hsucceeded => ⟨hafter, ?_⟩⟩
    have hvalue := cursor_of_loadConsolidationCursor (c := shared.2.connection) hsucceeded
    exact hvalue.trans (by rw [hadmits.1, hadmits.2.1]; rfl)
  · split_ifs with hsucceeded herror
    · exact outlined_pure (hkept reply) fun _ h => h.2 hsucceeded
    · exact outlined_pure (hkept reply) fun _ h => h.1
    · exact outlined_pure (hkept reply) fun _ h => h.1

theorem takesInOrder_loadEvents {request : MemoryConsolidationRequest}
    (hadmits : scope.Admits request) (startCursor : Text) :
    TakesInOrder host runtime scope [.consolidation] (AtCursor host.toHost scope startCursor)
      (BuiltinMemoryRuntime.loadEvents request startCursor) fun
        | .ok events => WithEvents host.toHost scope events
        | .error _ => Taking host.toHost scope := by
  have hkept (reply : MemoryEventsResult) :
      Kept (Undisturbed scope) (Taking host.toHost scope) [.consolidation] fun shared =>
        Taking host.toHost scope shared ∧
          (reply.succeeded = true → WithEvents host.toHost scope reply.events shared) := by
    refine ⟨fun _ h => h.1, fun shared shared' hrely hI h => ⟨hI, fun hsucceeded => ?_⟩⟩
    exact (kept_withEvents _ _ _ (List.mem_singleton_self _)).stable _ _ hrely hI (h.2 hsucceeded)
  unfold BuiltinMemoryRuntime.loadEvents
  refine outlined_bind (takesInOrder_storeCall (kept_atCursor _ (List.mem_singleton_self _)) hkept ?_)
    fun reply => ?_
  · intro shared hcursor
    have hspares : ServiceOp.Spares scope (.read (.loadEventsAfterCursor request.agentId
      request.sessionId startCursor request.excludedSessionIds)) := trivial
    have hafter := hcursor.taking.spares runtime hspares
    refine ⟨hafter, fun hsucceeded => ⟨hafter, shared.2.connection.current.events.rows, ?_⟩⟩
    have hevents := events_of_loadEventsAfterCursor (c := shared.2.connection) hsucceeded
    rw [loaded_eq_of_admits hadmits, hcursor.cursor] at hevents
    obtain ⟨hrows, hvalue, -⟩ :=
      perform_spares host runtime hspares shared.2
    exact LoadedAtCursor.grow ⟨List.prefix_rfl, hevents⟩ hrows hvalue
  · split_ifs with hsucceeded herror
    · exact outlined_pure (hkept reply) fun _ h => h.2 hsucceeded
    · exact outlined_pure (hkept reply) fun _ h => h.1
    · exact outlined_pure (hkept reply) fun _ h => h.1

theorem takesInOrder_consolidateEvents (hbound : scope.BoundExactly)
    {request : MemoryConsolidationRequest} (hadmits : scope.Admits request)
    (events : List MemoryEvent) (asksModel : Bool) :
    TakesInOrder host runtime scope [.consolidation] (WithEvents host.toHost scope events)
      (BuiltinMemoryRuntime.consolidateEvents request events asksModel)
      fun _ => Taking host.toHost scope := by
  have hkept := kept_withEvents host scope events
    (List.mem_singleton_self Mutex.consolidation)
  have hpersist (update : LongTermMemoryUpdate) (fallbackUsed : Bool)
      (shared : Shared ServiceOp.signature World) (h : WithEvents host.toHost scope events shared) :
      Taking host.toHost scope (shared.after (runtime.perform host)
        (.persist request (build request events) update fallbackUsed)) := by
    obtain ⟨log, hloaded⟩ := h.loaded
    exact h.taking.persist hbound hadmits hloaded update fallbackUsed
  unfold BuiltinMemoryRuntime.consolidateEvents
  refine outlined_bind (G := fun _ => WithEvents host.toHost scope events)
    (outlined_operate hkept (fun _ => hkept) fun _ h => h.spares trivial) fun extracted => ?_
  refine outlined_bind (G := fun _ => WithEvents host.toHost scope events)
    (outlined_ofExcept hkept fun _ _ _ h => h) fun extracted => ?_
  refine outlined_bind (G := fun _ => Taking host.toHost scope) ?_ fun persisted =>
    outlined_ofExcept (kept_invariant _) fun _ _ _ h => h
  unfold BuiltinMemoryRuntime.persistBatch
  dsimp only
  split
  · exact outlined_operate hkept (fun _ => kept_invariant _) (hpersist _ _)
  · exact takesInOrder_storeCall hkept (fun _ => kept_invariant _) (hpersist _ _)

theorem takesInOrder_consolidateLocked (hbound : scope.BoundExactly)
    {request : MemoryConsolidationRequest} (hadmits : scope.Admits request) (asksModel : Bool) :
    TakesInOrder host runtime scope [.consolidation] (Taking host.toHost scope)
      (BuiltinMemoryRuntime.consolidateLocked request asksModel)
      fun _ => Taking host.toHost scope := by
  unfold BuiltinMemoryRuntime.consolidateLocked
  refine outlined_bind (takesInOrder_loadStartCursor hadmits) fun start => ?_
  cases start with
  | error error => exact outlined_pure (kept_invariant _) fun _ h => h
  | ok startCursor =>
      refine outlined_bind (takesInOrder_loadEvents hadmits startCursor) fun loaded => ?_
      cases loaded with
      | error error => exact outlined_pure (kept_invariant _) fun _ h => h
      | ok events => exact takesInOrder_consolidateEvents hbound hadmits events asksModel

theorem takesInOrder_consolidate (host : ServiceHost) (runtime : BuiltinMemoryRuntime)
    (hbound : scope.BoundExactly)
    {request : MemoryConsolidationRequest} (hadmits : scope.Admits request) :
    TakesInOrder host runtime scope [] (Taking host.toHost scope) (runtime.consolidate request)
      fun _ => Taking host.toHost scope := by
  have hmono {l : Mutex} {shared shared' : Shared ServiceOp.signature World} :
      Undisturbed scope [l] shared shared' → Undisturbed scope [] shared shared' := by
    intro _ hmem
    cases hmem
  have hkept (locks : List Mutex) : Kept (Undisturbed scope) (Taking host.toHost scope) locks
      (Taking host.toHost scope) := kept_invariant locks
  have hservice {α : Type} (service : α) : TakesInOrder host runtime scope []
      (Taking host.toHost scope) (getService service) fun _ => Taking host.toHost scope :=
    outlined_locked (fun _ _ => hmono) (hkept _) (fun _ => hkept _)
      (outlined_pure (hkept _) fun _ h => h)
  unfold BuiltinMemoryRuntime.consolidate
  refine outlined_bind (hservice _) fun asksModel => ?_
  refine outlined_bind (hservice _) fun consolidationService => ?_
  refine outlined_bind (hservice _) fun store => ?_
  split
  · exact outlined_bind (hservice _) fun message => outlined_pure (hkept _) fun _ h => h
  · split
    · exact outlined_pure (hkept _) fun _ h => h
    · exact outlined_locked (fun _ _ => hmono) (hkept _) (fun _ => hkept _)
        (takesInOrder_consolidateLocked hbound hadmits asksModel)

end Outlines

/-! ## Runs of the service -/

/-- A consolidation for the scope's cursor is an incremental one of the scope. -/
def Scope.Permits (scope : Scope) (op : RuntimeOp) : Prop :=
  ∀ request, op = .consolidate request → scope.Owns request → scope.Admits request

section Runs

variable {server : MemoryHttpRoutes} {host : ServiceHost} {runtime : BuiltinMemoryRuntime}
  {scope : Scope} {w : World} {service : Service}

theorem guarded_body (host : ServiceHost) (runtime : BuiltinMemoryRuntime)
    (hbound : scope.BoundExactly) {op : RuntimeOp} (hop : scope.Permits op) :
    Foundation.Guarded (S := ServiceOp.signature) (runtime.perform host) (Undisturbed scope)
      (Taking host.toHost scope) (fun _ => holding (Taking host.toHost scope) [])
      (runtime.body host op) (holding (Taking host.toHost scope) []) := by
  by_cases hadmits : ∃ request, op = .consolidate request ∧ scope.Admits request
  · obtain ⟨request, rfl, hadmits⟩ := hadmits
    have hpost : (fun r : Except Thrown MemoryConsolidationResult => holding (L := Mutex)
        (returned (fun _ => Taking host.toHost scope) (Taking host.toHost scope) r) []) =
          fun _ => holding (Taking host.toHost scope) [] := by
      funext r
      cases r <;> rfl
    have houtline := takesInOrder_consolidate host runtime hbound hadmits
    unfold TakesInOrder Outlined at houtline
    rw [hpost] at houtline
    exact houtline
  · have hbalanced := runtime.balanced_body host op
    refine guarded_of_all (P := ServiceOp.Spares scope) ?_ hbalanced (hbalanced.all ?_)
    · intro op shared hspares htaking
      exact htaking.spares runtime hspares
    · rintro called locks ⟨-, hcalls⟩
      cases called with
      | persist request buildResult update fallbackUsed =>
          cases op with
          | consolidate request' =>
              intro howns
              refine hadmits ⟨request', rfl, hop request' rfl ?_⟩
              rw [← show request = request' from hcalls]
              exact howns
          | _ => cases hcalls
      | _ => trivial

/-- Whatever requests are handled at the same time: if those that consolidate for the cursor of a
scope are incremental ones of the scope, then what they have taken is, in order and each once, the
wanted events that the cursor has passed, which are those at the front of the log. -/
theorem consolidations_take_once (hbound : scope.BoundExactly)
    (hnone : w.connection.current.cursor? scope.agentId scope.sessionId = none)
    (hservice : server.Reaches host runtime w service)
    (hrequests : ∀ thread ∈ service.threads, ∃ req, thread.program = server.serve host runtime req ∧
      (server.LetsThrough req → ∀ op, server.operation? req = some op → scope.Permits op)) :
    let db := service.state.connection.current
    service.history.flatMap (takenBatch scope) =
        (passed scope.wants (db.cursorValue scope.agentId scope.sessionId) db.events.rows).map
          (readEventRow host.toHost) ∧
      service.history.flatMap (takenBatch scope) <+:
        (db.events.rows.filter scope.wants).map (readEventRow host.toHost) := by
  have hreached : Pool.Reachable (runtime.perform host) (fun program => ∃ req,
      program = server.serve host runtime req ∧
        (server.LetsThrough req → ∀ op, server.operation? req = some op → scope.Permits op))
      CleansUp w service := Pool.reachable_restrict hservice hrequests
  have htaking : Taking host.toHost scope (service.history, service.state) := by
    refine Pool.invariant_of_guarded ServiceOp.Needs (Undisturbed scope)
      ?_ ?_ ?_ ?_ ?_ hreached
    · rintro program ⟨req, rfl, -⟩
      exact disciplined_of_served ⟨req, rfl⟩
    · rintro program ⟨req, rfl, hreq⟩
      have houtline := Outline.interpret (kept_invariant []).stable_holding (fun _ hv => hv.1)
        (fun op => guarded_body host runtime hbound)
        (all_processRequest hreq)
      exact houtline.weaken fun _ _ _ => trivial
    · intro mine others op shared hneeds hdisjoint hmem
      have hspares : op.Spares scope := by
        cases op with
        | persist request buildResult update fallbackUsed => exact absurd hmem (hdisjoint _ hneeds)
        | _ => trivial
      obtain ⟨hrows, hcursor, -⟩ :=
        perform_spares host runtime hspares shared.2
      exact ⟨hrows, hcursor⟩
    · rintro locks history s s' ⟨entry, rfl⟩
      have hconnection := cleanup_connection entry s
      refine ⟨fun _ => ?_, fun htaking => ?_⟩
      · dsimp only
        rw [hconnection]
        exact ⟨List.prefix_rfl, rfl⟩
      · obtain ⟨htaken, hcursor⟩ := htaking
        dsimp only at htaken hcursor
        rw [← hconnection] at htaken hcursor
        exact ⟨htaken, hcursor⟩
    · have hinitial : Consuming host.toHost scope _ := consuming_initial hnone
      exact ⟨hinitial.taken, hinitial.cursor⟩
  refine ⟨htaking.taken, ?_⟩
  rw [htaking.taken]
  exact List.IsPrefix.map _ (passed_isPrefix service.state.connection.current.events.sorted _ _)

def messageDocument : Json :=
  .object [(ascii "agentId", .string (ascii "alice")), (ascii "content", .string (ascii "hello")),
    (ascii "type", .unsigned 2)]

def messageText : Text :=
  ascii "\x7b\"agentId\":\"alice\",\"content\":\"hello\",\"type\":2\x7d"

def messageRequest : RoutedRequest where
  path := ascii "/v1/events"
  method := ascii "POST"
  content := .ok messageText

def takingDocument : Json :=
  .object [(ascii "agentId", .string (ascii "alice"))]

def takingText : Text :=
  ascii "\x7b\"agentId\":\"alice\"\x7d"

def takingRequest : RoutedRequest where
  path := ascii "/v1/consolidate"
  method := ascii "POST"
  content := .ok takingText

/-- Alice's events of all sessions are taken after a message of hers has been posted. -/
theorem consolidations_take_once_alice :
    let scope : Scope := { agentId := ascii "alice", sessionId := [], excludedSessionIds := [] }
    let runtime : BuiltinMemoryRuntime := { store := true }
    let server : MemoryHttpRoutes := { MemoryHttpRoutes.plain with
      host := { outcome := fun _ => {}, parseJson := fun text =>
        if text = messageText then some messageDocument
        else if text = takingText then some takingDocument else none } }
    ∃ service, server.Reaches .plain runtime .blank service ∧
      service.threads.length = 2 ∧
      (service.history.flatMap (takenBatch scope)).map (·.content) = [ascii "hello"] ∧
      let db := service.state.connection.current
      service.history.flatMap (takenBatch scope) =
          (passed scope.wants (db.cursorValue scope.agentId scope.sessionId) db.events.rows).map
            (readEventRow ServiceHost.plain.toHost) ∧
        service.history.flatMap (takenBatch scope) <+:
          (db.events.rows.filter scope.wants).map (readEventRow ServiceHost.plain.toHost) := by
  intro scope runtime server
  have hbound : scope.BoundExactly := ⟨fun _ => by decide, fun _ => by simp [scope]⟩
  obtain ⟨service, hservice, hprograms, hstate⟩ :=
    exists_served server .plain runtime [messageRequest, takingRequest] .blank
  have htaken := consolidations_take_once hbound rfl hservice fun thread hthread => ?_
  · refine ⟨service, hservice, by simpa using congrArg List.length hprograms, ?_, htaken⟩
    rw [htaken.1, hstate]
    decide +kernel
  have hmem := List.mem_map_of_mem (f := (·.program)) hthread
  rw [hprograms] at hmem
  obtain ⟨req, hreq, hprogram⟩ := List.mem_map.mp hmem
  refine ⟨req, hprogram.symm, fun _ op hop => ?_⟩
  simp only [List.mem_cons, List.not_mem_nil, or_false] at hreq
  rcases hreq with rfl | rfl
  · have happend : server.operation? messageRequest =
        some (.appendEvent (eventFromJson messageDocument)) := rfl
    cases happend.symm.trans hop
    rintro request ⟨⟩
  · have htaking : server.operation? takingRequest =
        some (.consolidate (consolidationRequestFromJson takingDocument)) := rfl
    cases htaking.symm.trans hop
    rintro request ⟨⟩ -
    exact ⟨by decide, by decide, by decide, by decide, by decide⟩

end Runs

end AgentMemory
