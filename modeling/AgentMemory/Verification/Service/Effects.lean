import AgentMemory.Model.Service
import AgentMemory.Verification.Isolation.Agents
import AgentMemory.Verification.Runtime.Calls
import AgentMemory.Verification.Store.Events

/-! # What the operations of the threads do to the store -/

namespace AgentMemory

open Foundation

/-! ## Reads -/

/-- At most statements were counted. -/
def OnlyTicks (c c' : Connection) : Prop :=
  ∃ clock, c' = { c with clock }

theorem OnlyTicks.refl (c : Connection) : OnlyTicks c c :=
  ⟨c.clock, rfl⟩

theorem OnlyTicks.trans {c c' c'' : Connection} (h : OnlyTicks c c') (h' : OnlyTicks c' c'') :
    OnlyTicks c c'' := by
  obtain ⟨clock, rfl⟩ := h
  obtain ⟨clock', rfl⟩ := h'
  exact ⟨clock', rfl⟩

theorem onlyTicks_tick (c : Connection) : OnlyTicks c { c with clock := c.clock + 1 } :=
  ⟨_, rfl⟩

section Reads

variable (host : QueryHost)

theorem onlyTicks_of_selectRows {α : Type} {query : Database → List α} {c c' : Connection}
    {reply : Selected α} (h : selectRows host.toHost query c = (reply, c')) : OnlyTicks c c' := by
  cases h
  exact onlyTicks_tick c

theorem onlyTicks_loadLongTermMemory (agentId : Text) (limit : Int32) (sessionId : Text)
    (c : Connection) : OnlyTicks c (loadLongTermMemory host agentId limit sessionId c).2 := by
  unfold loadLongTermMemory
  dsimp only
  split
  · next hsummaries => exact onlyTicks_of_selectRows host hsummaries
  · next hsummaries =>
      have hticks := onlyTicks_of_selectRows host hsummaries
      split
      · next hentities => exact hticks.trans (onlyTicks_of_selectRows host hentities)
      · next hentities =>
          have hticks := hticks.trans (onlyTicks_of_selectRows host hentities)
          split
          · next hrelations => exact hticks.trans (onlyTicks_of_selectRows host hrelations)
          · next hrelations => exact hticks.trans (onlyTicks_of_selectRows host hrelations)

theorem onlyTicks_runFtsQueries (queries : List (String × (Database → List MemorySearchHit)))
    (results : List MemorySearchHit) (c : Connection) :
    OnlyTicks c (runFtsQueries host queries results c).2 := by
  induction queries generalizing results c with
  | nil => exact .refl c
  | cons query rest ih =>
      unfold runFtsQueries selectRows
      dsimp only
      cases (host.outcome c.clock).accepted with
      | true => exact (onlyTicks_tick c).trans (ih _ _)
      | false => cases (host.outcome c.clock).atPrepare <;> exact ⟨_, rfl⟩

theorem onlyTicks_runLikeQueries (queries : List (String × (Database → List MemorySearchHit)))
    (results : List MemorySearchHit) (c : Connection) :
    OnlyTicks c (runLikeQueries host queries results c).2 := by
  induction queries generalizing results c with
  | nil => exact .refl c
  | cons query rest ih =>
      unfold runLikeQueries selectRows
      dsimp only
      cases (host.outcome c.clock).accepted with
      | true => exact (onlyTicks_tick c).trans (ih _ _)
      | false => exact ⟨_, rfl⟩

theorem onlyTicks_findHits (request : MemorySearchRequest) (limit : ℕ) (c : Connection) :
    OnlyTicks c (findHits host request limit c).2 := by
  have hfts : OnlyTicks c (if (fts5EscapeQuery request.query).isEmpty then (.ok [], c)
      else runFtsQueries host (ftsQueries host request (cStr (fts5EscapeQuery request.query)) limit)
        [] c).2 := by
    split
    · exact .refl c
    · exact onlyTicks_runFtsQueries host _ [] c
  unfold findHits
  dsimp only
  revert hfts
  cases (if (fts5EscapeQuery request.query).isEmpty then ((.ok [] : Found), c)
      else runFtsQueries host (ftsQueries host request (cStr (fts5EscapeQuery request.query)) limit)
        [] c) with
  | mk found c' =>
      intro hfts
      cases found with
      | error failed => exact hfts
      | ok results =>
          dsimp only
          split
          · exact hfts.trans (onlyTicks_runLikeQueries host _ [] c')
          · exact hfts

theorem onlyTicks_searchLongTermMemory (request : MemorySearchRequest) (c : Connection) :
    OnlyTicks c (searchLongTermMemory host request c).2 := by
  unfold searchLongTermMemory
  split
  · exact .refl c
  · dsimp only
    have hfind := onlyTicks_findHits host request (effectiveLimit request.limit 10) c
    revert hfind
    rcases findHits host request (effectiveLimit request.limit 10) c with ⟨_ | _, c'⟩ <;> exact id

theorem onlyTicks_runStatsQueries
    (queries : List ((Database → ℕ) × (Int32 → MemoryStats → MemoryStats))) (stats : MemoryStats)
    (c : Connection) : OnlyTicks c (runStatsQueries host.toHost queries stats c).2 := by
  induction queries generalizing stats c with
  | nil => exact .refl c
  | cons query rest ih =>
      unfold runStatsQueries select
      dsimp only
      cases (host.outcome c.clock).accepted with
      | true => exact (onlyTicks_tick c).trans (ih _ _)
      | false => exact ⟨_, rfl⟩

/-- A reading call changes nothing. -/
theorem onlyTicks_read (call : StoreRead) (c : Connection) : OnlyTicks c (host.read call c).2 := by
  cases call with
  | loadLongTermMemory agentId limit sessionId =>
      exact onlyTicks_loadLongTermMemory host agentId limit sessionId c
  | searchLongTermMemory request => exact onlyTicks_searchLongTermMemory host request c
  | getStoreStats => exact onlyTicks_runStatsQueries host statsQueries {} c
  | _ => exact ⟨_, rfl⟩

end Reads

/-! ## Writes -/

/-- The tables that an operation may write. -/
def ServiceOp.tables : ServiceOp → List TableName
  | .saveEvent _ => [.events]
  | .persist .. => [.summaries, .entities, .relations, .cursors]
  | .payload (.savePayload ..) => [.payloads]
  | _ => []

/-- The statements write no other tables than those given. -/
def WritesOnly (tables : List TableName) (ws : List Write) : Prop :=
  ∀ w ∈ ws, ∀ table, w.table = some table → table ∈ tables

section Writes

variable (host : Host)

theorem writesOnly_of_statementsOf {tables : List TableName} {ops : List TransactionOp}
    (hops : ∀ op ∈ ops, op.tables ⊆ tables) {ws : List Write} (h : statementsOf ops = .ok ws) :
    WritesOnly tables ws := by
  induction ops generalizing ws with
  | nil =>
      cases h
      simp [WritesOnly]
  | cons op rest ih =>
      obtain ⟨ws₁, ws₂, hop, hrest, rfl⟩ := statementsOf_cons h
      intro w hw table htable
      rcases List.mem_append.mp hw with hw | hw
      · obtain ⟨table', hmem, htable'⟩ := statements_tables hop w hw
        cases htable.symm.trans htable'
        exact hops op List.mem_cons_self hmem
      · exact ih (fun op hop => hops op (List.mem_cons_of_mem _ hop)) hrest w hw table htable

theorem persist_applied (request : MemoryConsolidationRequest)
    (buildResult : ConsolidationBatchBuildResult) (update : LongTermMemoryUpdate)
    (fallbackUsed : Bool) (c : Connection) :
    ∃ ws, Session.Applied host.engine ws c.current
        ((persist request buildResult update fallbackUsed).runOn host c).2.current ∧
      WritesOnly [.summaries, .entities, .relations, .cursors] ws := by
  have htables {ops : List TransactionOp} {ws : List Write} (h : statementsOf ops = .ok ws) :
      WritesOnly [.summaries, .entities, .relations, .cursors] ws := by
    refine writesOnly_of_statementsOf (fun op _ => ?_) h
    cases op <;> simp [TransactionOp.tables]
  rcases persist_cases host request buildResult update fallbackUsed c with
    ⟨-, -, result, clock, -, hrun⟩ | ⟨-, -, ws, c', hws, happlied, -, hrun⟩ |
      ⟨-, -, before, op, after, e, ws, -, -, hws, happlied, -, -, -⟩
  · rw [hrun]
    exact ⟨[], .nil _, by simp [WritesOnly]⟩
  · rw [hrun]
    exact ⟨ws, happlied, htables hws⟩
  · exact ⟨ws, happlied, htables hws⟩

/-- One statement, or none. -/
theorem step_applied (w : Write) (c : Connection) :
    ∃ ws ⊆ [w], Session.Applied host.engine ws c.current ((step w).runOn host c).2.current := by
  rcases run_step host w c with ⟨db, heffect, hrun⟩ | ⟨message, hrun⟩
  · rw [hrun]
    exact ⟨[w], List.Subset.refl _, .cons heffect (.nil _)⟩
  · rw [hrun]
    exact ⟨[], List.nil_subset _, .nil _⟩

theorem reporting_applied {P : List Write → Prop} (context : String) {p : SqlM SqlResult}
    {c : Connection}
    (h : ∃ ws, Session.Applied host.engine ws c.current (p.runOn host c).2.current ∧ P ws) :
    ∃ ws, Session.Applied host.engine ws c.current ((reporting context p).runOn host c).2.current ∧
      P ws := by
  rw [run_reporting]
  revert h
  rcases p.runOn host c with ⟨_ | _ | _, c'⟩ <;> exact id

theorem saveEvent_applied (event : MemoryEvent) (c : Connection) :
    ∃ ws, Session.Applied host.engine ws c.current ((saveEvent event).runOn host c).2.current ∧
      WritesOnly [.events] ws := by
  refine reporting_applied host _ ?_
  unfold saveEventUnlocked
  rw [run_andThen]
  rcases run_step host .prepare c with ⟨db, heffect, hrun⟩ | ⟨message, hrun⟩
  · cases heffect
    rw [hrun]
    dsimp only
    cases (if event.metadata.isObject then event.metadata.dump else (Json.object []).dump) with
    | error e => exact ⟨[], .nil _, by simp [WritesOnly]⟩
    | ok metadataJson =>
        obtain ⟨ws, hws, happlied⟩ := step_applied host (.insertEvent (event.values metadataJson))
          { c with clock := c.clock + 1 }
        refine ⟨ws, happlied, fun w hw table htable => ?_⟩
        rw [List.mem_singleton.mp (hws hw)] at htable
        cases htable
        exact List.mem_singleton_self _
  · rw [hrun]
    exact ⟨[], .nil _, by simp [WritesOnly]⟩

theorem savePayload_applied (payload : MemoryPayloadRef) (c : Connection) :
    ∃ ws, Session.Applied host.engine ws c.current ((savePayload payload).runOn host c).2.current ∧
      WritesOnly [.payloads] ws := by
  refine reporting_applied host _ ?_
  rw [savePayloadUnlocked_eq]
  obtain ⟨ws, hws, happlied⟩ := step_applied host (.upsertPayload payload.values) c
  refine ⟨ws, happlied, fun w hw table htable => ?_⟩
  rw [List.mem_singleton.mp (hws hw)] at htable
  cases htable
  exact List.mem_singleton_self _

end Writes

/-! ## Steps of the threads -/

section Steps

variable (host : ServiceHost) (runtime : BuiltinMemoryRuntime)

theorem connection_performSavePayload (host : Host) (request : MemoryPayloadWriteRequest)
    (payload : MemoryPayloadRef) (w : World) :
    (performSavePayload host request payload w).2.connection =
      ((savePayload payload).runOn host w.connection).2 := by
  obtain ⟨result, c', hrun, -⟩ := run_savePayload host payload w.connection
  unfold performSavePayload
  rw [hrun]
  dsimp only
  split <;> rfl

theorem isLocal_or_savePayload (op : PayloadOp) :
    op.IsLocal ∨ ∃ request payload, op = .savePayload request payload := by
  cases op with
  | savePayload request payload => exact .inr ⟨request, payload, rfl⟩
  | _ => exact .inl trivial

/-- An operation does what some statements on its tables do. -/
theorem perform_applied (op : ServiceOp) (w : World) :
    ∃ ws, Session.Applied host.toHost.engine ws w.connection.current
        (runtime.perform host op w).2.connection.current ∧ WritesOnly op.tables ws := by
  have hnone {c : Connection} : ∃ ws, Session.Applied host.toHost.engine ws c.current c.current ∧
      WritesOnly [] ws := ⟨[], .nil _, by simp [WritesOnly]⟩
  cases op with
  | read call =>
      obtain ⟨clock, hticks⟩ := onlyTicks_read host.toQueryHost call w.connection
      have hconnection : (runtime.perform host (.read call) w).2.connection =
          { w.connection with clock } := hticks
      rw [hconnection]
      exact hnone
  | saveEvent event => exact saveEvent_applied host.toHost event w.connection
  | extract asksModel buildResult => exact hnone
  | persist request buildResult update fallbackUsed =>
      exact persist_applied host.toHost request buildResult update fallbackUsed w.connection
  | payload op =>
      rcases isLocal_or_savePayload op with hlocal | ⟨request, payload, rfl⟩
      · have hconnection : (runtime.perform host (.payload op) w).2.connection = w.connection :=
          perform_connection hlocal w
        rw [hconnection]
        exact ⟨[], .nil _, by simp [WritesOnly]⟩
      · have hconnection : (runtime.perform host (.payload (.savePayload request payload))
            w).2.connection = ((savePayload payload).runOn host.toHost w.connection).2 :=
          connection_performSavePayload host.toHost request payload w.tick
        rw [hconnection]
        exact savePayload_applied host.toHost payload w.connection
  | loadTextFile path => exact hnone

variable {host runtime}

/-- A table that an operation does not write stays as it is. -/
theorem perform_events {op : ServiceOp} (h : .events ∉ op.tables) (w : World) :
    (runtime.perform host op w).2.connection.current.events = w.connection.current.events := by
  obtain ⟨ws, happlied, hws⟩ := perform_applied host runtime op w
  exact applied_events happlied fun x hx htable => h (hws x hx _ htable)

theorem perform_cursors {op : ServiceOp} (h : .cursors ∉ op.tables) (w : World) :
    (runtime.perform host op w).2.connection.current.cursors = w.connection.current.cursors := by
  obtain ⟨ws, happlied, hws⟩ := perform_applied host runtime op w
  exact applied_cursors happlied fun x hx htable => h (hws x hx _ htable)

end Steps

theorem cleanup_connection (entry : CleanupEntry) (w : World) :
    (cleanup entry w).connection = w.connection := by
  unfold cleanup
  split_ifs <;> rfl

end AgentMemory
