import AgentMemory.Verification.Consolidation.Writer
import AgentMemory.Verification.Store.Cursors
import AgentMemory.Verification.Store.Frame
import AgentMemory.Verification.Transactions.AllOrNothing

/-! # A consolidation is atomic with its cursor

Whatever statement of the write phase is refused, the call reports an error, counts nothing and
leaves everything as it was, and otherwise the update and the cursor are there together. Only an
operation that cannot be serialised breaks this: its exception leaves the call. -/

namespace AgentMemory

open Foundation

/-! ## The operations of the write phase -/

def sessionOperation (request : MemoryConsolidationRequest)
    (buildResult : ConsolidationBatchBuildResult) : TransactionOp :=
  .saveSummary request.agentId buildResult.sessionId (ascii "session") (ascii "conversation")
    buildResult.sessionSummary (1 / 2) buildResult.sessionSourceRefs

def cursorOperations (request : MemoryConsolidationRequest) (nextCursor : Text) :
    List TransactionOp :=
  if nextCursor.isEmpty then []
  else [.saveConsolidationCursor request.agentId request.sessionId nextCursor]

/-- The session summary, the update and the cursor. -/
def consolidationOperations (request : MemoryConsolidationRequest)
    (buildResult : ConsolidationBatchBuildResult) (update : LongTermMemoryUpdate) :
    List TransactionOp :=
  [sessionOperation request buildResult] ++
    (update.operations request.agentId buildResult.sessionId buildResult.batch.sourceRefs ++
      cursorOperations request buildResult.nextCursor)

/-- The write phase with nothing to do for the update. -/
theorem operations_of_not_isNonempty {update : LongTermMemoryUpdate}
    (h : update.isNonempty = false) (agentId sessionId : Text) (sourceRefs : List Text) :
    update.operations agentId sessionId sourceRefs = [] ∧ update.counts = {} := by
  obtain ⟨entities, relations, profileSummaries, topicSummaries⟩ := update
  simp only [LongTermMemoryUpdate.isNonempty, Bool.or_eq_false_iff, Bool.not_eq_false',
    List.isEmpty_iff] at h
  obtain ⟨⟨⟨rfl, rfl⟩, rfl⟩, rfl⟩ := h
  exact ⟨rfl, rfl⟩

/-- The cursor's own failure, completed with an error, is still a failure. -/
theorem saveCursor_bind {γ δ : Type} (request : MemoryConsolidationRequest) (nextCursor : Text)
    (f : MemoryOperationResult × γ → Option δ) (captured : γ) (saved : δ)
    (hf : ∀ result, f (result, captured) = if result.succeeded then some saved else none) :
    (do return f (← saveCursor request nextCursor, captured) : Work (Option δ)) =
      (do let failure ← saveAll
            [.saveConsolidationCursor request.agentId request.sessionId nextCursor]
          return if failure.isNone then some saved else none) := by
  unfold saveCursor
  simp only [saveAll, Program.bind_assoc, Program.pure_bind, hf]
  congr 1
  funext operation
  cases hoperation : operation.succeeded with
  | true => rfl
  | false =>
      cases operation.error.hasError with
      | true => simp [hoperation, Program.pure_bind]
      | false => rfl

theorem executes_saveCursor (request : MemoryConsolidationRequest) (nextCursor : Text) :
    Executes (do return (← saveCursor request nextCursor, ()))
      [.saveConsolidationCursor request.agentId request.sessionId nextCursor] () := by
  unfold Executes
  rw [Program.bind_assoc]
  exact saveCursor_bind request nextCursor (fun x => if x.1.succeeded then some x.2 else none)
    () () fun _ => rfl

/-- The end of the callback, once the update is saved. -/
theorem executes_cursorOperations (request : MemoryConsolidationRequest) (nextCursor : Text)
    (writes : CapturedWrites) :
    Executes
      (if nextCursor.isEmpty then return (memorySuccess, writes)
        else return (← saveCursor request nextCursor, writes))
      (cursorOperations request nextCursor) writes := by
  unfold Executes cursorOperations
  cases nextCursor.isEmpty with
  | true => rfl
  | false =>
      simp only [Bool.false_eq_true, if_false, Program.bind_assoc]
      exact saveCursor_bind request nextCursor (fun x => if x.1.succeeded then some x.2 else none)
        writes writes fun _ => rfl

theorem executes_consolidationWork (request : MemoryConsolidationRequest)
    (buildResult : ConsolidationBatchBuildResult) (update : LongTermMemoryUpdate) :
    Executes (consolidationWork request buildResult update)
      (consolidationOperations request buildResult update)
      { sessionWrite := { savedSummaries := 1 }, updateWrite := update.counts } := by
  unfold Executes consolidationWork consolidationOperations saveSessionSummary
  simp only [saveAll_append, saveAll, Program.bind_assoc]
  congr 1
  funext operation
  cases operation.succeeded with
  | false => rfl
  | true =>
      have htail := executes_cursorOperations request buildResult.nextCursor
        { sessionWrite := { savedSummaries := 1 }, updateWrite := update.counts }
      simp only [if_true, Program.pure_bind]
      cases hne : update.isNonempty with
      | true =>
          simp only [Bool.not_true, Bool.false_eq_true, if_false, if_true, saveUpdate_eq,
            Program.bind_assoc]
          congr 1
          funext outcome
          cases outcome with
          | some failed => rfl
          | none => exact htail
      | false =>
          obtain ⟨hops, hcounts⟩ := operations_of_not_isNonempty hne request.agentId
            buildResult.sessionId buildResult.batch.sourceRefs
          rw [hcounts] at htail ⊢
          rw [hops]
          exact htail

/-! ## The write phase -/

/-- The operations of the write phase: those of a batch without events only move the cursor. -/
def persistOperations (request : MemoryConsolidationRequest)
    (buildResult : ConsolidationBatchBuildResult) (update : LongTermMemoryUpdate) :
    List TransactionOp :=
  if buildResult.batch.events.isEmpty then cursorOperations request buildResult.nextCursor
  else consolidationOperations request buildResult update

/-- The result of a write phase in which everything succeeds. -/
def persistedResult (buildResult : ConsolidationBatchBuildResult) (update : LongTermMemoryUpdate)
    (fallbackUsed : Bool) : MemoryConsolidationResult :=
  let result : MemoryConsolidationResult :=
    { succeeded := true
      sessionId := buildResult.sessionId
      nextCursor := buildResult.nextCursor
      processedEvents := toInt32 buildResult.batch.events.length }
  if buildResult.batch.events.isEmpty then result
  else
    { result with
      fallbackUsed
      savedSummaries := 1 + (update.topicSummaries.length + update.profileSummaries.length)
      savedEntities := update.entities.length
      savedRelations := update.relations.length }

theorem persistedResult_succeeded (buildResult : ConsolidationBatchBuildResult)
    (update : LongTermMemoryUpdate) (fallbackUsed : Bool) :
    (persistedResult buildResult update fallbackUsed).succeeded = true := by
  unfold persistedResult
  dsimp only
  split <;> rfl

/-- A failed result has an error and counts nothing. -/
structure MemoryConsolidationResult.Failed (result : MemoryConsolidationResult) : Prop where
  notSucceeded : result.succeeded = false
  error : result.error.hasError = true
  savedSummaries : result.savedSummaries = 0
  savedEntities : result.savedEntities = 0
  savedRelations : result.savedRelations = 0

/-- The write phase throws at an operation that cannot be serialised, with its transaction open. -/
def ThrowsAt (host : Host) (ops : List TransactionOp) (c : Connection)
    (reply : Except CxxException MemoryConsolidationResult) (c' : Connection) : Prop :=
  ∃ before op after e ws, ops = before ++ op :: after ∧ op.statements = .error e ∧
    statementsOf before = .ok ws ∧ Session.Applied host.engine ws c.current c'.current ∧
    c.saved = none ∧ c'.saved = some c.current ∧ reply = .error e

section Persist

variable (host : Host) (request : MemoryConsolidationRequest)
  (buildResult : ConsolidationBatchBuildResult)

theorem refuses_map {α β : Type} (p : SqlM α) (f : α → β) (c : Connection) :
    SqlM.refuses host (do return f (← p)) c = p.refuses host c := by
  unfold SqlM.refuses
  rw [Program.trace_map]

theorem runOn_map {α β : Type} (p : SqlM α) (f : α → β) (c : Connection) :
    SqlM.runOn host (do return f (← p)) c = ((p.runOn host c).1.map f, (p.runOn host c).2) :=
  Program.run_map host.execute p f c

/-- The report of a failed transaction. -/
theorem errorOr_hasError (operation : MemoryOperationResult) {code : Text} (hcode : code ≠ [])
    (message : Text) : (operation.errorOr code message).hasError = true := by
  unfold MemoryOperationResult.errorOr
  split
  · assumption
  · simpa [MemoryError.hasError] using hcode

/-- What `Consolidate` makes of the outcome of the transaction that moves the cursor. -/
def reportCursor (result : MemoryConsolidationResult) (x : MemoryOperationResult × Unit) :
    MemoryConsolidationResult :=
  { result with
    succeeded := x.1.succeeded
    error := if x.1.succeeded then result.error
      else x.1.errorOr (ascii "cursor_save_failed")
        (ascii "failed to persist consolidation cursor") }

/-- What `Consolidate` makes of the outcome of the transaction that saves the update. -/
def reportUpdate (result : MemoryConsolidationResult)
    (x : MemoryOperationResult × CapturedWrites) : MemoryConsolidationResult :=
  if x.1.succeeded then
    { result with
      succeeded := x.1.succeeded
      savedSummaries := x.2.sessionWrite.savedSummaries + x.2.updateWrite.savedSummaries
      savedEntities := x.2.updateWrite.savedEntities
      savedRelations := x.2.updateWrite.savedRelations }
  else
    { result with
      succeeded := x.1.succeeded
      error := x.1.errorOr (ascii "consolidation_failed")
        (ascii "failed to persist consolidation update") }

theorem persistUpdate_eq (update : LongTermMemoryUpdate) (result : MemoryConsolidationResult) :
    persistUpdate request buildResult update result = (do
      return reportUpdate result
        (← runInTransaction {} (consolidationWork request buildResult update))) := by
  unfold persistUpdate
  congr 1
  funext x
  obtain ⟨operation, writes⟩ := x
  unfold reportUpdate
  dsimp only
  split <;> rfl

theorem reportCursor_done (result : MemoryConsolidationResult) :
    reportCursor result (memorySuccess, ()) = { result with succeeded := true } := rfl

theorem reportUpdate_done (result : MemoryConsolidationResult) (update : LongTermMemoryUpdate) :
    reportUpdate result (memorySuccess,
        { sessionWrite := { savedSummaries := 1 }, updateWrite := update.counts }) =
      { result with
        succeeded := true
        savedSummaries := 1 + (update.topicSummaries.length + update.profileSummaries.length)
        savedEntities := update.entities.length
        savedRelations := update.relations.length } := rfl

theorem reportCursor_failed {result : MemoryConsolidationResult}
    (hsummaries : result.savedSummaries = 0) (hentities : result.savedEntities = 0)
    (hrelations : result.savedRelations = 0) {x : MemoryOperationResult × Unit}
    (hx : x.1.succeeded = false) : (reportCursor result x).Failed where
  notSucceeded := hx
  error := by
    simp only [reportCursor, hx]
    exact errorOr_hasError x.1 (by decide) _
  savedSummaries := hsummaries
  savedEntities := hentities
  savedRelations := hrelations

theorem reportUpdate_failed {result : MemoryConsolidationResult}
    (hsummaries : result.savedSummaries = 0) (hentities : result.savedEntities = 0)
    (hrelations : result.savedRelations = 0) {x : MemoryOperationResult × CapturedWrites}
    (hx : x.1.succeeded = false) : (reportUpdate result x).Failed := by
  unfold reportUpdate
  rw [hx]
  exact ⟨rfl, errorOr_hasError x.1 (by decide) _, hsummaries, hentities, hrelations⟩

/-- The outcomes of the write phase `p` whose transaction executes `ops`: a statement is refused
and nothing has happened, everything is done, or it throws at an operation that cannot be
serialised. -/
def PersistOutcome (ops : List TransactionOp) (done : MemoryConsolidationResult)
    (p : SqlM MemoryConsolidationResult) (c : Connection) : Prop :=
  (p.refuses host c = true ∧
    ¬((begin host c).1 = .ok () ∧ ReachesUnserialisable host ops (begun c)) ∧
    ∃ result clock, result.Failed ∧ p.runOn host c = (.ok result, { c with clock })) ∨
  (p.refuses host c = false ∧
    ¬((begin host c).1 = .ok () ∧ ReachesUnserialisable host ops (begun c)) ∧
    ∃ ws c', statementsOf ops = .ok ws ∧ Session.Applied host.engine ws c.current c'.current ∧
      ((ws = [] ∧ c' = c) ∨ (c.saved = none ∧ c'.saved = none)) ∧
      p.runOn host c = (.ok done, c')) ∨
  (p.refuses host c = false ∧
    ((begin host c).1 = .ok () ∧ ReachesUnserialisable host ops (begun c)) ∧
    ThrowsAt host ops c (p.runOn host c).1 (p.runOn host c).2)

theorem persistOutcome_of_executes {γ : Type} {work : Work (MemoryOperationResult × γ)}
    {ops : List TransactionOp} {saved : γ} (h : Executes work ops saved) (captured : γ)
    (report : MemoryOperationResult × γ → MemoryConsolidationResult)
    (hreport : ∀ x, x.1.succeeded = false → (report x).Failed) (c : Connection) :
    PersistOutcome host ops (report (memorySuccess, saved))
      (do return report (← runInTransaction captured work)) c := by
  unfold PersistOutcome
  rw [refuses_map, runOn_map]
  rcases h.transaction_cases host captured c with
    ⟨hrefuses, hthrows, failure, captured', clock, hfailed, -, hrun⟩ |
    ⟨hrefuses, hthrows, hnone, ws, c', hws, happlied, hclosed, hrun⟩ |
    ⟨hrefuses, hthrows, before, op, after, e, ws, c', hsplit, hop, hws, happlied, hnone, hopen,
      hrun⟩
  · rw [hrun]
    exact .inl ⟨hrefuses, hthrows, _, clock, hreport (failure, captured') hfailed, rfl⟩
  · rw [hrun]
    exact .inr (.inl ⟨hrefuses, hthrows, ws, c', hws, happlied, .inr ⟨hnone, hclosed⟩, rfl⟩)
  · rw [hrun]
    exact .inr (.inr ⟨hrefuses, hthrows, before, op, after, e, ws, hsplit, hop, hws, happlied,
      hnone, hopen, rfl⟩)

theorem persistCursor_eq {nextCursor : Text} (hnext : buildResult.nextCursor = nextCursor)
    (hne : nextCursor.isEmpty = false) (result : MemoryConsolidationResult) :
    persistCursor request buildResult result = (do
      return reportCursor result
        (← runInTransaction () do return (← saveCursor request nextCursor, ()))) := by
  unfold persistCursor
  rw [hnext, hne]
  rfl

theorem persist_cases (update : LongTermMemoryUpdate) (fallbackUsed : Bool) (c : Connection) :
    PersistOutcome host (persistOperations request buildResult update)
      (persistedResult buildResult update fallbackUsed)
      (persist request buildResult update fallbackUsed) c := by
  unfold persist persistOperations persistedResult
  generalize toInt32 buildResult.batch.events.length = processedEvents
  cases hbatch : buildResult.batch.events.isEmpty with
  | false =>
      simp only [Bool.false_eq_true, if_false]
      rw [persistUpdate_eq]
      have h := persistOutcome_of_executes host
        (executes_consolidationWork request buildResult update) {}
        (reportUpdate { sessionId := buildResult.sessionId, nextCursor := buildResult.nextCursor,
                        processedEvents, fallbackUsed })
        (fun x hx => reportUpdate_failed rfl rfl rfl hx) c
      rw [reportUpdate_done] at h
      exact h
  | true =>
      simp only [if_true]
      cases hnext : buildResult.nextCursor with
      | nil =>
          have hpersist : ∀ result, persistCursor request buildResult result =
              return { result with succeeded := true } := by
            intro result
            simp [persistCursor, hnext]
          rw [hpersist]
          refine .inr (.inl ⟨rfl, ?_, [], c, rfl, .nil _, .inl ⟨rfl, rfl⟩,
            Program.run_pure _ _ _⟩)
          rintro ⟨-, before, op, after, e, hsplit, -⟩
          simp [cursorOperations] at hsplit
      | cons b rest =>
          rw [persistCursor_eq request buildResult hnext rfl]
          have h := persistOutcome_of_executes host (executes_saveCursor request (b :: rest)) ()
            (reportCursor { sessionId := buildResult.sessionId, nextCursor := b :: rest,
                            processedEvents })
            (fun x hx => reportCursor_failed rfl rfl rfl hx) c
          rw [reportCursor_done] at h
          exact h

/-- Whether SQLite rolls the transaction back with a statement that it refuses makes no
difference to the write phase. -/
theorem persist_executeWith (rollsBack : ℕ → Bool) (update : LongTermMemoryUpdate)
    (fallbackUsed : Bool) {c : Connection} (hc : c.saved = none) :
    (persist request buildResult update fallbackUsed).run (host.executeWith rollsBack) c =
      (persist request buildResult update fallbackUsed).runOn host c := by
  unfold persist
  dsimp only
  cases buildResult.batch.events.isEmpty with
  | false =>
      simp only [Bool.false_eq_true, if_false]
      have hexecutes := executes_consolidationWork request buildResult update
      rw [persistUpdate_eq, SqlM.runOn, Program.run_map, Program.run_map,
        hexecutes.run_executeWith host rollsBack {} hc]
      rfl
  | true =>
      simp only [if_true]
      cases hnext : buildResult.nextCursor with
      | nil =>
          unfold persistCursor
          rw [hnext]
          rfl
      | cons b rest =>
          rw [persistCursor_eq request buildResult hnext rfl, SqlM.runOn, Program.run_map,
            Program.run_map,
            (executes_saveCursor request (b :: rest)).run_executeWith host rollsBack () hc]
          rfl

/-- Nor to the whole call. -/
theorem consolidate_executeWith (rollsBack : ℕ → Bool) (fallback : Option LongTermMemoryProcessor)
    (events : List MemoryEvent) (model : Option MemoryModelClient) {c : Connection}
    (hc : c.saved = none) :
    (consolidate host fallback request events model).run (host.executeWith rollsBack) c =
      (consolidate host fallback request events model).runOn host c := by
  change (Program.ofExcept _ >>= _ : SqlM _).run _ c = (Program.ofExcept _ >>= _ : SqlM _).run _ c
  cases extract host fallback model (build request events) with
  | error e => rfl
  | ok x => exact persist_executeWith host request (build request events) rollsBack x.1 x.2 hc

end Persist

/-! ## Atomicity -/

section Atomic

variable {host : Host} {request : MemoryConsolidationRequest}
  {buildResult : ConsolidationBatchBuildResult} {update : LongTermMemoryUpdate}

theorem sessionOperation_tables : (sessionOperation request buildResult).tables = [.summaries] :=
  rfl

/-- Before the cursor, the write phase writes neither cursors nor events. -/
theorem updateOperations_tables :
    ∀ op ∈ sessionOperation request buildResult ::
      update.operations request.agentId buildResult.sessionId buildResult.batch.sourceRefs,
      ∀ table ∈ op.tables, table ∈ [TableName.summaries, .entities, .relations] := by
  intro op hop
  rcases List.mem_cons.mp hop with rfl | hop
  · simp [sessionOperation_tables]
  · exact operations_tables update _ _ _ op hop

theorem statementsOf_tables {ops : List TransactionOp} {tables : List TableName}
    (hops : ∀ op ∈ ops, ∀ table ∈ op.tables, table ∈ tables) {ws : List Write}
    (hws : statementsOf ops = .ok ws) : ∀ w ∈ ws, ∃ table ∈ tables, w.table = some table := by
  intro w hw
  obtain ⟨op, hop, ws', hop', hw'⟩ := mem_statementsOf hws hw
  obtain ⟨table, htable, hwtable⟩ := statements_tables hop' w hw'
  exact ⟨table, hops op hop table htable, hwtable⟩

/-- The operations of the write phase before the cursor. -/
def updatePart (request : MemoryConsolidationRequest)
    (buildResult : ConsolidationBatchBuildResult) (update : LongTermMemoryUpdate) :
    List TransactionOp :=
  if buildResult.batch.events.isEmpty then []
  else sessionOperation request buildResult ::
    update.operations request.agentId buildResult.sessionId buildResult.batch.sourceRefs

theorem persistOperations_eq :
    persistOperations request buildResult update =
      updatePart request buildResult update ++ cursorOperations request buildResult.nextCursor := by
  unfold persistOperations updatePart consolidationOperations
  split
  · rfl
  · simp

theorem updatePart_tables : ∀ op ∈ updatePart request buildResult update,
    ∀ table ∈ op.tables, table ∈ [TableName.summaries, .entities, .relations] := by
  intro op hop
  unfold updatePart at hop
  split at hop
  · cases hop
  · exact updateOperations_tables op hop

theorem updatePart_statements {ops : List TransactionOp} {ws : List Write}
    (hops : ops ⊆ updatePart request buildResult update) (hws : statementsOf ops = .ok ws) :
    (∀ w ∈ ws, w.table ≠ some .cursors) ∧ ∀ w ∈ ws, w.table ≠ some .events := by
  have htables := statementsOf_tables (fun op hop => updatePart_tables op (hops hop)) hws
  constructor
  · intro w hw hcursors
    obtain ⟨table, htable, hwtable⟩ := htables w hw
    rw [hcursors] at hwtable
    cases hwtable
    simp at htable
  · intro w hw hevents
    obtain ⟨table, htable, hwtable⟩ := htables w hw
    rw [hevents] at hwtable
    cases hwtable
    simp at htable

/-- The applied write phase leaves the events alone and the cursor at `nextCursor`. -/
theorem applied_persistOperations {ws : List Write} {db db' : Database}
    (hws : statementsOf (persistOperations request buildResult update) = .ok ws)
    (happlied : Session.Applied host.engine ws db db') :
    db'.events = db.events ∧
      (buildResult.nextCursor = [] → db'.cursors = db.cursors) ∧
      (buildResult.nextCursor ≠ [] → db'.cursor? request.agentId request.sessionId =
        some (cursorToInt buildResult.nextCursor)) := by
  rw [persistOperations_eq] at hws
  obtain ⟨ws₁, ws₂, hws₁, hws₂, rfl⟩ := statementsOf_append hws
  obtain ⟨d, happlied₁, happlied₂⟩ := Session.applied_append happlied
  obtain ⟨hcursors, hevents⟩ := updatePart_statements (fun op hop => hop) hws₁
  have hcursors₁ := applied_cursors happlied₁ hcursors
  have hevents₁ := applied_events happlied₁ hevents
  unfold cursorOperations at hws₂
  cases hnext : buildResult.nextCursor with
  | nil =>
      rw [hnext] at hws₂
      cases hws₂
      cases happlied₂
      exact ⟨hevents₁, fun _ => hcursors₁, fun h => absurd rfl h⟩
  | cons b rest =>
      rw [hnext] at hws₂
      cases hws₂
      obtain ⟨n, d', heffect, hrest⟩ := Session.applied_cons happlied₂
      cases hrest
      rw [engine_effect] at heffect
      have hsame := Write.effect_sameExcept heffect
      refine ⟨?_, (fun h => by cases h), fun _ => cursor?_of_upsertCursor heffect⟩
      rw [hsame.events (by simp [Write.table]), hevents₁]

/-- Only the operations of a batch with events can fail to be serialised. -/
theorem reachesUnserialisable_persist_iff (host : Host) (request : MemoryConsolidationRequest)
    (buildResult : ConsolidationBatchBuildResult) (update : LongTermMemoryUpdate)
    (c : Connection) :
    ReachesUnserialisable host (persistOperations request buildResult update) c ↔
      buildResult.batch.events ≠ [] ∧
        ReachesUnserialisable host (consolidationOperations request buildResult update) c := by
  unfold persistOperations
  cases hbatch : buildResult.batch.events with
  | cons event rest => simp
  | nil =>
      simp only [List.isEmpty_nil, if_true, ne_eq, not_true_eq_false, false_and, iff_false]
      rintro ⟨before, op, after, e, hsplit, hop, -⟩
      have hmem : op ∈ cursorOperations request buildResult.nextCursor := by
        rw [hsplit]
        simp
      unfold cursorOperations at hmem
      split at hmem
      · cases hmem
      · rw [List.mem_singleton.mp hmem] at hop
        cases hop

end Atomic

/-- A request for one session, and the log of that session with one message. -/
def sessionRequest (sessionId : Text) : MemoryConsolidationRequest :=
  { agentId := ascii "alice", sessionId }

def sessionLog (sessionId : Text) : List MemoryEvent :=
  [{ agentId := ascii "alice", sessionId, role := ascii "user", content := ascii "hello",
     storeCursor := ascii "1" }]

end AgentMemory
