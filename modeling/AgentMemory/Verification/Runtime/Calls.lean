import AgentMemory.Foundation.Log
import AgentMemory.Verification.Consolidation.Atomicity
import AgentMemory.Verification.Consolidation.Builder

/-! # What a consolidation call loads and what it leaves

A call looks at rows of the log from the front of what it loaded. If it succeeds, the cursor of
its scope is the last row it looked at; if not, the cursor stays. -/

namespace AgentMemory

open Foundation

/-! ## Loading -/

/-- The cursor after which a call loads. -/
def MemoryConsolidationRequest.start (request : MemoryConsolidationRequest) (db : Database) :
    Int64 :=
  if request.forceReprocess then 0 else (db.cursor? request.agentId request.sessionId).getD 0

/-- The rows of the log that a call loads. -/
def MemoryConsolidationRequest.loaded (request : MemoryConsolidationRequest) (cursor : Int64)
    (db : Database) : List (Rowid × EventRow) :=
  db.events.rows.filter
    (EventRow.afterCursor request.agentId request.sessionId cursor request.excludedSessionIds)

theorem lt_of_mem_loaded {request : MemoryConsolidationRequest} {cursor : Int64} {db : Database}
    {row : Rowid × EventRow} (h : row ∈ request.loaded cursor db) : cursor.toInt < row.1.val := by
  have hafter := (List.mem_filter.mp h).2
  simp only [EventRow.afterCursor, Bool.and_eq_true, decide_eq_true_eq] at hafter
  exact hafter.1.1

theorem loaded_sorted (request : MemoryConsolidationRequest) (cursor : Int64) (db : Database) :
    InOrder (request.loaded cursor db) :=
  db.events.sorted.filter _

section Loading

variable (host : Host) (services : RuntimeServices) (request : MemoryConsolidationRequest)

theorem loadStartCursor_cases (c : Connection) :
    ∃ clock, (∃ error, loadStartCursor host request c = (.error error, { c with clock })) ∨
      ∃ cursor, cursorToInt cursor = request.start c.current ∧
        loadStartCursor host request c = (.ok cursor, { c with clock }) := by
  unfold loadStartCursor MemoryConsolidationRequest.start
  cases request.forceReprocess with
  | true => exact ⟨c.clock, .inr ⟨[], rfl, rfl⟩⟩
  | false =>
      refine ⟨c.clock + 1, ?_⟩
      simp only [Bool.false_eq_true, if_false, loadConsolidationCursor, select]
      cases (host.outcome c.clock).accepted with
      | false => exact .inl ⟨_, rfl⟩
      | true =>
          refine .inr ⟨_, ?_, rfl⟩
          cases c.current.cursor? request.agentId request.sessionId with
          | none => rfl
          | some cursor => exact cursorToInt_decimal cursor

theorem loadEvents_cases (startCursor : Text) (c : Connection) :
    ∃ clock, (∃ error, loadEvents host request startCursor c = (.error error, { c with clock })) ∨
      loadEvents host request startCursor c =
        (.ok ((request.loaded (cursorToInt startCursor) c.current).map (readEventRow host)),
          { c with clock }) := by
  refine ⟨c.clock + 1, ?_⟩
  simp only [loadEvents, loadEventsAfterCursor, select]
  cases (host.outcome c.clock).accepted with
  | false => exact .inl ⟨_, rfl⟩
  | true => exact .inr rfl

theorem loadForConsolidation_cases (c : Connection) :
    ∃ clock, (∃ error, loadForConsolidation host services request c =
        (.error error, { c with clock })) ∨
      loadForConsolidation host services request c =
        (.ok ((request.loaded (request.start c.current) c.current).map (readEventRow host)),
          { c with clock }) := by
  unfold loadForConsolidation
  cases unavailable services with
  | some error => exact ⟨c.clock, .inl ⟨error, rfl⟩⟩
  | none =>
      obtain ⟨clock, ⟨error, hstart⟩ | ⟨cursor, hcursor, hstart⟩⟩ :=
        loadStartCursor_cases host request c
      · rw [hstart]
        exact ⟨clock, .inl ⟨error, rfl⟩⟩
      · rw [hstart, ← hcursor]
        exact loadEvents_cases host request cursor { c with clock }

end Loading

/-! ## The rows looked at -/

/-- The rows among those loaded that the builder looks at: none if the request is for no events. -/
def lookedRows (host : Host) (request : MemoryConsolidationRequest)
    (rows : List (Rowid × EventRow)) : List (Rowid × EventRow) :=
  if request.forceReprocess || 0 < request.maxEvents.toInt then
    scan (fun row => request.selects (readEventRow host row))
      (remaining (request.limit rows.length) 0) rows
  else []

/-- The rowid of the last row, as the cursor names it. -/
def rowCursor (rows : List (Rowid × EventRow)) : Text :=
  match rows.getLast? with
  | some row => decimal row.1.val
  | none => []

theorem lookedRows_isPrefix (host : Host) (request : MemoryConsolidationRequest)
    (rows : List (Rowid × EventRow)) : lookedRows host request rows <+: rows := by
  unfold lookedRows
  split
  · exact scan_isPrefix _ _ _
  · exact List.nil_prefix

theorem cursorToInt_rowid (i : Rowid) : (cursorToInt (decimal i.val)).toInt = i.val := by
  have hi : (Int64.ofInt i.val).toInt = i.val := by
    have hlt := i.isLt
    exact Int64.toInt_ofInt_of_le (by omega) (by omega)
  rw [← hi, cursorToInt_decimal, hi]

/-- The builder on loaded rows: the batch is what is selected of the rows looked at, and the next
cursor is the last of these. -/
theorem build_loaded (host : Host) (request : MemoryConsolidationRequest)
    (rows : List (Rowid × EventRow)) :
    let b := build request (rows.map (readEventRow host))
    b.batch.events =
        ((lookedRows host request rows).map (readEventRow host)).filter request.selects ∧
      b.nextCursor = rowCursor (lookedRows host request rows) := by
  unfold lookedRows
  cases hruns : (request.forceReprocess || decide (0 < request.maxEvents.toInt)) with
  | false =>
      have hguard : (!request.forceReprocess && decide (request.maxEvents.toInt ≤ 0)) = true := by
        rw [Bool.or_eq_false_iff, decide_eq_false_iff_not, not_lt] at hruns
        simp [hruns]
      unfold build
      simp [hguard, rowCursor]
  | true =>
      have hcursors : ∀ event ∈ rows.map (readEventRow host), event.storeCursor ≠ [] := by
        intro event hevent
        obtain ⟨row, -, rfl⟩ := List.mem_map.mp hevent
        exact decimal_ne_nil row.1.val
      obtain ⟨hevents, hnext⟩ := build_eq request hcursors (by simpa using hruns)
      unfold lookedAt at hevents hnext
      rw [scan_map, List.length_map] at hevents hnext
      refine ⟨hevents, hnext.trans ?_⟩
      unfold lastCursor rowCursor
      rw [List.getLast?_map, if_pos rfl]
      cases (scan _ _ rows).getLast? <;> rfl

/-! ## The effect of a call -/

/-- What holds of every call: it leaves the log alone, and what is persisted of the cursors too,
unless it committed. -/
structure KeepsLog (c c' : Connection) : Prop where
  events : c'.current.events = c.current.events
  durable : c'.durable.cursors = c.durable.cursors ∨ (c.saved = none ∧ c'.saved = none)

theorem keepsLog_of_clock (c : Connection) (clock : ℕ) : KeepsLog c { c with clock } :=
  ⟨rfl, .inl rfl⟩

/-- The cursor of the scope is the one given, unless this is empty, and no transaction is opened. -/
structure SavesCursor (request : MemoryConsolidationRequest) (nextCursor : Text)
    (c c' : Connection) : Prop where
  kept : nextCursor = [] → c'.current.cursors = c.current.cursors
  saved : nextCursor ≠ [] → c'.current.cursor? request.agentId request.sessionId =
    some (cursorToInt nextCursor)
  closed : c.saved = none → c'.saved = none

/-- The cursor of a scope as an integer, which is 0 before the first is saved. -/
def Database.cursorValue (agentId sessionId : Text) (db : Database) : ℤ :=
  ((db.cursor? agentId sessionId).getD 0).toInt

theorem cursorValue_of_cursors {agentId sessionId : Text} {db db' : Database}
    (h : db'.cursors = db.cursors) :
    db'.cursorValue agentId sessionId = db.cursorValue agentId sessionId := by
  unfold Database.cursorValue Database.cursor?
  rw [h]

theorem start_toInt {request : MemoryConsolidationRequest}
    (hforce : request.forceReprocess = false) (db : Database) :
    (request.start db).toInt = db.cursorValue request.agentId request.sessionId := by
  simp [MemoryConsolidationRequest.start, Database.cursorValue, hforce]

theorem SavesCursor.cursorValue {request : MemoryConsolidationRequest}
    {rows : List (Rowid × EventRow)} {c c' : Connection}
    (h : SavesCursor request (rowCursor rows) c c') :
    c'.current.cursorValue request.agentId request.sessionId =
      lastRowid rows (c.current.cursorValue request.agentId request.sessionId) := by
  obtain ⟨hkept, hsaved, -⟩ := h
  unfold rowCursor at hkept hsaved
  unfold lastRowid
  cases hlast : rows.getLast? with
  | none =>
      rw [hlast] at hkept
      exact cursorValue_of_cursors (hkept rfl)
  | some row =>
      rw [hlast] at hsaved
      unfold Database.cursorValue
      rw [hsaved (decimal_ne_nil _)]
      exact cursorToInt_rowid row.1

/-- The write phase moves the cursor if and only if it succeeds. -/
theorem run_persist (host : Host) (request : MemoryConsolidationRequest)
    (buildResult : ConsolidationBatchBuildResult) (update : LongTermMemoryUpdate)
    (fallbackUsed : Bool) (c : Connection) :
    ∃ reply c', (persist request buildResult update fallbackUsed).runOn host c = (reply, c') ∧
      KeepsLog c c' ∧
      ((callSucceeded reply = false ∧ c'.current.cursors = c.current.cursors) ∨
        (reply = .ok (persistedResult buildResult update fallbackUsed) ∧
          SavesCursor request buildResult.nextCursor c c')) := by
  rcases persist_cases host request buildResult update fallbackUsed c with
    ⟨-, -, result, clock, hfailed, hrun⟩ | ⟨-, -, ws, c', hws, happlied, hclosed, hrun⟩ |
      ⟨-, -, before, op, after, e, ws, hsplit, hop, hws, happlied, hnone, hopen, hreply⟩
  · exact ⟨_, _, hrun, keepsLog_of_clock c clock, .inl ⟨hfailed.notSucceeded, rfl⟩⟩
  · obtain ⟨hevents, hkept, hsaved⟩ := applied_persistOperations hws happlied
    rcases hclosed with ⟨-, rfl⟩ | hclosed
    · exact ⟨_, c', hrun, ⟨hevents, .inl rfl⟩, .inr ⟨rfl, hkept, hsaved, id⟩⟩
    · exact ⟨_, c', hrun, ⟨hevents, .inr hclosed⟩, .inr ⟨rfl, hkept, hsaved, fun _ => hclosed.2⟩⟩
  · have hbefore : before ⊆ updatePart request buildResult update := by
      -- the operation that throws is not the cursor's, so it and all before it are the update's
      rw [persistOperations_eq] at hsplit
      rcases List.append_eq_append_iff.mp hsplit with ⟨part, hbefore, hcursor⟩ | ⟨part, hpart, -⟩
      · have hmem : op ∈ cursorOperations request buildResult.nextCursor := by
          rw [hcursor]
          simp
        unfold cursorOperations at hmem
        split at hmem
        · cases hmem
        · rw [List.mem_singleton.mp hmem] at hop
          cases hop
      · rw [hpart]
        exact List.subset_append_left _ _
    obtain ⟨hcursors, hevents⟩ := updatePart_statements hbefore hws
    rcases hrun : (persist request buildResult update fallbackUsed).runOn host c with ⟨reply, c'⟩
    rw [hrun] at happlied hopen hreply
    dsimp only at happlied hopen hreply
    refine ⟨reply, c', rfl, ⟨applied_events happlied hevents, .inl ?_⟩,
      .inl ⟨by rw [hreply]; rfl, applied_cursors happlied hcursors⟩⟩
    unfold Session.durable
    rw [hopen, hnone]
    rfl

/-- The service extracts and then writes, or throws with nothing written. -/
theorem run_consolidate (host : Host) (fallback : Option LongTermMemoryProcessor)
    (request : MemoryConsolidationRequest) (events : List MemoryEvent)
    (model : Option MemoryModelClient) (c : Connection) :
    (consolidate host fallback request events model).runOn host c =
      match extract host fallback model (build request events) with
      | .ok (update, fallbackUsed) =>
          (persist request (build request events) update fallbackUsed).runOn host c
      | .error e => (.error e, c) := by
  unfold consolidate SqlM.runOn
  rw [Program.run_bind, Program.run_ofExcept]
  rcases extract host fallback model (build request events) with e | ⟨update, fallbackUsed⟩ <;> rfl

theorem refuses_consolidate (host : Host) (fallback : Option LongTermMemoryProcessor)
    (request : MemoryConsolidationRequest) (events : List MemoryEvent)
    (model : Option MemoryModelClient) (c : Connection) :
    (consolidate host fallback request events model).refuses host c =
      match extract host fallback model (build request events) with
      | .ok (update, fallbackUsed) =>
          (persist request (build request events) update fallbackUsed).refuses host c
      | .error _ => false := by
  change SqlM.refuses host (Program.ofExcept _ >>= _) c = _
  rcases extract host fallback model (build request events) with e | ⟨update, fallbackUsed⟩
  · rfl
  · rfl

/-- A call that does not succeed leaves the cursors; one that does has saved the next cursor of
the batch it built from the rows it loaded. -/
theorem run_consolidateWithModel (host : Host) (services : RuntimeServices)
    (request : MemoryConsolidationRequest) (model : Option MemoryModelClient) (c : Connection) :
    ∃ reply c', consolidateWithModel host services request model c = (reply, c') ∧
      KeepsLog c c' ∧
      ((callSucceeded reply = false ∧ c'.current.cursors = c.current.cursors) ∨
        ∃ update fallbackUsed,
          let rows := request.loaded (request.start c.current) c.current
          let buildResult := build request (rows.map (readEventRow host))
          (loadForConsolidation host services request c).1 = .ok (rows.map (readEventRow host)) ∧
            reply = .ok (persistedResult buildResult update fallbackUsed) ∧
            SavesCursor request buildResult.nextCursor c c') := by
  unfold consolidateWithModel
  obtain ⟨clock, ⟨error, hload⟩ | hload⟩ := loadForConsolidation_cases host services request c
  · rw [hload]
    exact ⟨_, _, rfl, keepsLog_of_clock c clock, .inl ⟨rfl, rfl⟩⟩
  · rw [hload]
    dsimp only
    generalize request.loaded (request.start c.current) c.current = rows
    rw [run_consolidate]
    cases extract host (some services.longTermProcessor) model
        (build request (rows.map (readEventRow host))) with
    | error e => exact ⟨.error e, { c with clock }, rfl, keepsLog_of_clock c clock, .inl ⟨rfl, rfl⟩⟩
    | ok extracted =>
        obtain ⟨update, fallbackUsed⟩ := extracted
        obtain ⟨reply, c', hrun, hkeeps, hcases⟩ := run_persist host request
          (build request (rows.map (readEventRow host))) update fallbackUsed { c with clock }
        refine ⟨reply, c', hrun, ⟨hkeeps.events, hkeeps.durable⟩, ?_⟩
        rcases hcases with hfailed | ⟨hreply, hsaves⟩
        · exact .inl hfailed
        · exact .inr ⟨update, fallbackUsed, rfl, hreply, ⟨hsaves.kept, hsaves.saved, hsaves.closed⟩⟩

end AgentMemory
