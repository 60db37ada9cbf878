import AgentMemory.Verification.Runtime.Calls
import AgentMemory.Verification.Store.Events
import Mathlib.Logic.Relation

/-! # Incremental consolidation takes every event once

Appends may come between any two steps of a consolidation. What keeps the batches right is that
together they are what the cursor has passed of the log. -/

namespace AgentMemory

open Foundation

/-! ## The scope of a run -/

/-- What all requests of a run have in common. -/
structure Scope where
  agentId : Text
  sessionId : Text
  excludedSessionIds : List Text

namespace Scope

/-- An incremental request for the scope. -/
def Admits (scope : Scope) (request : MemoryConsolidationRequest) : Prop :=
  request.agentId = scope.agentId ∧ request.sessionId = scope.sessionId ∧
    request.excludedSessionIds = scope.excludedSessionIds ∧ request.forceReprocess = false ∧
    0 < request.maxEvents.toInt

/-- A stored message of the agent in the scope whose session is not excluded. A session without a
stored name is excluded where any is. -/
def wants (scope : Scope) (row : Rowid × EventRow) : Bool :=
  row.2.agentId.holds scope.agentId &&
    (scope.sessionId.isEmpty || row.2.sessionId.holds scope.sessionId) &&
    (scope.excludedSessionIds.isEmpty ||
      row.2.sessionId.text?.any fun t => !scope.excludedSessionIds.contains t.bytes) &&
    (⟨row.2.eventType⟩ : MemoryEventType) == .messageAppended

/-- Binding the texts of the scope to a statement, which cuts them off at a NUL byte, does not turn
them into names of another agent or of a session that is not excluded. The agent matters only if
the scope can hold a message at all. -/
structure BoundExactly (scope : Scope) : Prop where
  agent : scope.sessionId = [] ∨ (0 ∉ scope.sessionId ∧
    scope.sessionId ∉ scope.excludedSessionIds) → 0 ∉ scope.agentId
  excluded : scope.sessionId = [] →
    ∀ sessionId ∈ scope.excludedSessionIds, cStr sessionId ∈ scope.excludedSessionIds

/-- The `WHERE` clause of the load apart from the cursor. -/
def loads (scope : Scope) (row : Rowid × EventRow) : Bool :=
  row.2.agentId.is (bindText scope.agentId) &&
    if scope.sessionId.isEmpty then
      row.2.sessionId.notIn (scope.excludedSessionIds.map bindText)
    else row.2.sessionId.is (bindText scope.sessionId)

end Scope

theorem loaded_eq_of_admits {scope : Scope} {request : MemoryConsolidationRequest}
    (h : scope.Admits request) (cursor : Int64) :
    EventRow.afterCursor request.agentId request.sessionId cursor request.excludedSessionIds =
      fun row => decide (cursor.toInt < row.1.val) && scope.loads row := by
  obtain ⟨hagent, hsession, hexcluded, -⟩ := h
  funext row
  rw [EventRow.afterCursor, hagent, hsession, hexcluded, Bool.and_assoc]
  rfl

/-- Without a NUL byte in the name, SQL finds the agent's rows. -/
theorem is_bindText {column : NullableText} {s : Text} (h : 0 ∉ s) :
    column.is (bindText s) = column.holds s := by
  unfold NullableText.is NullableText.holds
  cases column.text? with
  | none => rfl
  | some t =>
      have hbind := bindText_injOn t.noNul h
      rw [← columnText, bindText_columnText] at hbind
      rw [Bool.eq_iff_iff, beq_iff_eq, Option.some_inj, hbind]
      simp [columnText]

/-- What the store loads and the builder selects is what is wanted. -/
theorem loads_and_selects {scope : Scope} (hbound : scope.BoundExactly)
    {request : MemoryConsolidationRequest} (h : scope.Admits request) (host : Host)
    (row : Rowid × EventRow) :
    (scope.loads row && request.selects (readEventRow host row)) = scope.wants row := by
  obtain ⟨-, hsession, hexcluded, -⟩ := h
  have hselects : request.selects (readEventRow host row) =
      ((scope.sessionId.isEmpty || row.2.sessionId.columnText == scope.sessionId) &&
        !scope.excludedSessionIds.contains row.2.sessionId.columnText &&
        (⟨row.2.eventType⟩ : MemoryEventType) == .messageAppended) := by
    rw [MemoryConsolidationRequest.selects, hsession, hexcluded]
    rfl
  rw [hselects, Scope.loads, Scope.wants]
  cases htext : row.2.sessionId.text? with
  | none =>
      -- SQL never takes a NULL for the session, nor for one that is not excluded
      by_cases hempty : scope.sessionId = []
      · rw [is_bindText (hbound.agent (.inl hempty)), hempty]
        cases hnone : scope.excludedSessionIds <;>
          simp [NullableText.notIn, NullableText.holds, NullableText.columnText, htext]
      · simp [NullableText.is, NullableText.holds, htext, hempty]
  | some t =>
      have hread : row.2.sessionId.columnText = t.bytes := by
        rw [NullableText.columnText, htext]
        rfl
      have hnames : (scope.excludedSessionIds.isEmpty ||
          !scope.excludedSessionIds.contains t.bytes) =
            !scope.excludedSessionIds.contains t.bytes := by
        cases scope.excludedSessionIds <;> simp
      have hholds : row.2.sessionId.holds scope.sessionId = (t.bytes == scope.sessionId) := by
        simp [NullableText.holds, htext]
      rw [hread, hholds, Option.any_some, hnames, Bool.and_assoc (row.2.agentId.holds _)]
      cases hselected : (scope.sessionId.isEmpty || t.bytes == scope.sessionId) &&
          !scope.excludedSessionIds.contains t.bytes with
      | false => simp
      | true =>
          have hselected' := hselected
          simp only [Bool.and_eq_true, Bool.or_eq_true, List.isEmpty_iff, beq_iff_eq,
            Bool.not_eq_true', List.contains_eq_mem, decide_eq_false_iff_not] at hselected'
          obtain ⟨hscope, hnotExcluded⟩ := hselected'
          have hagent : 0 ∉ scope.agentId := by
            apply hbound.agent
            rcases hscope with hempty | hsession
            · exact .inl hempty
            · rw [← hsession]
              exact .inr ⟨t.noNul, hnotExcluded⟩
          have hclause : (if scope.sessionId.isEmpty then
              row.2.sessionId.notIn (scope.excludedSessionIds.map bindText)
            else row.2.sessionId.is (bindText scope.sessionId)) = true := by
            by_cases hempty : scope.sessionId = []
            · rw [hempty]
              simp only [List.isEmpty_nil, if_true, NullableText.notIn, htext, Option.any_some,
                Bool.or_eq_true, Bool.not_eq_true', List.contains_eq_mem,
                decide_eq_false_iff_not, List.mem_map, not_exists, not_and]
              right
              intro sessionId hmem hbind
              apply hnotExcluded
              rw [← hbind]
              exact hbound.excluded hempty sessionId hmem
            · rw [if_neg (by simpa using hempty), ← hscope.resolve_left hempty,
                NullableText.is_iff, htext]
              exact congrArg some (bindText_columnText t).symm
          rw [hclause, is_bindText hagent, Bool.and_true, Bool.true_and]

/-! ## The invariant -/

/-- The batches of the successful calls, in call order. -/
def batches (calls : List CompletedCall) : List MemoryEvent :=
  (calls.filter CompletedCall.succeeded).flatMap CompletedCall.batch

/-- A call that took fewer events than it might has left no wanted event of the log it loaded. -/
def LeavesNoEvent (host : Host) (scope : Scope) (completed : List CompletedCall) : Prop :=
  ∀ before call after result, completed = before ++ call :: after → call.result = .ok result →
    result.succeeded = true → result.processedEvents < call.request.maxEvents.toInt →
      (call.log.filter scope.wants).map (readEventRow host) <+: batches (before ++ [call])

/-- The events of a call under way are those after the cursor in a log that has since at most
grown. -/
def LoadedAtCursor (host : Host) (scope : Scope) (db : Database) (log : List (Rowid × EventRow))
    (events : List MemoryEvent) : Prop :=
  log <+: db.events.rows ∧
    events = (log.filter fun row =>
      decide (db.cursorValue scope.agentId scope.sessionId < row.1.val) && scope.loads row).map
        (readEventRow host)

/-- Where the consolidation under way stands. -/
def PhaseConsistent (host : Host) (scope : Scope) (db : Database) : Phase → Prop
  | .idle => True
  | .started request _ => scope.Admits request
  | .cursorLoaded request _ startCursor => scope.Admits request ∧
      (cursorToInt startCursor).toInt = db.cursorValue scope.agentId scope.sessionId
  | .eventsLoaded request _ log events => scope.Admits request ∧
      LoadedAtCursor host scope db log events
  | .extracted request log events _ _ => scope.Admits request ∧
      LoadedAtCursor host scope db log events

/-- The batches together are what the cursor has passed, and the cursor names a stored event. -/
structure Consuming (host : Host) (scope : Scope) (s : RuntimeState) : Prop where
  taken : batches s.completed =
    (passed scope.wants (s.connection.current.cursorValue scope.agentId scope.sessionId)
      s.connection.current.events.rows).map (readEventRow host)
  cursor : s.connection.current.cursorValue scope.agentId scope.sessionId = 0 ∨
    ∃ row ∈ s.connection.current.events.rows,
      s.connection.current.cursorValue scope.agentId scope.sessionId = row.1.val
  complete : LeavesNoEvent host scope s.completed
  phase : PhaseConsistent host scope s.connection.current s.phase

/-! ## What the steps preserve -/

section Steps

variable {host : Host} {scope : Scope}

theorem batches_of_succeeded (calls : List CompletedCall) {call : CompletedCall}
    (h : call.succeeded = true) : batches (calls ++ [call]) = batches calls ++ call.batch := by
  simp [batches, h]

theorem batches_of_failed (calls : List CompletedCall) {call : CompletedCall}
    (h : call.succeeded = false) : batches (calls ++ [call]) = batches calls := by
  simp [batches, h]

theorem LeavesNoEvent.snoc {completed : List CompletedCall} {call : CompletedCall}
    (h : LeavesNoEvent host scope completed)
    (hcall : ∀ result, call.result = .ok result → result.succeeded = true →
      result.processedEvents < call.request.maxEvents.toInt →
        (call.log.filter scope.wants).map (readEventRow host) <+: batches (completed ++ [call])) :
    LeavesNoEvent host scope (completed ++ [call]) := by
  intro before call' after result hsplit hresult hsucceeded hfewer
  rcases List.eq_nil_or_concat after with rfl | ⟨rest, last, rfl⟩
  · obtain ⟨rfl, hlast⟩ := List.append_inj' hsplit rfl
    cases hlast
    exact hcall result hresult hsucceeded hfewer
  · have hsplit' : completed ++ [call] = (before ++ call' :: rest) ++ [last] := by
      simpa using hsplit
    exact h before call' rest result (List.append_inj' hsplit' rfl).1 hresult hsucceeded hfewer

/-- The log of a call under way stays a prefix when events are appended. -/
theorem PhaseConsistent.grow {db db' : Database} {phase : Phase}
    (h : PhaseConsistent host scope db phase) (hrows : db.events.rows <+: db'.events.rows)
    (hcursors : db'.cursors = db.cursors) : PhaseConsistent host scope db' phase := by
  have hvalue : db'.cursorValue scope.agentId scope.sessionId =
      db.cursorValue scope.agentId scope.sessionId := cursorValue_of_cursors hcursors
  cases phase with
  | idle => trivial
  | started request model => exact h
  | cursorLoaded request model startCursor => exact ⟨h.1, h.2.trans hvalue.symm⟩
  | eventsLoaded request model log events =>
      refine ⟨h.1, h.2.1.trans hrows, ?_⟩
      rw [hvalue]
      exact h.2.2
  | extracted request log events update fallbackUsed =>
      refine ⟨h.1, h.2.1.trans hrows, ?_⟩
      rw [hvalue]
      exact h.2.2

/-- Appended rows are after the cursor. -/
theorem Consuming.lt_of_appended {s : RuntimeState} (h : Consuming host scope s)
    {db' : Database} {more : List (Rowid × EventRow)}
    (hrows : db'.events.rows = s.connection.current.events.rows ++ more) :
    ∀ row ∈ more, s.connection.current.cursorValue scope.agentId scope.sessionId < row.1.val := by
  intro row hrow
  have hmem : row ∈ db'.events.rows := by
    rw [hrows]
    exact List.mem_append_right _ hrow
  rcases h.cursor with hzero | ⟨last, hlast, hcursor⟩
  · have hpos := db'.events.positive row hmem
    rw [Fin.lt_def] at hpos
    rw [hzero]
    exact Int.natCast_pos.mpr hpos
  · have hsorted := db'.events.sorted
    rw [hrows, List.pairwise_append] at hsorted
    have hlt := hsorted.2.2 last hlast row hrow
    rw [Fin.lt_def] at hlt
    omega

/-- A step that at most appends to the log and leaves the cursors. -/
theorem Consuming.grow {s : RuntimeState} (h : Consuming host scope s) {c' : Connection}
    {phase : Phase} (hrows : s.connection.current.events.rows <+: c'.current.events.rows)
    (hcursors : c'.current.cursors = s.connection.current.cursors)
    (hphase : PhaseConsistent host scope c'.current phase) :
    Consuming host scope { connection := c', phase, completed := s.completed } := by
  obtain ⟨more, hmore⟩ := hrows
  have hvalue : c'.current.cursorValue scope.agentId scope.sessionId =
      s.connection.current.cursorValue scope.agentId scope.sessionId :=
    cursorValue_of_cursors hcursors
  refine ⟨?_, ?_, h.complete, hphase⟩
  · dsimp only
    rw [hvalue, ← hmore, passed_append (h.lt_of_appended hmore.symm)]
    exact h.taken
  · dsimp only
    rw [hvalue, ← hmore]
    exact h.cursor.imp id fun ⟨row, hrow, heq⟩ => ⟨row, List.mem_append_left _ hrow, heq⟩

/-- A call that ends without success. -/
theorem Consuming.complete_failed {s : RuntimeState} (h : Consuming host scope s)
    {call : CompletedCall} (hfailed : call.succeeded = false) {c' : Connection}
    (hevents : c'.current.events = s.connection.current.events)
    (hcursors : c'.current.cursors = s.connection.current.cursors) :
    Consuming host scope (s.complete call c') := by
  have hrows : s.connection.current.events.rows <+: c'.current.events.rows := by rw [hevents]
  have hgrown : Consuming host scope
      { connection := c', phase := .idle, completed := s.completed } :=
    h.grow hrows hcursors trivial
  refine ⟨?_, hgrown.cursor, h.complete.snoc ?_, trivial⟩
  · change batches (s.completed ++ [call]) = _
    rw [batches_of_failed _ hfailed]
    exact hgrown.taken
  · intro result hresult hsucceeded
    rw [CompletedCall.succeeded, hresult] at hfailed
    rw [callSucceeded, hsucceeded] at hfailed
    cases hfailed

theorem persistedResult_processedEvents (buildResult : ConsolidationBatchBuildResult)
    (update : LongTermMemoryUpdate) (fallbackUsed : Bool) :
    (persistedResult buildResult update fallbackUsed).processedEvents =
      toInt32 buildResult.batch.events.length := by
  unfold persistedResult
  generalize toInt32 buildResult.batch.events.length = processedEvents
  dsimp only
  split <;> rfl

/-- An incremental request takes at most `maxEvents` events, and if it takes fewer it has looked
at all rows. -/
theorem lookedRows_of_admits (host : Host) {request : MemoryConsolidationRequest}
    (hadmits : scope.Admits request) (rows : List (Rowid × EventRow)) :
    let taken := (lookedRows host request rows).filter fun row =>
      request.selects (readEventRow host row)
    toInt32 taken.length = taken.length ∧
      ((taken.length : ℤ) < request.maxEvents.toInt → lookedRows host request rows = rows) := by
  obtain ⟨-, -, -, hforce, hmax⟩ := hadmits
  have hlimit : request.limit rows.length = request.maxEvents.toInt := by
    simp [MemoryConsolidationRequest.limit, hforce]
  have hremaining : remaining request.maxEvents.toInt 0 =
      some (request.maxEvents.toInt - 0 - 1).toNat := if_pos hmax
  have hlooked : lookedRows host request rows =
      scan (fun row => request.selects (readEventRow host row))
        (some (request.maxEvents.toInt - 0 - 1).toNat) rows := by
    unfold lookedRows
    rw [hlimit, hremaining, if_pos (by simp [hmax])]
  have hle := length_filter_scan_le (fun row => request.selects (readEventRow host row))
    (request.maxEvents.toInt - 0 - 1).toNat rows
  have hlt := request.maxEvents.toInt_lt
  rw [hlooked]
  constructor
  · unfold toInt32
    apply Int.bmod_eq_of_le
    · omega
    · omega
  · intro hfewer
    exact scan_eq_self_of_length_lt (by omega)

/-- A write phase that succeeds: its batch is what the new cursor has passed beyond the old. -/
theorem Consuming.complete_succeeded (hbound : scope.BoundExactly) {s : RuntimeState}
    (h : Consuming host scope s) {request : MemoryConsolidationRequest}
    {log : List (Rowid × EventRow)} {events : List MemoryEvent} (hadmits : scope.Admits request)
    (hloaded : LoadedAtCursor host scope s.connection.current log events)
    {update : LongTermMemoryUpdate} {fallbackUsed : Bool} {c' : Connection}
    (hevents : c'.current.events = s.connection.current.events)
    (hsaves : SavesCursor request (build request events).nextCursor s.connection c') :
    Consuming host scope (s.complete {
      request, log
      batch := (build request events).batch.events
      result := .ok (persistedResult (build request events) update fallbackUsed) } c') := by
  obtain ⟨hlog, rfl⟩ := hloaded
  have hsorted : InOrder s.connection.current.events.rows := s.connection.current.events.sorted
  have hwanted := fun row (_ : row ∈ log) => loads_and_selects hbound hadmits host row
  rw [(build_loaded host request _).2] at hsaves
  have hvalue := hsaves.cursorValue
  rw [hadmits.1, hadmits.2.1] at hvalue
  have htaken := h.taken
  have hcursor := h.cursor
  generalize s.connection.current.cursorValue scope.agentId scope.sessionId = cursor
    at htaken hcursor hvalue ⊢
  generalize hloaded : (log.filter fun row => decide (cursor < row.1.val) && scope.loads row) =
    loaded at hvalue ⊢
  have hlooked : lookedRows host request loaded <+:
      log.filter fun row => decide (cursor < row.1.val) && scope.loads row := by
    rw [hloaded]
    exact lookedRows_isPrefix host request loaded
  have hbatch : (build request (loaded.map (readEventRow host))).batch.events =
      ((lookedRows host request loaded).filter fun row =>
        request.selects (readEventRow host row)).map (readEventRow host) := by
    rw [(build_loaded host request loaded).1, List.filter_map]
    rfl
  obtain ⟨hsize, hall⟩ := lookedRows_of_admits host hadmits loaded
  have hcompleted : batches (s.completed ++ [{
      request, log
      batch := (build request (loaded.map (readEventRow host))).batch.events
      result := .ok (persistedResult (build request (loaded.map (readEventRow host))) update
        fallbackUsed) }]) =
      (passed scope.wants (c'.current.cursorValue scope.agentId scope.sessionId)
        c'.current.events.rows).map (readEventRow host) := by
    rw [batches_of_succeeded _ (by exact persistedResult_succeeded _ _ _), htaken, hbatch,
      ← List.map_append, passed_advance hsorted hlog hwanted hlooked, hvalue, hevents]
  refine ⟨hcompleted, ?_, h.complete.snoc ?_, trivial⟩
  · change c'.current.cursorValue _ _ = 0 ∨ ∃ row ∈ c'.current.events.rows,
      c'.current.cursorValue _ _ = row.1.val
    rw [hvalue, hevents]
    rcases List.eq_nil_or_concat (lookedRows host request loaded) with hnil | ⟨front, last, hlast⟩
    · rw [hnil, lastRowid_nil]
      exact hcursor
    · rw [List.concat_eq_append] at hlast
      rw [hlast] at hlooked ⊢
      have hmem : last ∈ log := (List.mem_filter.mp (hlooked.subset (by simp))).1
      exact .inr ⟨last, hlog.subset hmem, lastRowid_concat _ _ _⟩
  · intro result hresult _ hfewer
    cases hresult
    rw [persistedResult_processedEvents, hbatch, List.length_map, hsize] at hfewer
    rw [hcompleted, hvalue, hevents]
    refine List.IsPrefix.map _ (wanted_prefix_passed hsorted hlog hwanted hlooked ?_)
    rw [hall hfewer, hloaded]

theorem Consuming.append {s : RuntimeState} (h : Consuming host scope s)
    (services : RuntimeServices) (event : MemoryEvent) :
    Consuming host scope
      { s with connection := ((appendEvent services event).runOn host s.connection).2 } := by
  obtain ⟨reply, c', hrun, -, happended⟩ := run_appendEvent host services event s.connection
  have hrows : s.connection.current.events.rows <+: c'.current.events.rows := by
    rcases happended with ⟨-, metadataJson, now, i, -, hrows⟩ | ⟨-, hcurrent⟩
    · rw [hrows]
      exact List.prefix_append _ _
    · rw [hcurrent]
  have hcursors : c'.current.cursors = s.connection.current.cursors := by
    rcases happended with ⟨-, metadataJson, now, i, hdb, -⟩ | ⟨-, hcurrent⟩
    · rw [hdb]
    · rw [hcurrent]
  rw [hrun]
  exact h.grow hrows hcursors (h.phase.grow hrows hcursors)

/-- One step of the consolidation under way, for each phase it is in. -/
theorem Consuming.advance (hbound : scope.BoundExactly) {s : RuntimeState}
    (h : Consuming host scope s) (services : RuntimeServices) :
    Consuming host scope (s.advance host services) := by
  have hphase := h.phase
  unfold RuntimeState.advance
  cases hs : s.phase with
  | idle => exact h
  | started request model =>
      rw [hs] at hphase
      dsimp only
      cases unavailable services with
      | some error => exact h.complete_failed rfl rfl rfl
      | none =>
          obtain ⟨clock, ⟨error, hload⟩ | ⟨cursor, hcursor, hload⟩⟩ :=
            loadStartCursor_cases host request s.connection
          · rw [hload]
            exact h.complete_failed rfl rfl rfl
          · rw [hload]
            refine h.grow List.prefix_rfl rfl ⟨hphase, ?_⟩
            rw [hcursor, start_toInt hphase.2.2.2.1, hphase.1, hphase.2.1]
  | cursorLoaded request model startCursor =>
      rw [hs] at hphase
      obtain ⟨hadmits, hcursor⟩ := hphase
      dsimp only
      obtain ⟨clock, ⟨error, hload⟩ | hload⟩ :=
        loadEvents_cases host request startCursor s.connection
      · rw [hload]
        exact h.complete_failed rfl rfl rfl
      · rw [hload]
        refine h.grow List.prefix_rfl rfl ⟨hadmits, List.prefix_rfl, ?_⟩
        unfold MemoryConsolidationRequest.loaded
        rw [loaded_eq_of_admits hadmits, hcursor]
  | eventsLoaded request model log events =>
      rw [hs] at hphase
      dsimp only
      cases extract host (some services.longTermProcessor) model (build request events) with
      | error e => exact h.complete_failed rfl rfl rfl
      | ok extracted => exact h.grow List.prefix_rfl rfl hphase
  | extracted request log events update fallbackUsed =>
      rw [hs] at hphase
      obtain ⟨hadmits, hloaded⟩ := hphase
      dsimp only
      obtain ⟨reply, c', hrun, hkeeps, ⟨hfailed, hcursors⟩ | ⟨rfl, hsaves⟩⟩ :=
        run_persist host request (build request events) update fallbackUsed s.connection
      · rw [hrun]
        refine h.complete_failed ?_ hkeeps.events hcursors
        exact hfailed
      · rw [hrun]
        exact h.complete_succeeded hbound hadmits hloaded hkeeps.events hsaves

/-- A runtime on a store that has no cursor for the scope yet. -/
theorem consuming_initial {c : Connection}
    (hnone : c.current.cursor? scope.agentId scope.sessionId = none) :
    Consuming host scope { connection := c } := by
  have hvalue : c.current.cursorValue scope.agentId scope.sessionId = 0 := by
    simp [Database.cursorValue, hnone]
  refine ⟨?_, .inl hvalue, ?_, trivial⟩
  · have hpassed : passed scope.wants 0 c.current.events.rows = [] := by
      unfold passed
      rw [List.filter_eq_nil_iff]
      intro row hrow
      have hpos := c.current.events.positive row hrow
      rw [Fin.lt_def] at hpos
      have hlt : (0 : ℤ) < row.1.val := Int.natCast_pos.mpr hpos
      simp only [Bool.and_eq_true, decide_eq_true_eq, not_and]
      omega
    dsimp only
    rw [hvalue, hpassed]
    rfl
  · intro before call after result hsplit
    simp at hsplit

theorem consuming_of_run (hbound : scope.BoundExactly) {services : RuntimeServices}
    {c : Connection} (hnone : c.current.cursor? scope.agentId scope.sessionId = none)
    {s : RuntimeState}
    (hrun : Relation.ReflTransGen (RuntimeStep host services scope.Admits) { connection := c } s) :
    Consuming host scope s := by
  induction hrun with
  | refl => exact consuming_initial hnone
  | tail _ hstep ih =>
      cases hstep with
      | append event => exact ih.append services event
      | consolidate request model idle admitted =>
          exact ih.grow List.prefix_rfl rfl admitted
      | advance => exact ih.advance hbound services

end Steps

/-! ## Exactly once -/

/-- The batches of the successful calls are a prefix of the wanted events in id order, and a call
that took fewer events than it might has left none of those stored when it loaded. -/
structure ExactlyOnce (host : Host) (scope : Scope) (s : RuntimeState) : Prop where
  inOrder : batches s.completed <+:
    (s.connection.current.events.rows.filter scope.wants).map (readEventRow host)
  complete : LeavesNoEvent host scope s.completed

/-- In every run of a runtime that starts without a cursor for the scope, whatever is appended
between the steps of the consolidations, every wanted event is taken once and in order. What the
steps have to do with a call is said by `advance_eq_consolidateWithModel`. -/
theorem run_exactlyOnce (host : Host) (services : RuntimeServices) (scope : Scope)
    (c : Connection) (hbound : scope.BoundExactly)
    (hnone : c.current.cursor? scope.agentId scope.sessionId = none) (s : RuntimeState)
    (hrun : Relation.ReflTransGen (RuntimeStep host services scope.Admits) { connection := c } s) :
    ExactlyOnce host scope s := by
  have hconsuming := consuming_of_run hbound hnone hrun
  refine ⟨?_, hconsuming.complete⟩
  rw [hconsuming.taken]
  exact List.IsPrefix.map _ (passed_isPrefix s.connection.current.events.sorted _ _)

/-- The steps of a call with nothing in between are the call. -/
theorem advance_eq_consolidateWithModel (host : Host) (services : RuntimeServices)
    {request : MemoryConsolidationRequest} {model : Option MemoryModelClient} {s : RuntimeState}
    (hs : s.phase = .started request model) :
    let out := consolidateWithModel host services request model s.connection
    ∃ n log batch, (RuntimeState.advance host services)^[n] s =
      s.complete { request, log, batch, result := out.1 } out.2 := by
  intro out
  obtain ⟨c, phase, completed⟩ := s
  cases hs
  have hout : out = consolidateWithModel host services request model c := rfl
  rw [hout]
  unfold consolidateWithModel loadForConsolidation
  cases hunavailable : unavailable services with
  | some error =>
      refine ⟨1, [], [], ?_⟩
      simp [RuntimeState.advance, hunavailable]
  | none =>
      rcases hstart : loadStartCursor host request c with ⟨error | startCursor, c₁⟩
      · refine ⟨1, [], [], ?_⟩
        simp [RuntimeState.advance, hunavailable, hstart, RuntimeState.complete]
      · have hfirst : RuntimeState.advance host services ⟨c, .started request model, completed⟩ =
            ⟨c₁, .cursorLoaded request model startCursor, completed⟩ := by
          simp [RuntimeState.advance, hunavailable, hstart]
        rcases hload : loadEvents host request startCursor c₁ with ⟨error | events, c₂⟩
        · refine ⟨2, [], [], ?_⟩
          rw [Function.iterate_succ_apply, hfirst]
          simp [RuntimeState.advance, hload, RuntimeState.complete]
        · have hsecond : RuntimeState.advance host services
              ⟨c₁, .cursorLoaded request model startCursor, completed⟩ =
                ⟨c₂, .eventsLoaded request model c₁.current.events.rows events, completed⟩ := by
            simp [RuntimeState.advance, hload]
          dsimp only
          rw [hload]
          dsimp only
          rw [run_consolidate]
          rcases hextract : extract host (some services.longTermProcessor) model
              (build request events) with e | ⟨update, fallbackUsed⟩
          · refine ⟨3, c₁.current.events.rows, (build request events).batch.events, ?_⟩
            rw [Function.iterate_succ_apply, hfirst, Function.iterate_succ_apply, hsecond]
            simp [RuntimeState.advance, hextract, RuntimeState.complete]
          · refine ⟨4, c₁.current.events.rows, (build request events).batch.events, ?_⟩
            rw [Function.iterate_succ_apply, hfirst, Function.iterate_succ_apply, hsecond]
            simp [RuntimeState.advance, hextract, RuntimeState.complete]

section Interleaved

variable (scope : Scope)

/-- A message of `alice` in session `s`. -/
def appendMessage (s : RuntimeState) : RuntimeState :=
  { s with
    connection := ((appendEvent { store := true } {
      agentId := ascii "alice", sessionId := ascii "s", role := ascii "user"
      content := ascii "hello" }).runOn .obliging s.connection).2 }

def Scope.request : MemoryConsolidationRequest where
  agentId := scope.agentId
  sessionId := scope.sessionId
  excludedSessionIds := scope.excludedSessionIds

/-- A message, and a consolidation of the scope with a second message after its cursor is loaded. -/
def interleaved : RuntimeState :=
  let advance := RuntimeState.advance .obliging { store := true }
  let s := appendMessage { connection := { current := .empty } }
  let s := advance { s with phase := .started scope.request none }
  advance (advance (advance (appendMessage s)))

theorem interleaved_run :
    Relation.ReflTransGen (RuntimeStep .obliging { store := true } scope.Admits)
      { connection := { current := .empty } } (interleaved scope) := by
  have hadmits : scope.Admits scope.request :=
    ⟨rfl, rfl, rfl, rfl, show (0 : ℤ) < (100 : Int32).toInt by decide⟩
  refine .tail (.tail (.tail (.tail (.tail (.tail (.tail .refl (.append _ _))
    (.consolidate _ scope.request none rfl hadmits)) (.advance _)) (.append _ _)) (.advance _))
    (.advance _)) (.advance _)

end Interleaved

/-- Both messages are taken, in order. -/
theorem exactlyOnce_interleaved :
    let scope : Scope := { agentId := ascii "alice", sessionId := [], excludedSessionIds := [] }
    ExactlyOnce .obliging scope (interleaved scope) ∧
      (batches (interleaved scope).completed).length = 2 := by
  intro scope
  refine ⟨run_exactlyOnce .obliging { store := true } scope { current := .empty } ?_ rfl _
    (interleaved_run scope), by decide +kernel⟩
  exact ⟨fun _ => by decide, fun _ => by simp [scope]⟩

/-- An excluded id that holds a NUL byte makes the store leave out the session named by the bytes
before it: the messages of `s` stay unprocessed, although `s` is not excluded. -/
theorem not_exactlyOnce_excluded_nul :
    let scope : Scope :=
      { agentId := ascii "alice", sessionId := [], excludedSessionIds := [ascii "s" ++ [0, 120]] }
    Relation.ReflTransGen (RuntimeStep .obliging { store := true } scope.Admits)
      { connection := { current := .empty } } (interleaved scope) ∧
    ¬ExactlyOnce .obliging scope (interleaved scope) := by
  intro scope
  refine ⟨interleaved_run scope, ?_⟩
  intro h
  have hlength : (interleaved scope).completed.length = 1 := by decide +kernel
  obtain ⟨call, hcompleted⟩ := List.length_eq_one_iff.mp hlength
  have hcall : ∀ call ∈ (interleaved scope).completed,
      call.result.toOption.any (fun result => result.succeeded && result.processedEvents == 0) ∧
        call.request.maxEvents = 100 ∧ call.batch.isEmpty ∧
        (call.log.filter scope.wants).length = 2 := by
    decide +kernel
  obtain ⟨hresult, hmax, hbatch, hlog⟩ := hcall call (by simp [hcompleted])
  cases hreply : call.result with
  | error e =>
      rw [hreply] at hresult
      cases hresult
  | ok result =>
      simp only [hreply, Except.toOption, Option.any_some, Bool.and_eq_true, beq_iff_eq] at hresult
      have hfront := h.complete [] call [] result hcompleted hreply hresult.1
        (by rw [hresult.2, hmax]; decide)
      have hle := hfront.length_le
      rw [List.length_map, hlog, List.nil_append] at hle
      simp [batches, CompletedCall.succeeded, hreply, callSucceeded, hresult.1,
        List.isEmpty_iff.mp hbatch] at hle

end AgentMemory
