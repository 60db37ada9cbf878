import AgentMemory.Foundation.Scan
import AgentMemory.Model.Runtime
import AgentMemory.Verification.Store.Cursors

/-! # The batch builder as a scan of the log

The builder looks at the loaded events in order until its limit of selected events is reached.
The batch is what it selected, the next cursor the last event it looked at. -/

namespace AgentMemory

open Foundation

/-- The limit of the builder's loop on `n` loaded events. -/
def MemoryConsolidationRequest.limit (request : MemoryConsolidationRequest) (n : ℕ) : ℤ :=
  if request.forceReprocess && request.maxEvents.toInt ≤ 0 then toInt32 n
  else request.maxEvents.toInt

/-- How many selected events may still follow the next one, with `count` taken. -/
def remaining (limit count : ℤ) : Option ℕ :=
  if 0 < limit then some (limit - count - 1).toNat else none

/-- The events that the loop looks at. -/
def lookedAt (request : MemoryConsolidationRequest) (events : List MemoryEvent) :
    List MemoryEvent :=
  scan request.selects (remaining (request.limit events.length) 0) events

/-- The cursor of the last event of a list. -/
def lastCursor (events : List MemoryEvent) (none : Text) : Text :=
  (events.getLast?.map (·.storeCursor)).getD none

theorem lastCursor_cons (event : MemoryEvent) (events : List MemoryEvent) (none : Text) :
    lastCursor (event :: events) none = lastCursor events event.storeCursor := by
  unfold lastCursor
  rw [List.getLast?_cons]
  cases events.getLast? <;> rfl

theorem remaining_succ {limit count : ℤ} (h : limit ≤ 0 ∨ count + 1 < limit) :
    remaining limit count = (remaining limit (count + 1)).map (· + 1) := by
  unfold remaining
  split
  · have hnat : (limit - count - 1).toNat = (limit - (count + 1) - 1).toNat + 1 := by omega
    simp [hnat]
  · rfl

theorem scan_selected {p : MemoryEvent → Bool} {event : MemoryEvent} (hp : p event = true)
    (budget : Option ℕ) (rest : List MemoryEvent) :
    scan p (budget.map (· + 1)) (event :: rest) = event :: scan p budget rest := by
  cases budget <;> simp [scan, hp]

/-- The first `limit` elements; all if there is no limit. -/
def bounded {α : Type} (limit : ℤ) (xs : List α) : List α :=
  if 0 < limit then xs.take limit.toNat else xs

theorem filter_scan_remaining {α : Type} (p : α → Bool) (limit : ℤ) (xs : List α) :
    (scan p (remaining limit 0) xs).filter p = bounded limit (xs.filter p) := by
  unfold remaining bounded
  split
  · rw [filter_scan]
    congr 1
    omega
  · rw [scan_none]

/-- The line of an event in the session summary. -/
def summaryLine (event : MemoryEvent) : Text :=
  event.role ++ ascii ": " ++ event.content ++ ascii "\n"

/-- The source ref of an event that carries its store cursor. -/
def eventSourceRef (sessionId : Text) (event : MemoryEvent) : Text :=
  ascii "session://" ++ sessionId ++ ascii "#event:" ++ event.storeCursor

/-- The result extended by the events that the loop has looked at. -/
def ConsolidationBatchBuildResult.extend (request : MemoryConsolidationRequest)
    (result : ConsolidationBatchBuildResult) (looked : List MemoryEvent) :
    ConsolidationBatchBuildResult :=
  let selected := looked.filter request.selects
  { result with
    nextCursor := lastCursor looked result.nextCursor
    sessionSummary := result.sessionSummary ++ (selected.map summaryLine).flatten
    batch := {
      events := result.batch.events ++ selected
      sourceRefs := result.batch.sourceRefs ++ selected.map (eventSourceRef result.sessionId) } }

/-- The four outputs of the loop grow side by side. -/
theorem buildLoop_eq (request : MemoryConsolidationRequest) {limit : ℤ} {events : List MemoryEvent}
    (hcursors : ∀ event ∈ events, event.storeCursor ≠ []) (i : ℕ) {count : ℤ}
    (hcount : limit ≤ 0 ∨ count < limit) (result : ConsolidationBatchBuildResult) :
    buildLoop request limit i count result events =
      result.extend request (scan request.selects (remaining limit count) events) := by
  induction events generalizing i count result with
  | nil => simp [buildLoop, scan, lastCursor, ConsolidationBatchBuildResult.extend]
  | cons event rest ih =>
      have hcursor : eventCursor event i = event.storeCursor := by
        have hne := hcursors event List.mem_cons_self
        simp [eventCursor, hne]
      have hrest : ∀ event ∈ rest, event.storeCursor ≠ [] :=
        fun e he => hcursors e (List.mem_cons_of_mem _ he)
      cases hselects : request.selects event with
      | false =>
          have hscan : scan request.selects (remaining limit count) (event :: rest) =
              event :: scan request.selects (remaining limit count) rest := by
            simp [scan, hselects]
          simp only [buildLoop, hselects, hcursor, Bool.false_eq_true, if_false]
          rw [ih hrest _ hcount, hscan]
          simp [ConsolidationBatchBuildResult.extend, lastCursor_cons, hselects]
      | true =>
          by_cases hstop : 0 < limit ∧ limit ≤ count + 1
          · have hzero : remaining limit count = some 0 := by
              unfold remaining
              rw [if_pos hstop.1]
              congr 1
              omega
            have hscan : scan request.selects (remaining limit count) (event :: rest) = [event] := by
              rw [hzero]
              simp [scan, hselects]
            rw [hscan]
            simp [buildLoop, hselects, hstop, hcursor, lastCursor, summaryLine, eventSourceRef,
              ConsolidationBatchBuildResult.extend]
          · have hgo : limit ≤ 0 ∨ count + 1 < limit := by omega
            have hcond : (decide (0 < limit) && decide (limit ≤ count + 1)) = false := by
              simpa using hstop
            simp only [buildLoop, hselects, hcond, hcursor, if_true, Bool.false_eq_true, if_false]
            rw [ih hrest (i + 1) hgo, remaining_succ hgo, scan_selected hselects]
            simp [ConsolidationBatchBuildResult.extend, lastCursor_cons, hselects, summaryLine,
              eventSourceRef]

/-- What the builder returns for events that carry their store cursors. -/
theorem build_extend (request : MemoryConsolidationRequest) {events : List MemoryEvent}
    (hcursors : ∀ event ∈ events, event.storeCursor ≠ [])
    (hruns : request.forceReprocess = true ∨ 0 < request.maxEvents.toInt) :
    build request events =
      { ConsolidationBatchBuildResult.extend request { sessionId := request.sessionId }
          (lookedAt request events) with
        sessionSourceRefs := [ascii "session://" ++ request.sessionId] } := by
  have hguard : (!request.forceReprocess && decide (request.maxEvents.toInt ≤ 0)) = false := by
    rcases hruns with hforce | hmax
    · simp [hforce]
    · simp [hmax]
  have hcount : request.limit events.length ≤ 0 ∨ 0 < request.limit events.length := by omega
  have h := buildLoop_eq request hcursors 0 hcount { sessionId := request.sessionId }
  unfold MemoryConsolidationRequest.limit at h
  unfold build
  simp only [hguard, Bool.false_eq_true, if_false, h]
  rfl

/-- A request for no events at all. -/
theorem build_of_not_runs {request : MemoryConsolidationRequest}
    (hforce : request.forceReprocess = false) (hmax : request.maxEvents.toInt ≤ 0)
    (events : List MemoryEvent) : build request events = { sessionId := request.sessionId } := by
  simp [build, hforce, hmax]

/-- The batch and the next cursor, for events that carry their store cursors. -/
theorem build_eq (request : MemoryConsolidationRequest) {events : List MemoryEvent}
    (hcursors : ∀ event ∈ events, event.storeCursor ≠ [])
    (hruns : request.forceReprocess = true ∨ 0 < request.maxEvents.toInt) :
    (build request events).batch.events = (lookedAt request events).filter request.selects ∧
      (build request events).nextCursor = lastCursor (lookedAt request events) [] := by
  rw [build_extend request hcursors hruns]
  exact ⟨List.nil_append _, rfl⟩

/-- What is selected of the events looked at. -/
theorem filter_lookedAt (request : MemoryConsolidationRequest) (events : List MemoryEvent) :
    (lookedAt request events).filter request.selects =
      bounded (request.limit events.length) (events.filter request.selects) :=
  filter_scan_remaining _ _ _

end AgentMemory
