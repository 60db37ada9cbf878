import AgentMemory.Verification.Consolidation.Specification
import AgentMemory.Verification.Runtime.Exclusion

/-! # The exclusion in SQL and in the builder

A load without a session leaves out the excluded sessions, and the builder passes over them again.
The batch is the same as without the first of the two filters, unless SQL leaves out an event that
the builder would take: the id of its session is what comes before a NUL byte of an excluded id, or
it was too long to be stored. -/

namespace AgentMemory

open Foundation

/-- What a consolidation uses of a batch. -/
structure SameBatch (b b' : ConsolidationBatchBuildResult) : Prop where
  events : b.batch.events = b'.batch.events
  sourceRefs : b.batch.sourceRefs = b'.batch.sourceRefs
  sessionSummary : b.sessionSummary = b'.sessionSummary
  processedEvents : toInt32 b.batch.events.length = toInt32 b'.batch.events.length

/-- The exclusion in SQL keeps the row. It is part of the query only without a session. -/
def MemoryConsolidationRequest.sqlKeeps (request : MemoryConsolidationRequest)
    (row : Rowid × EventRow) : Bool :=
  !request.sessionId.isEmpty || row.2.sessionId.notIn (request.excludedSessionIds.map bindText)

/-- How many of `n` events the loop may take; `none` stands for all of them. -/
def MemoryConsolidationRequest.intLimit (request : MemoryConsolidationRequest) (n : ℕ) :
    Option ℕ :=
  if 0 < request.maxEvents.toInt then some request.maxEvents.toInt.toNat
  else if request.forceReprocess then
    if 0 < toInt32 n then some (toInt32 n).toNat else none
  else some 0

/-- The rows with the events that the builder takes of a log. -/
def MemoryConsolidationRequest.taken (host : Host) (request : MemoryConsolidationRequest)
    (log : List (Rowid × EventRow)) : List (Rowid × EventRow) :=
  takeUpTo (request.intLimit log.length)
    (log.filter fun row => request.Eligible (readEventRow host row))

/-- SQL keeps every event that the builder takes of the whole log, and the number of events as an
`int` leaves as many of them. -/
def ExclusionsAgree (host : Host) (request : MemoryConsolidationRequest)
    (log : List (Rowid × EventRow)) : Prop :=
  (∀ row ∈ request.taken host log, request.sqlKeeps row = true) ∧
    (request.taken host (log.filter request.sqlKeeps)).length = (request.taken host log).length

section Building

variable (request : MemoryConsolidationRequest) {events : List MemoryEvent}

theorem bounded_limit (n : ℕ) (hruns : request.wanted ≠ some 0) (xs : List MemoryEvent) :
    bounded (request.limit n) xs = takeUpTo (request.intLimit n) xs := by
  unfold bounded MemoryConsolidationRequest.limit MemoryConsolidationRequest.intLimit
  by_cases hmax : 0 < request.maxEvents.toInt
  · have hle : ¬request.maxEvents.toInt ≤ 0 := by omega
    simp only [hle, hmax, decide_false, Bool.and_false, Bool.false_eq_true, if_true, if_false]
    rfl
  · have hforce := (runs_of_wanted hruns).resolve_right hmax
    have hle : request.maxEvents.toInt ≤ 0 := by omega
    simp only [hforce, hle, hmax, decide_true, Bool.and_self, if_true, if_false]
    split
    · rfl
    · rfl

/-- The batch, its refs and its summary are given by the events taken. -/
theorem build_taken (hcursors : ∀ event ∈ events, event.storeCursor ≠ []) :
    let taken := takeUpTo (request.intLimit events.length) (request.eligible events)
    let b := build request events
    b.batch.events = taken ∧ b.batch.sourceRefs = taken.map (eventSourceRef request.sessionId) ∧
      b.sessionSummary = (taken.map summaryLine).flatten := by
  by_cases hwanted : request.wanted = some 0
  · obtain ⟨hforce, hmax⟩ := (wanted_eq_zero_iff request).mp hwanted
    have hlimit : request.intLimit events.length = some 0 := by
      simp [MemoryConsolidationRequest.intLimit, hforce, not_lt.mpr hmax]
    rw [build_of_not_runs hforce hmax, hlimit]
    exact ⟨rfl, rfl, rfl⟩
  · have htaken : (lookedAt request events).filter request.selects =
        takeUpTo (request.intLimit events.length) (request.eligible events) := by
      rw [filter_lookedAt, filter_selects, bounded_limit request _ hwanted]
    rw [build_extend request hcursors (runs_of_wanted hwanted)]
    simp only [ConsolidationBatchBuildResult.extend, htaken, List.nil_append]
    exact ⟨trivial, trivial, trivial⟩

theorem takeUpTo_map {α β : Type} (f : α → β) (n : Option ℕ) (xs : List α) :
    takeUpTo n (xs.map f) = (takeUpTo n xs).map f := by
  cases n with
  | none => rfl
  | some n => exact List.map_take.symm

/-- The batch of a log is given by the rows taken of it. -/
theorem build_rows (host : Host) (log : List (Rowid × EventRow)) :
    let taken := (request.taken host log).map (readEventRow host)
    let b := build request (log.map (readEventRow host))
    b.batch.events = taken ∧ b.batch.sourceRefs = taken.map (eventSourceRef request.sessionId) ∧
      b.sessionSummary = (taken.map summaryLine).flatten := by
  have hcursors : ∀ event ∈ log.map (readEventRow host), event.storeCursor ≠ [] := by
    intro event hevent
    obtain ⟨row, -, rfl⟩ := List.mem_map.mp hevent
    exact decimal_ne_nil row.1.val
  have htaken := build_taken request hcursors
  rw [MemoryConsolidationRequest.eligible, List.filter_map, takeUpTo_map, List.length_map]
    at htaken
  exact htaken

/-- Rows that SQL has filtered give the same batch exactly when it keeps what is taken. -/
theorem build_filter_iff (host : Host) {events : Table EventRow} {log : List (Rowid × EventRow)}
    (hlog : log ⊆ events.rows) :
    SameBatch (build request ((log.filter request.sqlKeeps).map (readEventRow host)))
        (build request (log.map (readEventRow host))) ↔
      ExclusionsAgree host request log := by
  obtain ⟨hevents, hrefs, hsummary⟩ := build_rows request host log
  obtain ⟨hevents', hrefs', hsummary'⟩ := build_rows request host (log.filter request.sqlKeeps)
  have hmem {rows : List (Rowid × EventRow)} {row : Rowid × EventRow}
      (hrow : row ∈ request.taken host rows) : row ∈ rows :=
    (List.mem_filter.mp ((takeUpTo_isPrefix _ _).subset hrow)).1
  constructor
  · intro h
    have hsame := hevents'.symm.trans (h.events.trans hevents)
    refine ⟨fun row hrow => ?_, by simpa using congrArg List.length hsame⟩
    have hread := List.mem_map_of_mem (f := readEventRow host) hrow
    rw [← hsame] at hread
    obtain ⟨row', hrow', heq⟩ := List.mem_map.mp hread
    have hkept := List.mem_filter.mp (hmem hrow')
    rw [← eq_of_readEventRow_eq (hlog (hmem hrow)) (hlog hkept.1) heq]
    exact hkept.2
  · intro h
    have hsame : request.taken host (log.filter request.sqlKeeps) = request.taken host log := by
      have hcomm : (log.filter request.sqlKeeps).filter
            (fun row => request.Eligible (readEventRow host row)) =
          (log.filter fun row => request.Eligible (readEventRow host row)).filter
            request.sqlKeeps := by
        rw [List.filter_filter, List.filter_filter]
        exact List.filter_congr fun _ _ => Bool.and_comm _ _
      have hlength := h.2
      unfold MemoryConsolidationRequest.taken at hlength ⊢
      rw [hcomm] at hlength ⊢
      exact (takeUpTo_filter_eq_iff _ _ _ _).mpr ⟨h.1, hlength⟩
    have hbatch := hevents'.trans ((congrArg (List.map _) hsame).trans hevents.symm)
    exact ⟨hbatch, by rw [hrefs, hrefs', hsame], by rw [hsummary, hsummary', hsame], by rw [hbatch]⟩

end Building

section Loading

variable {host : Host} {request : MemoryConsolidationRequest} {c : Connection}

theorem loadEventsAfterCursor_events {agentId sessionId cursor : Text} {excluded : List Text}
    (h : (loadEventsAfterCursor host agentId sessionId cursor excluded c).1.succeeded = true) :
    (loadEventsAfterCursor host agentId sessionId cursor excluded c).1.events =
      (c.current.events.rows.filter
        (EventRow.afterCursor agentId sessionId (cursorToInt cursor) excluded)).map
          (readEventRow host) := by
  simp only [loadEventsAfterCursor, select] at h ⊢
  split
  · rfl
  · next hrefused =>
      rw [if_neg hrefused] at h
      cases h

/-- The load with the exclusion is the load without it, filtered. -/
theorem afterCursor_excluded (request : MemoryConsolidationRequest) (cursor : Int64)
    (row : Rowid × EventRow) :
    EventRow.afterCursor request.agentId request.sessionId cursor request.excludedSessionIds row =
      (EventRow.afterCursor request.agentId request.sessionId cursor [] row &&
        request.sqlKeeps row) := by
  unfold EventRow.afterCursor MemoryConsolidationRequest.sqlKeeps
  cases request.sessionId.isEmpty with
  | true => simp [NullableText.notIn]
  | false => simp

/-- Building from the load with the excluded sessions and from the load without them gives the
same batch exactly when the two readings of the excluded ids agree on what is taken. -/
theorem build_exclusion_iff (host : Host) (request : MemoryConsolidationRequest) (cursor : Text)
    (c c' : Connection) (hsame : c'.current = c.current)
    (hfiltered : (loadEventsAfterCursor host request.agentId request.sessionId cursor
      request.excludedSessionIds c).1.succeeded = true)
    (hwhole : (loadEventsAfterCursor host request.agentId request.sessionId cursor []
      c').1.succeeded = true) :
    let filtered := (loadEventsAfterCursor host request.agentId request.sessionId cursor
      request.excludedSessionIds c).1.events
    let whole := (loadEventsAfterCursor host request.agentId request.sessionId cursor []
      c').1.events
    SameBatch (build request filtered) (build request whole) ↔
      ExclusionsAgree host request (c.current.events.rows.filter
        (EventRow.afterCursor request.agentId request.sessionId (cursorToInt cursor) [])) := by
  intro filtered whole
  rw [← build_filter_iff request host fun _ hrow => List.mem_of_mem_filter hrow,
    List.filter_filter]
  simp only [filtered, whole]
  rw [loadEventsAfterCursor_events hfiltered, loadEventsAfterCursor_events hwhole, hsame,
    List.filter_congr fun row _ => (afterCursor_excluded request _ row).trans (Bool.and_comm _ _)]

end Loading

/-- An exclusion by whole ids. -/
theorem build_exclusion_private :
    let request := excludingRequest (ascii "private")
    let c := afterMessages [ascii "private", ascii "work"]
    SameBatch
      (build request (loadEventsAfterCursor .obliging request.agentId request.sessionId []
        request.excludedSessionIds c).1.events)
      (build request (loadEventsAfterCursor .obliging request.agentId request.sessionId [] []
        c).1.events) := by
  intro request c
  refine (build_exclusion_iff .obliging request [] c c rfl (by decide +kernel)
    (by decide +kernel)).mpr ⟨?_, ?_⟩
  · decide +kernel
  · decide +kernel

/-- SQL leaves out session `s` for an excluded id that only begins with it. -/
theorem build_exclusion_differs_nul :
    let request := excludingRequest (ascii "s" ++ 0 :: ascii "x")
    let c := afterMessages [ascii "s"]
    (loadEventsAfterCursor .obliging request.agentId request.sessionId []
        request.excludedSessionIds c).1.succeeded = true ∧
      (loadEventsAfterCursor .obliging request.agentId request.sessionId [] []
        c).1.succeeded = true ∧
      ¬SameBatch
        (build request (loadEventsAfterCursor .obliging request.agentId request.sessionId []
          request.excludedSessionIds c).1.events)
        (build request (loadEventsAfterCursor .obliging request.agentId request.sessionId [] []
          c).1.events) := by
  intro request c
  refine ⟨by decide +kernel, by decide +kernel, fun h => ?_⟩
  have hrefs := h.sourceRefs
  revert hrefs
  decide +kernel

end AgentMemory
