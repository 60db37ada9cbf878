import AgentMemory.Verification.Runtime.Calls

/-! # The cursor and the excluded sessions

The builder passes over the events of excluded sessions and lets the cursor move past them. The
store already leaves these events out when it loads the log, so the builder never sees those
that follow the last event of any other session. -/

namespace AgentMemory

open Foundation

/-- The rows that the same load returns without the exclusion. -/
def MemoryConsolidationRequest.unfiltered (request : MemoryConsolidationRequest) (cursor : Int64)
    (db : Database) : List (Rowid × EventRow) :=
  { request with excludedSessionIds := [] }.loaded cursor db

/-- `maxEvents` does not end the batch before the last of the rows. -/
def NotCutOff (host : Host) (request : MemoryConsolidationRequest)
    (rows : List (Rowid × EventRow)) : Prop :=
  rows = [] ∨ ((rows.dropLast.filter fun row =>
    request.selects (readEventRow host row)).length : ℤ) < request.maxEvents.toInt

section Exclusion

variable {host : Host} {request : MemoryConsolidationRequest}

theorem lookedRows_eq_self_iff (hforce : request.forceReprocess = false)
    (rows : List (Rowid × EventRow)) :
    lookedRows host request rows = rows ↔ NotCutOff host request rows := by
  unfold lookedRows NotCutOff
  have hlimit : request.limit rows.length = request.maxEvents.toInt := by
    simp [MemoryConsolidationRequest.limit, hforce]
  rw [hlimit, hforce, Bool.false_or]
  by_cases hmax : 0 < request.maxEvents.toInt
  · have hremaining : remaining request.maxEvents.toInt 0 =
        some (request.maxEvents.toInt - 0 - 1).toNat := if_pos hmax
    rw [if_pos (by simpa using hmax), hremaining, scan_eq_self_iff]
    constructor
    · intro h
      exact .inr (by omega)
    · rintro (rfl | h)
      · simp
      · omega
  · rw [if_neg (by simpa using hmax), eq_comm]
    constructor
    · exact .inl
    · rintro (h | h)
      · exact h
      · omega

theorem loaded_eq_filter (hsession : request.sessionId = []) (cursor : Int64) (db : Database) :
    request.loaded cursor db = (request.unfiltered cursor db).filter fun row =>
      row.2.sessionId.notIn (request.excludedSessionIds.map bindText) := by
  unfold MemoryConsolidationRequest.unfiltered MemoryConsolidationRequest.loaded
  rw [List.filter_filter]
  apply List.filter_congr
  intro row _
  simp [EventRow.afterCursor, hsession, Bool.and_comm, NullableText.notIn]

theorem mem_unfiltered_iff (hsession : request.sessionId = []) {cursor : Int64} {db : Database}
    {row : Rowid × EventRow} :
    row ∈ request.unfiltered cursor db ↔ row ∈ db.events.rows ∧
      cursor.toInt < row.1.val ∧ row.2.agentId.is (bindText request.agentId) = true := by
  simp [MemoryConsolidationRequest.unfiltered, MemoryConsolidationRequest.loaded,
    EventRow.afterCursor, hsession, NullableText.notIn]

/-- Rows that are looked at from the front have the same last cursor only if they are all. -/
theorem rowCursor_prefix_iff {log : List (Rowid × EventRow)} (hsorted : InOrder log)
    {front : List (Rowid × EventRow)} (hfront : front <+: log) :
    rowCursor log = rowCursor front ↔ front = log := by
  constructor
  · intro hcursor
    unfold rowCursor at hcursor
    cases hlog : log.getLast? with
    | none =>
        rw [List.getLast?_eq_none_iff.mp hlog] at hfront ⊢
        exact List.prefix_nil.mp hfront
    | some last =>
        rw [hlog] at hcursor
        cases hrow : front.getLast? with
        | none =>
            rw [hrow] at hcursor
            exact absurd hcursor (decimal_ne_nil _)
        | some row =>
            rw [hrow] at hcursor
            have hint := congrArg (fun text => (cursorToInt text).toInt) hcursor
            simp only [cursorToInt_rowid] at hint
            refine Table.eq_of_prefix_of_getLast? hsorted hfront hrow hlog (Fin.ext ?_)
            omega
  · rintro rfl
    rfl

end Exclusion

/-! ## Covering the log -/

/-- The persisted cursor is past every stored event of the agent, as it would be without the
exclusion in the load. -/
structure CoversLog (host : Host) (request : MemoryConsolidationRequest) (c c' : Connection) :
    Prop where
  covers : ∀ row ∈ c.current.events.rows, row.2.agentId.is (bindText request.agentId) = true →
    (row.1.val : ℤ) ≤ c'.current.cursorValue request.agentId request.sessionId
  sameCursor :
    let cursor := request.start c.current
    (build request ((request.loaded cursor c.current).map (readEventRow host))).nextCursor =
      (build request ((request.unfiltered cursor c.current).map (readEventRow host))).nextCursor
  persisted : c.saved = none → c'.durable = c'.current

/-- A successful call that `maxEvents` does not cut off covers the log exactly when SQL does not leave
out the agent's last event for its session and `maxEvents` would not cut off the whole log either. (The
two readings of an excluded id differ after a NUL byte, so the builder may select an event that the
store has left out.) -/
theorem consolidateWithModel_coversLog_iff (host : Host) (services : RuntimeServices)
    (request : MemoryConsolidationRequest) (model : Option MemoryModelClient) (c : Connection)
    (hforce : request.forceReprocess = false) (hsession : request.sessionId = [])
    (hsucceeded : callSucceeded (consolidateWithModel host services request model c).1 = true)
    (hnotCutOff : NotCutOff host request (request.loaded (request.start c.current) c.current)) :
    let log := request.unfiltered (request.start c.current) c.current
    CoversLog host request c (consolidateWithModel host services request model c).2 ↔
      (∀ row, log.getLast? = some row →
        row.2.sessionId.notIn (request.excludedSessionIds.map bindText) = true) ∧
      NotCutOff host request log := by
  intro log
  obtain ⟨reply, c', hrun, -, ⟨hfailed, -⟩ | ⟨update, fallbackUsed, -, -, hsaves⟩⟩ :=
    run_consolidateWithModel host services request model c
  · rw [hrun, hfailed] at hsucceeded
    cases hsucceeded
  rw [hrun, ← lookedRows_eq_self_iff hforce]
  rw [← lookedRows_eq_self_iff hforce] at hnotCutOff
  have hloaded := build_loaded host request (request.loaded (request.start c.current) c.current)
  have hlog := build_loaded host request log
  dsimp only at hloaded hlog hsaves
  rw [hloaded.2, hnotCutOff] at hsaves
  have hvalue := hsaves.cursorValue
  rw [← start_toInt hforce c.current] at hvalue
  have hsorted : InOrder log := loaded_sorted _ _ _
  have hafter : ∀ row ∈ log, (request.start c.current).toInt < row.1.val :=
    fun row hrow => ((mem_unfiltered_iff hsession).mp hrow).2.1
  have hfilter : request.loaded (request.start c.current) c.current = log.filter _ :=
    loaded_eq_filter hsession (request.start c.current) c.current
  rw [← le_lastRowid_filter_iff hsorted hafter, ← hfilter, ← hvalue]
  have hsame (hcovers : ∀ row ∈ log,
      (row.1.val : ℤ) ≤ c'.current.cursorValue request.agentId request.sessionId) :
      rowCursor (request.loaded (request.start c.current) c.current) = rowCursor log := by
    rw [hvalue, hfilter, le_lastRowid_filter_iff hsorted hafter] at hcovers
    unfold rowCursor
    rw [hfilter, getLast?_filter hcovers]
  constructor
  · rintro ⟨hcovers, hcursor, -⟩
    have hcovers' : ∀ row ∈ log,
        (row.1.val : ℤ) ≤ c'.current.cursorValue request.agentId request.sessionId := by
      intro row hrow
      obtain ⟨hrow, -, hagent⟩ := (mem_unfiltered_iff hsession).mp hrow
      exact hcovers row hrow hagent
    refine ⟨hcovers', (rowCursor_prefix_iff hsorted (lookedRows_isPrefix host request log)).mp ?_⟩
    dsimp only at hcursor
    rw [hloaded.2, hnotCutOff, hsame hcovers', hlog.2] at hcursor
    exact hcursor
  · rintro ⟨hcovers, hall⟩
    refine ⟨?_, ?_, fun hnone => Session.durable_of_closed (hsaves.closed hnone)⟩
    · intro row hrow hagent
      by_cases hafter' : (request.start c.current).toInt < row.1.val
      · exact hcovers row ((mem_unfiltered_iff hsession).mpr ⟨hrow, hafter', hagent⟩)
      · have hle := le_lastRowid fun row
          (hrow : row ∈ request.loaded (request.start c.current) c.current) => lt_of_mem_loaded hrow
        rw [hvalue]
        omega
    · dsimp only
      rw [hloaded.2, hnotCutOff, hlog.2, hall]
      exact hsame hcovers

/-- A request of `alice` that excludes one session. -/
def excludingRequest (excluded : Text) : MemoryConsolidationRequest :=
  { agentId := ascii "alice", excludedSessionIds := [excluded] }

/-- The store after messages of `alice` in the given sessions. -/
def afterMessages (sessions : List Text) : Connection :=
  sessions.foldl (fun c sessionId => ((appendEvent { store := true } {
      agentId := ascii "alice", sessionId, role := ascii "user", content := ascii "hello" }).runOn
    .obliging c).2) { current := .empty }

/-- An excluded event before the last one is covered. -/
theorem coversLog_excluded_before_last :
    let c := afterMessages [ascii "private", ascii "work"]
    CoversLog .obliging (excludingRequest (ascii "private")) c
      (consolidateWithModel .obliging { store := true } (excludingRequest (ascii "private")) none
        c).2 := by
  intro c
  refine (consolidateWithModel_coversLog_iff .obliging { store := true }
    (excludingRequest (ascii "private")) none c rfl rfl (by decide +kernel) ?_).mpr ⟨?_, ?_⟩
  · exact .inr (by decide +kernel)
  · decide +kernel
  · exact .inr (by decide +kernel)

/-- An excluded event at the end of the log is not: the cursor stays before it. -/
theorem not_coversLog_excluded_last :
    let c := afterMessages [ascii "work", ascii "private"]
    let request := excludingRequest (ascii "private")
    let out := consolidateWithModel .obliging { store := true } request none c
    callSucceeded out.1 = true ∧ request.forceReprocess = false ∧ request.sessionId = [] ∧
      NotCutOff .obliging request (request.loaded (request.start c.current) c.current) ∧
      ¬CoversLog .obliging request c out.2 := by
  intro c request out
  refine ⟨by decide +kernel, rfl, rfl, .inr (by decide +kernel), ?_⟩
  intro h
  have hlast := h.covers
  revert hlast
  decide +kernel

end AgentMemory
