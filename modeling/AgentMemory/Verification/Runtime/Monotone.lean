import AgentMemory.Verification.Runtime.Calls

/-! # The cursor along a run of calls

A call that is not forced starts at the cursor and never moves it back. A forced call starts at
the beginning of the log and saves the last row it looked at, so it moves the cursor back exactly
if it stops before it. -/

namespace AgentMemory

open Foundation

/-! ## Calls on one scope -/

inductive ScopeCall where
  | append (event : MemoryEvent)
  | consolidate (request : MemoryConsolidationRequest) (model : Option MemoryModelClient)

namespace ScopeCall

variable (host : Host) (services : RuntimeServices)

def run : ScopeCall → Connection → Connection
  | .append event, c => ((appendEvent services event).runOn host c).2
  | .consolidate request model, c => (consolidateWithModel host services request model c).2

/-- The batch that the call builds. -/
def batch : ScopeCall → Connection → List MemoryEvent
  | .append _, _ => []
  | .consolidate request _, c =>
      match (loadForConsolidation host services request c).1 with
      | .ok events => (build request events).batch.events
      | .error _ => []

/-- A consolidation that reports success. -/
def succeeds : ScopeCall → Connection → Bool
  | .append _, _ => false
  | .consolidate request model, c =>
      callSucceeded (consolidateWithModel host services request model c).1

def forced : ScopeCall → Bool
  | .append _ => false
  | .consolidate request _ => request.forceReprocess

end ScopeCall

/-- One call of a run, with the connection before and after it. -/
structure CallRecord where
  call : ScopeCall
  before : Connection
  after : Connection

def history (host : Host) (services : RuntimeServices) :
    List ScopeCall → Connection → List CallRecord
  | [], _ => []
  | call :: rest, c =>
      let after := call.run host services c
      { call, before := c, after } :: history host services rest after

/-- A forced call comes as far as the cursor: it loads no events, or it loads one at or after the
cursor and its limit is not used up by the events before the cursor. -/
def ReachesCursor (host : Host) (request : MemoryConsolidationRequest) (db : Database) : Prop :=
  let rows := request.loaded 0 db
  let cursor := db.cursorValue request.agentId request.sessionId
  rows = [] ∨
    (∃ row ∈ rows, cursor ≤ row.1.val) ∧
      (request.limit rows.length ≤ 0 ∨
        ((rows.filter fun row => decide ((row.1.val : ℤ) < cursor) &&
          request.selects (readEventRow host row)).length : ℤ) < request.limit rows.length)

instance (host : Host) (request : MemoryConsolidationRequest) (db : Database) :
    Decidable (ReachesCursor host request db) := by
  unfold ReachesCursor
  infer_instance

/-- The call is on the scope, and if it is forced it reaches the cursor. -/
def ScopeCall.Meets (host : Host) (agentId sessionId : Text) (db : Database) : ScopeCall → Prop
  | .append _ => True
  | .consolidate request _ => request.agentId = agentId ∧ request.sessionId = sessionId ∧
      (request.forceReprocess = true → ReachesCursor host request db)

instance (host : Host) (agentId sessionId : Text) (db : Database) :
    DecidablePred (ScopeCall.Meets host agentId sessionId db)
  | .append _ => isTrue trivial
  | .consolidate request _ => inferInstanceAs (Decidable (request.agentId = agentId ∧
      request.sessionId = sessionId ∧
      (request.forceReprocess = true → ReachesCursor host request db)))

/-! ## One call -/

section OneCall

variable {host : Host} {services : RuntimeServices}

theorem lookedRows_of_forced {request : MemoryConsolidationRequest}
    (hforce : request.forceReprocess = true) (rows : List (Rowid × EventRow)) :
    lookedRows host request rows = scan (fun row => request.selects (readEventRow host row))
      (remaining (request.limit rows.length) 0) rows := by
  unfold lookedRows
  rw [hforce]
  rfl

/-- A forced call that reaches the cursor stops at or after it. -/
theorem le_lastRowid_of_reaches {request : MemoryConsolidationRequest}
    (hforce : request.forceReprocess = true) {db : Database}
    (h : ReachesCursor host request db) :
    db.cursorValue request.agentId request.sessionId ≤
      lastRowid (lookedRows host request (request.loaded 0 db))
        (db.cursorValue request.agentId request.sessionId) := by
  have hsorted := loaded_sorted request 0 db
  unfold ReachesCursor at h
  rw [lookedRows_of_forced hforce]
  dsimp only at h
  generalize request.loaded 0 db = rows at h hsorted ⊢
  generalize db.cursorValue request.agentId request.sessionId = cursor at h ⊢
  rcases h with rfl | ⟨⟨row, hrow, hle⟩, hlimit⟩
  · simp [scan, lastRowid]
  · have hall := hle.trans (rowid_le_lastRowid hsorted hrow cursor)
    unfold remaining
    by_cases hpos : 0 < request.limit rows.length
    · rw [if_pos hpos]
      rcases scan_cases (fun row => request.selects (readEventRow host row))
        (request.limit rows.length - 0 - 1).toNat rows with heq | ⟨front, x, heq, hx, hlength⟩
      · rw [heq]
        exact hall
      · have hfront := scan_isPrefix (fun row => request.selects (readEventRow host row))
          (some (request.limit rows.length - 0 - 1).toNat) rows
        rw [heq] at hfront ⊢
        rw [lastRowid_concat]
        by_contra hbefore
        -- then all that is selected up to the stop is before the cursor and uses up the limit
        have hsmall : ∀ row ∈ front ++ [x], ((row.1.val : ℤ) < cursor) := by
          intro row hrow
          have hgetLast : (front ++ [x]).getLast? = some x := by simp
          rcases Table.eq_or_lt_of_getLast? (hsorted.sublist hfront.sublist) hgetLast hrow with
            rfl | hlt
          · omega
          · rw [Fin.lt_def] at hlt
            omega
        have hfilter : (front ++ [x]).filter (fun row => decide ((row.1.val : ℤ) < cursor) &&
            request.selects (readEventRow host row)) =
              (front ++ [x]).filter fun row => request.selects (readEventRow host row) := by
          apply List.filter_congr
          intro row hrow
          simp [hsmall row hrow]
        have hcount : ((front ++ [x]).filter fun row =>
            request.selects (readEventRow host row)).length =
              (request.limit rows.length - 0 - 1).toNat + 1 := by
          rw [List.filter_append, List.length_append, hlength]
          simp [hx]
        have hle := (hfront.sublist.filter fun row => decide ((row.1.val : ℤ) < cursor) &&
          request.selects (readEventRow host row)).length_le
        rw [hfilter, hcount] at hle
        have hlimit := hlimit.resolve_left (by omega)
        omega
    · rw [if_neg hpos, scan_none]
      exact hall

/-- No call that meets its condition moves the cursor back, in the tables as the connection sees
them or as they are persisted. -/
theorem ScopeCall.cursorValue_le (services : RuntimeServices) {agentId sessionId : Text}
    {call : ScopeCall} {c : Connection}
    (h : call.Meets host agentId sessionId c.current) :
    c.current.cursorValue agentId sessionId ≤
        (call.run host services c).current.cursorValue agentId sessionId ∧
      c.durable.cursorValue agentId sessionId ≤
        (call.run host services c).durable.cursorValue agentId sessionId := by
  cases call with
  | append event =>
      obtain ⟨reply, c', hrun, hsaved, happended⟩ := run_appendEvent host services event c
      have hcursors : c'.current.cursors = c.current.cursors := by
        rcases happended with ⟨-, metadataJson, now, i, hdb, -⟩ | ⟨-, hcurrent⟩
        · rw [hdb]
        · rw [hcurrent]
      have hdurable : c'.durable.cursors = c.durable.cursors := by
        unfold Session.durable
        rw [hsaved]
        cases c.saved with
        | none => exact hcursors
        | some d => rfl
      rw [run, hrun]
      exact ⟨le_of_eq (cursorValue_of_cursors hcursors).symm,
        le_of_eq (cursorValue_of_cursors hdurable).symm⟩
  | consolidate request model =>
      obtain ⟨rfl, rfl, hreaches⟩ := h
      obtain ⟨reply, c', hrun, hkeeps, hcases⟩ :=
        run_consolidateWithModel host services request model c
      have hcurrent : c.current.cursorValue request.agentId request.sessionId ≤
          c'.current.cursorValue request.agentId request.sessionId := by
        rcases hcases with ⟨-, hcursors⟩ | ⟨update, fallbackUsed, -, -, hsaves⟩
        · exact le_of_eq (cursorValue_of_cursors hcursors).symm
        · rw [(build_loaded host request _).2] at hsaves
          rw [hsaves.cursorValue]
          cases hforce : request.forceReprocess with
          | true =>
              have hstart : request.start c.current = 0 := by
                simp [MemoryConsolidationRequest.start, hforce]
              rw [hstart]
              exact le_lastRowid_of_reaches hforce (hreaches hforce)
          | false =>
              apply le_lastRowid
              intro row hrow
              rw [← start_toInt hforce]
              exact lt_of_mem_loaded ((lookedRows_isPrefix host request _).subset hrow)
      rw [run, hrun]
      refine ⟨hcurrent, ?_⟩
      rcases hkeeps.durable with hdurable | ⟨hbefore, hafter⟩
      · exact le_of_eq (cursorValue_of_cursors hdurable).symm
      · rw [Session.durable_of_closed hbefore, Session.durable_of_closed hafter]
        exact hcurrent

/-- The events of a batch are among the rows that the call loaded. -/
theorem mem_batch {request : MemoryConsolidationRequest} {model : Option MemoryModelClient}
    {c : Connection} {event : MemoryEvent}
    (h : event ∈ (ScopeCall.consolidate request model).batch host services c) :
    ∃ row ∈ lookedRows host request (request.loaded (request.start c.current) c.current),
      event = readEventRow host row := by
  simp only [ScopeCall.batch] at h
  obtain ⟨clock, ⟨error, hload⟩ | hload⟩ := loadForConsolidation_cases host services request c
  · rw [hload] at h
    cases h
  · rw [hload] at h
    dsimp only at h
    rw [(build_loaded host request _).1, List.mem_filter, List.mem_map] at h
    obtain ⟨⟨row, hrow, rfl⟩, -⟩ := h
    exact ⟨row, hrow, rfl⟩

end OneCall

/-! ## Whole runs -/

/-- The event is at or before the cursor that the call, a successful one, left. -/
def CallRecord.Covers (host : Host) (services : RuntimeServices) (agentId sessionId : Text)
    (record : CallRecord) (event : MemoryEvent) : Prop :=
  record.call.succeeds host services record.before = true ∧
    (cursorToInt event.storeCursor).toInt ≤ record.after.current.cursorValue agentId sessionId


section Runs

variable {host : Host} {services : RuntimeServices} {agentId sessionId : Text}

theorem batch_gt_cursorValue {call : ScopeCall} {c : Connection}
    (h : call.Meets host agentId sessionId c.current) (hforced : call.forced = false)
    {event : MemoryEvent} (hevent : event ∈ call.batch host services c) :
    c.current.cursorValue agentId sessionId < (cursorToInt event.storeCursor).toInt := by
  cases call with
  | append event => cases hevent
  | consolidate request model =>
      obtain ⟨rfl, rfl, -⟩ := h
      obtain ⟨row, hrow, rfl⟩ := mem_batch hevent
      have hlt := lt_of_mem_loaded ((lookedRows_isPrefix host request _).subset hrow)
      rw [start_toInt hforced c.current] at hlt
      exact hlt.trans_eq (cursorToInt_rowid row.1).symm

theorem batch_le_cursorValue {call : ScopeCall} {c : Connection}
    (h : call.Meets host agentId sessionId c.current)
    (hsucceeds : call.succeeds host services c = true) {event : MemoryEvent}
    (hevent : event ∈ call.batch host services c) :
    (cursorToInt event.storeCursor).toInt ≤
      (call.run host services c).current.cursorValue agentId sessionId := by
  cases call with
  | append event => cases hevent
  | consolidate request model =>
      obtain ⟨rfl, rfl, -⟩ := h
      obtain ⟨row, hrow, rfl⟩ := mem_batch hevent
      obtain ⟨reply, c', hrun, -, ⟨hfailed, -⟩ | ⟨update, fallbackUsed, -, -, hsaves⟩⟩ :=
        run_consolidateWithModel host services request model c
      · rw [ScopeCall.succeeds, hrun, hfailed] at hsucceeds
        cases hsucceeds
      · rw [(build_loaded host request _).2] at hsaves
        rw [ScopeCall.run, hrun, hsaves.cursorValue]
        have hsorted := (loaded_sorted request (request.start c.current) c.current).sublist
          (lookedRows_isPrefix host request _).sublist
        exact (cursorToInt_rowid row.1).trans_le (rowid_le_lastRowid hsorted hrow _)

/-- Along a run the cursor is never before where the run began. -/
theorem history_cursorValue_le {calls : List ScopeCall} {c : Connection}
    (h : ∀ record ∈ history host services calls c,
      record.call.Meets host agentId sessionId record.before.current) :
    ∀ record ∈ history host services calls c,
      c.current.cursorValue agentId sessionId ≤
        record.before.current.cursorValue agentId sessionId := by
  induction calls generalizing c with
  | nil =>
      intro record hrecord
      cases hrecord
  | cons call rest ih =>
      obtain ⟨hcall, hrest⟩ := List.forall_mem_cons.mp h
      intro record hrecord
      rcases List.mem_cons.mp hrecord with rfl | hrecord
      · exact le_refl _
      · exact (ScopeCall.cursorValue_le services hcall).1.trans (ih hrest record hrecord)

end Runs

/-- The cursor never moves back, neither as seen nor as persisted; a successful call covers its
batch, and no later call that is not forced takes an event again that is covered. -/
structure CursorAdvances (host : Host) (services : RuntimeServices) (agentId sessionId : Text)
    (records : List CallRecord) : Prop where
  monotone : ∀ record ∈ records, record.before.current.cursorValue agentId sessionId ≤
    record.after.current.cursorValue agentId sessionId
  persisted : ∀ record ∈ records, record.before.durable.cursorValue agentId sessionId ≤
    record.after.durable.cursorValue agentId sessionId
  covered : ∀ record ∈ records, record.call.succeeds host services record.before = true →
    ∀ event ∈ record.call.batch host services record.before,
      record.Covers host services agentId sessionId event
  fresh : records.Pairwise fun earlier later => later.call.forced = false →
    ∀ event ∈ later.call.batch host services later.before,
      ¬earlier.Covers host services agentId sessionId event

/-- In every run of calls on one scope in which each forced call reaches the cursor, the cursor
only advances. -/
theorem history_cursorAdvances (host : Host) (services : RuntimeServices)
    (agentId sessionId : Text) (calls : List ScopeCall) (c : Connection)
    (h : ∀ record ∈ history host services calls c,
      record.call.Meets host agentId sessionId record.before.current) :
    CursorAdvances host services agentId sessionId (history host services calls c) := by
  induction calls generalizing c with
  | nil => exact ⟨by simp [history], by simp [history], by simp [history], .nil⟩
  | cons call rest ih =>
      obtain ⟨hcall, hrest⟩ := List.forall_mem_cons.mp h
      obtain ⟨hmonotone, hpersisted, hcovered, hfresh⟩ := ih _ hrest
      have hle := ScopeCall.cursorValue_le services hcall
      refine ⟨List.forall_mem_cons.mpr ⟨hle.1, hmonotone⟩,
        List.forall_mem_cons.mpr ⟨hle.2, hpersisted⟩,
        List.forall_mem_cons.mpr ⟨?_, hcovered⟩, .cons ?_ hfresh⟩
      · intro hsucceeds event hevent
        exact ⟨hsucceeds, batch_le_cursorValue hcall hsucceeds hevent⟩
      · intro later hlater hforced event hevent hcovers
        have hstart := history_cursorValue_le hrest later hlater
        have hgt := batch_gt_cursorValue (hrest later hlater) hforced hevent
        exact absurd (hcovers.2.trans hstart) (not_le_of_gt hgt)

/-- Three messages of `alice`, consolidated, and then reprocessed with the given limit. -/
def reprocessing (maxEvents : Int32) : List ScopeCall :=
  let message : ScopeCall := .append {
    agentId := ascii "alice", sessionId := ascii "s", role := ascii "user"
    content := ascii "hello" }
  [message, message, message,
    .consolidate { agentId := ascii "alice", sessionId := ascii "s" } none,
    .consolidate
      { agentId := ascii "alice", sessionId := ascii "s", forceReprocess := true, maxEvents } none,
    .consolidate { agentId := ascii "alice", sessionId := ascii "s" } none]

/-- Reprocessing the whole session keeps the cursor at its end. -/
theorem cursorAdvances_reprocess_all :
    CursorAdvances .obliging { store := true } (ascii "alice") (ascii "s")
      (history .obliging { store := true } (reprocessing 100) { current := .empty }) :=
  history_cursorAdvances .obliging { store := true } (ascii "alice") (ascii "s") (reprocessing 100)
    { current := .empty } (by decide +kernel)

/-- Reprocessing one event of three moves the cursor from 3 back to 1, and the next call that is
not forced takes the other two again. -/
theorem not_cursorAdvances_reprocess_one :
    ¬CursorAdvances .obliging { store := true } (ascii "alice") (ascii "s")
      (history .obliging { store := true } (reprocessing 1) { current := .empty }) := by
  intro h
  have hmonotone := h.monotone
  revert hmonotone
  decide +kernel

end AgentMemory
