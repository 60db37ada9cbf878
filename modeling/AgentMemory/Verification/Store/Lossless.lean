import AgentMemory.Foundation.Log
import AgentMemory.Verification.Search.Queries
import AgentMemory.Verification.Serialization.Columns
import AgentMemory.Verification.Store.Events

/-! # Events come back as they were saved

The store binds the strings of an event as C strings, and a load binds the names of its scope in
the same way. A text above SQLite's limit is not bound at all, which the store does not notice. -/

namespace AgentMemory

open Foundation

/-- The strings that `SaveEventUnlocked` binds. -/
def MemoryEvent.strings (event : MemoryEvent) : List Text :=
  [event.agentId, event.sessionId, event.role, event.content, event.payloadRef, event.toolCallId,
    event.toolName]

def MemoryEvent.NulFree (event : MemoryEvent) : Prop :=
  ∀ s ∈ event.strings, 0 ∉ s

instance (event : MemoryEvent) : Decidable event.NulFree :=
  inferInstanceAs (Decidable (∀ s ∈ event.strings, 0 ∉ s))

/-- No string of the event holds a NUL byte, and none of them, nor the metadata as it is dumped, is
longer than SQLite's limit. -/
structure MemoryEvent.FitsColumns (event : MemoryEvent) : Prop where
  nulFree : event.NulFree
  strings : ∀ s ∈ event.strings, s.length ≤ maxTextLength
  metadata : ∀ text ∈ event.metadata.dump.toOption, text.length ≤ maxTextLength

instance (event : MemoryEvent) : Decidable event.FitsColumns :=
  decidable_of_iff (event.NulFree ∧ (∀ s ∈ event.strings, s.length ≤ maxTextLength) ∧
      ∀ text ∈ event.metadata.dump.toOption, text.length ≤ maxTextLength)
    ⟨fun h => ⟨h.1, h.2.1, h.2.2⟩, fun h => ⟨h.nulFree, h.strings, h.metadata⟩⟩

/-- The loaded event is identical to the saved one in every column. The timestamp is in none. -/
structure LoadedAs (event loaded : MemoryEvent) : Prop where
  agentId : loaded.agentId = event.agentId
  sessionId : loaded.sessionId = event.sessionId
  type : loaded.type = event.type
  role : loaded.role = event.role
  content : loaded.content = event.content
  payloadRef : loaded.payloadRef = event.payloadRef
  toolCallId : loaded.toolCallId = event.toolCallId
  toolName : loaded.toolName = event.toolName
  metadata : loaded.metadata = event.metadata.normal
  timestamp : loaded.timestamp = []

/-- The row that `SaveEventUnlocked` writes for an event. -/
def MemoryEvent.IsStoredIn (event : MemoryEvent) (row : EventRow) : Prop :=
  ∃ metadataJson, row.toEventValues = event.values metadataJson

/-- An event with a metadata object was saved, and the next statement is not refused. The parser gives
the metadata back, and rejects an empty text. -/
structure SavedAndRead (host : Host) (event : MemoryEvent) (c c' : Connection) : Prop where
  isObject : event.metadata.isObject = true
  readsBack : host.ReadsBack event.metadata
  rejectsEmpty : host.parseJson [] = none
  saved : (saveEvent event).runOn host c = (.ok memorySuccess, c')
  accepted : host.Accepts c'.clock

def LastLoaded (event : MemoryEvent) (result : MemoryEventsResult) : Prop :=
  ∃ loaded, result.events.getLast? = some loaded ∧ LoadedAs event loaded

/-- Both loads of the event's scope end with the event, with any limit and from any cursor at or
before the last event that was there when it was saved. -/
structure LoadsBack (host : Host) (event : MemoryEvent) (c c' : Connection) : Prop where
  recent : ∀ limit : Int32, 0 < limit.toInt →
    LastLoaded event (loadRecentEvents host event.agentId event.sessionId limit c').1
  afterCursor : ∀ cursor, (cursorToInt cursor).toInt ≤ lastRowid c.current.events.rows 0 →
    LastLoaded event (loadEventsAfterCursor host event.agentId event.sessionId cursor [] c').1

/-- A load of the scope has the event of this row in its result. -/
def ReturnedFor (host : Host) (agentId sessionId : Text) (row : Rowid × EventRow)
    (c : Connection) : Prop :=
  (∃ limit, readEventRow host row ∈ (loadRecentEvents host agentId sessionId limit c).1.events) ∨
    ∃ cursor excluded, readEventRow host row ∈
      (loadEventsAfterCursor host agentId sessionId cursor excluded c).1.events

/-- In no state is a stored event returned for the scope of the other one. -/
def KeptFrom (host : Host) (event other : MemoryEvent) : Prop :=
  ∀ (c : Connection), ∀ row ∈ c.current.events.rows, event.IsStoredIn row.2 →
    ¬ReturnedFor host other.agentId other.sessionId row c

/-! ## What a save stores -/

section Save

variable {host : Host} {event : MemoryEvent} {c c' : Connection}

/-- A successful save appends a row with the dumped metadata. -/
theorem saveEvent_stores (h : (saveEvent event).runOn host c = (.ok memorySuccess, c'))
    (hobject : event.metadata.isObject = true) :
    ∃ metadataJson i now, event.metadata.dump = .ok metadataJson ∧
      (∀ row ∈ c.current.events.rows, row.1 < i) ∧ 0 < i ∧
      c'.current.events.rows = c.current.events.rows ++
        [(i, { event.values metadataJson with createdAt := now })] := by
  have hsave := run_of_reporting_succeeded h
  rw [saveEventUnlocked, run_andThen] at hsave
  rcases run_step host .prepare c with ⟨db, heffect, hrun⟩ | ⟨message, hrun⟩
  · cases heffect
    rw [hrun] at hsave
    simp only [hobject, if_true] at hsave
    cases hdump : event.metadata.dump with
    | error e =>
        rw [hdump] at hsave
        cases hsave
    | ok metadataJson =>
        rw [hdump] at hsave
        change (step (.insertEvent (event.values metadataJson))).runOn host
          { c with clock := c.clock + 1 } = _ at hsave
        rcases run_step host (.insertEvent (event.values metadataJson))
          { c with clock := c.clock + 1 } with ⟨db, heffect, hrun⟩ | ⟨message, hrun⟩
        · rw [hrun] at hsave
          cases hsave
          obtain ⟨events, hins, hdb⟩ := Option.bind_eq_some_iff.mp heffect
          cases hdb
          obtain ⟨i, hnext, hrows⟩ := Table.insert_eq_some hins
          exact ⟨metadataJson, i, _, rfl, Table.lt_nextRowid hnext, Table.nextRowid_pos hnext,
            hrows⟩
        · rw [hrun] at hsave
          cases hsave
  · rw [hrun] at hsave
    cases hsave

/-- A column gives back a string exactly if it has no NUL byte and is within the limit. -/
theorem columnText_bindNullable_iff {s : Text} :
    (bindNullable s).columnText = s ↔ 0 ∉ s ∧ s.length ≤ maxTextLength := by
  unfold NullableText.columnText
  by_cases hle : (cStr s).length ≤ maxTextLength
  · rw [NullableText.text?_bindNullable_of_le hle]
    change cStr s = s ↔ _
    rw [cStr_eq_self_iff]
    refine ⟨fun h => ⟨h, ?_⟩, fun h => h.1⟩
    rwa [cStr_eq_self h] at hle
  · rw [NullableText.text?_bindNullable_of_lt (by omega)]
    constructor
    · rintro rfl
      exact absurd (Nat.zero_le _) hle
    · rintro ⟨hfree, hlength⟩
      rw [cStr_eq_self hfree] at hle
      exact absurd hlength hle

theorem normal_eq_empty_iff {json : Json} : json.normal = .object [] ↔ json = .object [] := by
  constructor
  · intro h
    cases json with
    | object members =>
        cases members with
        | nil => rfl
        | cons m rest => simp [Json.normal, Json.normalMembers] at h
    | integer n =>
        unfold Json.normal at h
        split at h <;> cases h
    | null | boolean | unsigned | float | string | array => cases h
  · rintro rfl
    rfl

/-- The dumped metadata comes back from its column exactly if it is within the limit. -/
theorem parseJsonSafely_bindNullable_iff {json : Json} {text : Text} (hdump : json.dump = .ok text)
    (hobject : json.isObject = true) (hreads : host.ReadsBack json)
    (hempty : host.parseJson [] = none) :
    parseJsonSafely host (bindNullable text).columnText = json.normal ↔
      text.length ≤ maxTextLength := by
  have hfree := Json.zero_notMem_dump hdump
  constructor
  · intro h
    by_contra hlong
    have hnull : (bindNullable text).columnText = [] := by
      rw [NullableText.columnText,
        NullableText.text?_bindNullable_of_lt (by rw [cStr_eq_self hfree]; omega)]
    rw [hnull, parseJsonSafely, hempty] at h
    rw [normal_eq_empty_iff.mp h.symm] at hdump
    cases hdump
    exact hlong (by decide)
  · intro hle
    rw [columnText_bindNullable_iff.mpr ⟨hfree, hle⟩, ← columnText_dump hdump]
    exact parseJsonSafely_dump hdump hobject hreads

/-- What is read from the row is the event that was saved, unless a string was cut off or lost. -/
theorem loadedAs_readEventRow_iff {metadataJson : Text} (hobject : event.metadata.isObject = true)
    (hreads : host.ReadsBack event.metadata) (hempty : host.parseJson [] = none)
    (hdump : event.metadata.dump = .ok metadataJson) (i : Rowid) (now : Text) :
    LoadedAs event (readEventRow host
      (i, { event.values metadataJson with createdAt := now })) ↔ event.FitsColumns := by
  have hmetadata := parseJsonSafely_bindNullable_iff hdump hobject hreads hempty
  have hfits : event.FitsColumns ↔
      (∀ s ∈ event.strings, 0 ∉ s ∧ s.length ≤ maxTextLength) ∧
        metadataJson.length ≤ maxTextLength := by
    constructor
    · intro h
      refine ⟨fun s hs => ⟨h.nulFree s hs, h.strings s hs⟩, h.metadata metadataJson ?_⟩
      rw [hdump]
      rfl
    · rintro ⟨hstrings, hlength⟩
      refine ⟨fun s hs => (hstrings s hs).1, fun s hs => (hstrings s hs).2, fun text htext => ?_⟩
      rw [hdump] at htext
      cases htext
      exact hlength
  simp only [hfits, MemoryEvent.strings, List.forall_mem_cons, List.not_mem_nil,
    false_implies, implies_true, and_true, ← columnText_bindNullable_iff, ← hmetadata]
  constructor
  · intro h
    exact ⟨⟨h.agentId, h.sessionId, h.role, h.content, h.payloadRef, h.toolCallId, h.toolName⟩,
      h.metadata⟩
  · rintro ⟨⟨hagent, hsession, hrole, hcontent, hpayload, hcall, htool⟩, hmetadata⟩
    exact ⟨hagent, hsession, rfl, hrole, hcontent, hpayload, hcall, htool, hmetadata, rfl⟩

end Save

/-! ## What a load returns -/

section Load

variable {host : Host} {agentId sessionId : Text} {c : Connection}

theorem loadRecentEvents_events (h : host.Accepts c.clock) (limit : Int32) :
    (loadRecentEvents host agentId sessionId limit c).1.events =
      ((c.current.events.rows.filter fun r =>
        r.2.inScope agentId sessionId).rtake
          (effectiveLimit limit 20)).map (readEventRow host) := by
  have haccepted : (host.outcome c.clock).accepted = true := h
  simp [loadRecentEvents, select, haccepted, lastRows_eq_rtake]

theorem loadEventsAfterCursor_of_accepts (h : host.Accepts c.clock) (cursor : Text)
    (excluded : List Text) :
    (loadEventsAfterCursor host agentId sessionId cursor excluded c).1.events =
      (c.current.events.rows.filter
        (EventRow.afterCursor agentId sessionId (cursorToInt cursor) excluded)).map
          (readEventRow host) := by
  have haccepted : (host.outcome c.clock).accepted = true := h
  simp [loadEventsAfterCursor, select, haccepted]

theorem mem_loadRecentEvents {limit : Int32} {loaded : MemoryEvent}
    (h : loaded ∈ (loadRecentEvents host agentId sessionId limit c).1.events) :
    ∃ row ∈ c.current.events.rows, row.2.inScope agentId sessionId = true ∧
      readEventRow host row = loaded := by
  by_cases haccepts : host.Accepts c.clock
  · rw [loadRecentEvents_events haccepts, List.mem_map] at h
    obtain ⟨row, hrow, hread⟩ := h
    have hfiltered := List.mem_filter.mp (List.mem_of_mem_drop hrow)
    exact ⟨row, hfiltered.1, hfiltered.2, hread⟩
  · simp only [Host.Accepts, Bool.not_eq_true] at haccepts
    simp [loadRecentEvents, select, haccepts] at h

theorem mem_loadEventsAfterCursor {cursor : Text} {excluded : List Text} {loaded : MemoryEvent}
    (h : loaded ∈ (loadEventsAfterCursor host agentId sessionId cursor excluded c).1.events) :
    ∃ row ∈ c.current.events.rows,
      EventRow.afterCursor agentId sessionId (cursorToInt cursor) excluded row = true ∧
        readEventRow host row = loaded := by
  by_cases haccepts : host.Accepts c.clock
  · rw [loadEventsAfterCursor_of_accepts haccepts, List.mem_map] at h
    obtain ⟨row, hrow, hread⟩ := h
    exact ⟨row, (List.mem_filter.mp hrow).1, (List.mem_filter.mp hrow).2, hread⟩
  · simp only [Host.Accepts, Bool.not_eq_true] at haccepts
    simp [loadEventsAfterCursor, select, haccepts] at h

/-- Only events of the agent are returned, and only those of the session when one is bound. -/
theorem ReturnedFor.scope {row : Rowid × EventRow} (hrow : row ∈ c.current.events.rows)
    (h : ReturnedFor host agentId sessionId row c) :
    row.2.agentId.is (bindText agentId) = true ∧
      (bindText sessionId = bindText [] ∨ row.2.sessionId.is (bindText sessionId) = true) := by
  rcases h with ⟨limit, h⟩ | ⟨cursor, excluded, h⟩
  · obtain ⟨row', hrow', hscope, hread⟩ := mem_loadRecentEvents h
    rw [eq_of_readEventRow_eq hrow hrow' hread] at hscope
    simpa [EventRow.inScope] using hscope
  · obtain ⟨row', hrow', hafter, hread⟩ := mem_loadEventsAfterCursor h
    rw [eq_of_readEventRow_eq hrow hrow' hread] at hafter
    simp only [EventRow.afterCursor, Bool.and_eq_true] at hafter
    refine ⟨hafter.1.2, ?_⟩
    cases sessionId with
    | nil => exact .inl rfl
    | cons b rest => exact .inr (by simpa using hafter.2)

/-- The last row is returned for every scope that it is in. -/
theorem returnedFor_last {row : Rowid × EventRow} (haccepts : host.Accepts c.clock)
    (hlast : c.current.events.rows.getLast? = some row)
    (hscope : row.2.inScope agentId sessionId = true) :
    ReturnedFor host agentId sessionId row c := by
  refine .inl ⟨1, ?_⟩
  rw [loadRecentEvents_events haccepts]
  refine List.mem_map_of_mem (List.mem_of_getLast? ?_)
  rw [getLast?_rtake (by decide), getLast?_filter, hlast]
  intro last hlast'
  cases hlast.symm.trans hlast'
  exact hscope

end Load

/-! ## A saved event and its scope -/

section Saved

variable {host : Host} {event : MemoryEvent} {c c' : Connection}

/-- The saved event is in the last row, which both loads of its scope end with. -/
theorem SavedAndRead.stored (h : SavedAndRead host event c c') :
    ∃ row, c'.current.events.rows.getLast? = some row ∧ event.IsStoredIn row.2 ∧
      lastRowid c.current.events.rows 0 < row.1.val ∧
      (LoadedAs event (readEventRow host row) ↔ event.FitsColumns) := by
  obtain ⟨metadataJson, i, now, hdump, hlater, hpositive, hrows⟩ :=
    saveEvent_stores h.saved h.isObject
  have hlt : lastRowid c.current.events.rows 0 < i.val := by
    rcases List.eq_nil_or_concat c.current.events.rows with hnil | ⟨front, last, hconcat⟩
    · rw [hnil, lastRowid_nil]
      exact_mod_cast hpositive
    · rw [List.concat_eq_append] at hconcat
      rw [hconcat, lastRowid_concat]
      exact_mod_cast hlater last (by simp [hconcat])
  exact ⟨(i, { event.values metadataJson with createdAt := now }), by simp [hrows],
    ⟨metadataJson, rfl⟩, hlt,
    loadedAs_readEventRow_iff h.isObject h.readsBack h.rejectsEmpty hdump i now⟩

/-- The scope of a returned row is within SQLite's limit. -/
theorem length_le_of_inScope {agentId sessionId : Text} {row : EventRow}
    (h : row.inScope agentId sessionId = true) :
    (cStr agentId).length ≤ maxTextLength ∧ (cStr sessionId).length ≤ maxTextLength := by
  simp only [EventRow.inScope, Bool.and_eq_true, Bool.or_eq_true, beq_iff_eq] at h
  refine ⟨NullableText.length_le_of_is h.1, ?_⟩
  rcases h.2 with hnone | hsession
  · have hnil : cStr sessionId = [] := congrArg SqlText.bytes hnone
    rw [hnil]
    exact Nat.zero_le _
  · exact NullableText.length_le_of_is hsession

/-- A row is in the scope of its event when the names of the scope could be bound. -/
theorem MemoryEvent.IsStoredIn.columns {row : EventRow} (h : event.IsStoredIn row)
    (hagent : (cStr event.agentId).length ≤ maxTextLength)
    (hsession : (cStr event.sessionId).length ≤ maxTextLength) :
    row.agentId.is (bindText event.agentId) = true ∧
      row.sessionId.is (bindText event.sessionId) = true := by
  obtain ⟨metadataJson, hvalues⟩ := h
  have hrow : row.agentId = bindNullable event.agentId := congrArg EventValues.agentId hvalues
  have hrow' : row.sessionId = bindNullable event.sessionId :=
    congrArg EventValues.sessionId hvalues
  rw [hrow, hrow']
  exact ⟨NullableText.bindNullable_is hagent, NullableText.bindNullable_is hsession⟩

theorem MemoryEvent.FitsColumns.length_le (h : event.FitsColumns) :
    (cStr event.agentId).length ≤ maxTextLength ∧ (cStr event.sessionId).length ≤ maxTextLength := by
  have hfree := h.nulFree
  have hlengths := h.strings
  simp only [MemoryEvent.NulFree, MemoryEvent.strings, List.forall_mem_cons] at hfree hlengths
  rw [cStr_eq_self hfree.1, cStr_eq_self hfree.2.1]
  exact ⟨hlengths.1, hlengths.2.1⟩

theorem loadsBack_iff (h : SavedAndRead host event c c') :
    LoadsBack host event c c' ↔ event.FitsColumns := by
  obtain ⟨row, hlast, hstored, hlater, hread⟩ := h.stored
  have hrecent (hagent : (cStr event.agentId).length ≤ maxTextLength)
      (hsession : (cStr event.sessionId).length ≤ maxTextLength) :
      ∀ limit : Int32, 0 < limit.toInt →
        (loadRecentEvents host event.agentId event.sessionId limit c').1.events.getLast? =
          some (readEventRow host row) := by
    intro limit hlimit
    obtain ⟨hagent, hsession⟩ := hstored.columns hagent hsession
    have hpositive : 0 < effectiveLimit limit 20 := by
      rw [effectiveLimit, if_pos hlimit]
      omega
    rw [loadRecentEvents_events h.accepted, List.getLast?_map, getLast?_rtake hpositive,
      getLast?_filter, hlast, Option.map_some]
    intro last hlast'
    cases hlast.symm.trans hlast'
    simp [EventRow.inScope, hagent, hsession]
  have hafter (hfits : event.FitsColumns) :
      ∀ cursor, (cursorToInt cursor).toInt ≤ lastRowid c.current.events.rows 0 →
        (loadEventsAfterCursor host event.agentId event.sessionId cursor [] c').1.events.getLast? =
          some (readEventRow host row) := by
    intro cursor hcursor
    obtain ⟨hagent, hsession⟩ := hstored.columns hfits.length_le.1 hfits.length_le.2
    rw [loadEventsAfterCursor_of_accepts h.accepted, List.getLast?_map, getLast?_filter, hlast,
      Option.map_some]
    intro last hlast'
    cases hlast.symm.trans hlast'
    have hlt : (cursorToInt cursor).toInt < row.1.val := by omega
    simp [EventRow.afterCursor, hagent, hsession, hlt, NullableText.notIn]
  constructor
  · intro hback
    obtain ⟨loaded, hloaded, hsame⟩ := hback.recent 1 (by decide)
    obtain ⟨other, -, hscope, -⟩ := mem_loadRecentEvents (List.mem_of_getLast? hloaded)
    obtain ⟨hagent, hsession⟩ := length_le_of_inScope hscope
    rw [hrecent hagent hsession 1 (by decide)] at hloaded
    cases hloaded
    exact hread.mp hsame
  · intro hfits
    have hlengths := hfits.length_le
    exact ⟨fun limit hlimit => ⟨_, hrecent hlengths.1 hlengths.2 limit hlimit, hread.mpr hfits⟩,
      fun cursor hcursor => ⟨_, hafter hfits cursor hcursor, hread.mpr hfits⟩⟩

/-- An event of the agent is returned for the scope that spans all sessions. -/
theorem returned_without_session (h : SavedAndRead host event c c') (hfits : event.FitsColumns)
    {other : MemoryEvent} (hagent : event.agentId = other.agentId) (hsession : other.sessionId = []) :
    ¬KeptFrom host event other := by
  obtain ⟨row, hlast, hstored, -, -⟩ := h.stored
  intro hkept
  refine hkept c' row (List.mem_of_getLast? hlast) hstored (returnedFor_last h.accepted hlast ?_)
  have hrow := (hstored.columns hfits.length_le.1 hfits.length_le.2).1
  simp [EventRow.inScope, ← hagent, hrow, hsession]

/-- Names without NUL bytes keep two scopes apart. -/
theorem keptFrom_of_nulFree {other : MemoryEvent} (hevent : event.NulFree) (hother : other.NulFree)
    (hpair : (event.agentId, event.sessionId) ≠ (other.agentId, other.sessionId))
    (hsession : event.agentId = other.agentId → other.sessionId ≠ []) :
    KeptFrom host event other := by
  rintro c row hrow ⟨metadataJson, hvalues⟩ hreturned
  obtain ⟨hagent, hscope⟩ := hreturned.scope hrow
  have hagent' : row.2.agentId = bindNullable event.agentId :=
    congrArg EventValues.agentId hvalues
  have hsession' : row.2.sessionId = bindNullable event.sessionId :=
    congrArg EventValues.sessionId hvalues
  simp only [MemoryEvent.NulFree, MemoryEvent.strings, List.forall_mem_cons] at hevent hother
  rw [hagent'] at hagent
  have hsame : event.agentId = other.agentId :=
    (bindText_injOn hevent.1 hother.1).mp (NullableText.eq_of_bindNullable_is hagent).symm
  rcases hscope with hnone | hsome
  · exact hsession hsame ((bindText_injOn hother.2.1 (by simp)).mp hnone)
  · rw [hsession'] at hsome
    have hsessions : event.sessionId = other.sessionId :=
      (bindText_injOn hevent.2.1 hother.2.1).mp (NullableText.eq_of_bindNullable_is hsome).symm
    exact hpair (Prod.ext hsame hsessions)

end Saved

/-- Two saved events come back identical, and are kept out of each other's scope when their scopes
are different, exactly if none of their strings holds a NUL byte or is above SQLite's limit, nor
their dumped metadata, and neither scope spans all sessions of the other's agent. -/
theorem saveEvent_lossless_iff (host : Host) (e₁ e₂ : MemoryEvent) (c₁ c₁' c₂ c₂' : Connection)
    (h₁ : SavedAndRead host e₁ c₁ c₁') (h₂ : SavedAndRead host e₂ c₂ c₂') :
    (LoadsBack host e₁ c₁ c₁' ∧ LoadsBack host e₂ c₂ c₂' ∧
      ((e₁.agentId, e₁.sessionId) ≠ (e₂.agentId, e₂.sessionId) →
        KeptFrom host e₁ e₂ ∧ KeptFrom host e₂ e₁)) ↔
      e₁.FitsColumns ∧ e₂.FitsColumns ∧ (e₁.agentId = e₂.agentId → e₁.sessionId ≠ e₂.sessionId →
        e₁.sessionId ≠ [] ∧ e₂.sessionId ≠ []) := by
  rw [loadsBack_iff h₁, loadsBack_iff h₂]
  refine and_congr_right fun hfits₁ => and_congr_right fun hfits₂ => ?_
  constructor
  · intro hkept hagent hsession
    obtain ⟨hkept₁, hkept₂⟩ := hkept (by simp [hsession])
    exact ⟨fun hnil => returned_without_session h₂ hfits₂ hagent.symm hnil hkept₂,
      fun hnil => returned_without_session h₁ hfits₁ hagent hnil hkept₁⟩
  · intro hsessions hpair
    have hne : e₁.agentId = e₂.agentId → e₁.sessionId ≠ e₂.sessionId := by
      intro hagent hsession
      exact hpair (Prod.ext hagent hsession)
    refine ⟨keptFrom_of_nulFree hfits₁.nulFree hfits₂.nulFree hpair fun hagent => ?_,
      keptFrom_of_nulFree hfits₂.nulFree hfits₁.nulFree hpair.symm fun hagent => ?_⟩
    · exact (hsessions hagent (hne hagent)).2
    · exact (hsessions hagent.symm (hne hagent.symm)).1

/-! ## Two sessions, and an agent id that is cut off -/

/-- A host that reads every text but the empty one as the empty object. -/
def objectHost : Host where
  outcome _ := {}
  parseJson text := if text.isEmpty then none else some (.object [])

def savedInto (event : MemoryEvent) (c : Connection) : Connection :=
  ((saveEvent event).runOn objectHost c).2

theorem savedAndRead_into {event : MemoryEvent} {c : Connection}
    (hmetadata : event.metadata = .object [])
    (hsaved : ((saveEvent event).runOn objectHost c).1 = .ok memorySuccess) :
    SavedAndRead objectHost event c (savedInto event c) where
  isObject := by rw [hmetadata]; rfl
  readsBack := by
    intro text htext
    rw [hmetadata] at htext ⊢
    cases htext
    rfl
  rejectsEmpty := rfl
  saved := Prod.ext hsaved rfl
  accepted := rfl

def aliceAtHome : MemoryEvent where
  agentId := ascii "alice"
  sessionId := ascii "home"
  content := ascii "hello"

def aliceAtWork : MemoryEvent where
  agentId := ascii "alice"
  sessionId := ascii "work"
  content := ascii "hi"

theorem saveEvent_lossless_two_sessions :
    let c : Connection := { current := .empty }
    let c₁ := savedInto aliceAtHome c
    let c₂ := savedInto aliceAtWork c₁
    LoadsBack objectHost aliceAtHome c c₁ ∧ LoadsBack objectHost aliceAtWork c₁ c₂ ∧
      ((aliceAtHome.agentId, aliceAtHome.sessionId) ≠
        (aliceAtWork.agentId, aliceAtWork.sessionId) →
          KeptFrom objectHost aliceAtHome aliceAtWork ∧
            KeptFrom objectHost aliceAtWork aliceAtHome) :=
  (saveEvent_lossless_iff objectHost aliceAtHome aliceAtWork _ _ _ _
    (savedAndRead_into rfl rfl) (savedAndRead_into rfl rfl)).mpr
      ⟨by decide, by decide, by decide⟩

def aliceNul : MemoryEvent where
  agentId := ascii "alice" ++ [0] ++ ascii "x"
  sessionId := ascii "home"
  content := ascii "hello"

/-- The agent id comes back without its end, and another agent reads the event. -/
theorem saveEvent_not_lossless_nul :
    let c : Connection := { current := .empty }
    let c' := savedInto aliceNul c
    SavedAndRead objectHost aliceNul c c' ∧ ¬LoadsBack objectHost aliceNul c c' ∧
      (aliceNul.agentId, aliceNul.sessionId) ≠ (aliceAtHome.agentId, aliceAtHome.sessionId) ∧
      ¬KeptFrom objectHost aliceNul aliceAtHome := by
  intro c c'
  have hsaved : SavedAndRead objectHost aliceNul c c' := savedAndRead_into rfl rfl
  refine ⟨hsaved, ?_, by decide, ?_⟩
  · rw [loadsBack_iff hsaved]
    decide
  · obtain ⟨row, hlast, hstored, -, -⟩ := hsaved.stored
    intro hkept
    refine hkept c' row (List.mem_of_getLast? hlast) hstored
      (returnedFor_last hsaved.accepted hlast ?_)
    obtain ⟨metadataJson, hvalues⟩ := hstored
    have hagent : row.2.agentId = bindNullable aliceNul.agentId :=
      congrArg EventValues.agentId hvalues
    have hsession : row.2.sessionId = bindNullable aliceNul.sessionId :=
      congrArg EventValues.sessionId hvalues
    rw [EventRow.inScope, hagent, hsession]
    decide

end AgentMemory
