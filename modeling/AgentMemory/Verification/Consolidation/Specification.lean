import AgentMemory.Verification.Consolidation.Builder

/-! # What a batch holds

The batch of a request is given by the list of its eligible events alone. The builder meets this
specification unless a forced request without a limit is cut off by the conversion of the number
of events to `int`. -/

namespace AgentMemory

open Foundation

/-! ## The specification -/

/-- The events that a batch may hold. -/
structure MemoryConsolidationRequest.Eligible (request : MemoryConsolidationRequest)
    (event : MemoryEvent) : Prop where
  isMessage : event.type = .messageAppended
  inSession : request.sessionId ≠ [] → event.sessionId = request.sessionId
  notExcluded : event.sessionId ∉ request.excludedSessionIds

theorem selects_iff {request : MemoryConsolidationRequest} {event : MemoryEvent} :
    request.selects event = true ↔ request.Eligible event := by
  have hsession : (request.sessionId = [] ∨ event.sessionId = request.sessionId) ↔
      (request.sessionId ≠ [] → event.sessionId = request.sessionId) := by
    by_cases h : request.sessionId = []
    · simp [h]
    · simp [h]
  simp only [MemoryConsolidationRequest.selects, Bool.and_eq_true, Bool.or_eq_true,
    List.isEmpty_iff, beq_iff_eq, Bool.not_eq_true', List.contains_eq_mem, decide_eq_false_iff_not,
    hsession]
  constructor
  · rintro ⟨⟨hin, hnot⟩, htype⟩
    exact ⟨htype, hin, hnot⟩
  · rintro ⟨htype, hin, hnot⟩
    exact ⟨⟨hin, hnot⟩, htype⟩

instance (request : MemoryConsolidationRequest) : DecidablePred request.Eligible := fun _ =>
  decidable_of_iff _ selects_iff

def MemoryConsolidationRequest.eligible (request : MemoryConsolidationRequest)
    (events : List MemoryEvent) : List MemoryEvent :=
  events.filter fun event => request.Eligible event

theorem filter_selects (request : MemoryConsolidationRequest) (events : List MemoryEvent) :
    events.filter request.selects = request.eligible events := by
  apply List.filter_congr
  intro event _
  rw [Bool.eq_iff_iff, selects_iff, decide_eq_true_iff]

/-- How many events a batch takes; `none` stands for all of them. -/
def MemoryConsolidationRequest.wanted (request : MemoryConsolidationRequest) : Option ℕ :=
  if 0 < request.maxEvents.toInt then some request.maxEvents.toInt.toNat
  else if request.forceReprocess then none
  else some 0

/-- The eligible event with which the batch is full. -/
def MemoryConsolidationRequest.filling (request : MemoryConsolidationRequest)
    (events : List MemoryEvent) : Option MemoryEvent :=
  request.wanted.bind fun n => (request.eligible events)[n - 1]?

structure BatchSpec (request : MemoryConsolidationRequest) (events : List MemoryEvent)
    (result : ConsolidationBatchBuildResult) : Prop where
  batchEvents : result.batch.events = takeUpTo request.wanted (request.eligible events)
  refsLength : result.batch.sourceRefs.length = result.batch.events.length
  refsName : ∀ i : ℕ, result.batch.sourceRefs[i]? =
    result.batch.events[i]?.map (eventSourceRef request.sessionId)
  refsDistinct : result.batch.sourceRefs.Nodup
  summary : result.sessionSummary = (result.batch.events.map summaryLine).flatten
  nextCursor : request.wanted ≠ some 0 → result.nextCursor =
    match request.filling events with
    | some event => event.storeCursor
    | none => lastCursor events []
  nothing : request.wanted = some 0 → result.batch.events = [] ∧ result.batch.sourceRefs = [] ∧
    result.sessionSummary = [] ∧ result.nextCursor = []
  covered : ∀ front event rest, events = front ++ event :: rest →
    event.storeCursor = result.nextCursor →
      (∀ e ∈ front ++ [event], request.Eligible e → e ∈ result.batch.events) ∧
        ∀ e ∈ rest, e ∉ result.batch.events

/-- A forced request without a limit takes the number of events as an `int` for its limit: it is
not positive, or fewer eligible events come before the last event. -/
def NotTruncated (request : MemoryConsolidationRequest) (events : List MemoryEvent) : Prop :=
  0 < request.maxEvents.toInt ∨ request.forceReprocess = false ∨ toInt32 events.length ≤ 0 ∨
    ((request.eligible events.dropLast).length : ℤ) < toInt32 events.length

/-! ## The builder meets it -/

theorem wanted_eq_zero_iff (request : MemoryConsolidationRequest) :
    request.wanted = some 0 ↔
      request.forceReprocess = false ∧ request.maxEvents.toInt ≤ 0 := by
  unfold MemoryConsolidationRequest.wanted
  by_cases hmax : 0 < request.maxEvents.toInt
  · simp only [if_pos hmax, Option.some.injEq]
    omega
  · rw [if_neg hmax]
    cases request.forceReprocess with
    | false => simpa using hmax
    | true => simp

theorem runs_of_wanted {request : MemoryConsolidationRequest} (h : request.wanted ≠ some 0) :
    request.forceReprocess = true ∨ 0 < request.maxEvents.toInt := by
  rw [Ne, wanted_eq_zero_iff] at h
  cases hforce : request.forceReprocess with
  | true => exact .inl rfl
  | false =>
      have hmax : ¬request.maxEvents.toInt ≤ 0 := fun hle => h ⟨hforce, hle⟩
      exact .inr (by omega)

section Looking

variable {request : MemoryConsolidationRequest} {events : List MemoryEvent}

/-- The loop comes to the end of the list unless the conversion to `int` cuts it off. -/
theorem lookedAt_eq_self_iff (hmax : request.maxEvents.toInt ≤ 0)
    (hforce : request.forceReprocess = true) :
    lookedAt request events = events ↔ NotTruncated request events := by
  have hlimit : request.limit events.length = toInt32 events.length := by
    simp [MemoryConsolidationRequest.limit, hforce, hmax]
  have hbound : NotTruncated request events ↔ toInt32 events.length ≤ 0 ∨
      ((request.eligible events.dropLast).length : ℤ) < toInt32 events.length := by
    simp [NotTruncated, hforce, hmax]
  rw [hbound]
  unfold lookedAt remaining
  rw [hlimit]
  split
  · rw [scan_eq_self_iff, filter_selects]
    omega
  · rw [scan_none]
    simp only [true_iff]
    omega

theorem lookedAt_isPrefix (request : MemoryConsolidationRequest) (events : List MemoryEvent) :
    lookedAt request events <+: events :=
  scan_isPrefix _ _ _

/-- The events looked at end with the one that fills the batch, or with the list. -/
theorem getLast?_lookedAt (hwanted : request.wanted ≠ some 0) (h : NotTruncated request events) :
    (lookedAt request events).getLast? = (request.filling events).or events.getLast? := by
  by_cases hmax : 0 < request.maxEvents.toInt
  · have hlimit : request.limit events.length = request.maxEvents.toInt := by
      simp [MemoryConsolidationRequest.limit, hmax]
    have hremaining : remaining request.maxEvents.toInt 0 =
        some (request.maxEvents.toInt.toNat - 1) := by
      rw [remaining, if_pos hmax]
      congr 1
      omega
    rw [lookedAt, hlimit, hremaining, getLast?_scan, filter_selects]
    simp [MemoryConsolidationRequest.filling, MemoryConsolidationRequest.wanted, hmax]
  · have hforce := (runs_of_wanted hwanted).resolve_right hmax
    rw [(lookedAt_eq_self_iff (by omega) hforce).mpr h]
    simp [MemoryConsolidationRequest.filling, MemoryConsolidationRequest.wanted, hmax, hforce]

/-- The batch is what the request wants of the eligible events. -/
theorem eligible_lookedAt (hwanted : request.wanted ≠ some 0) (h : NotTruncated request events) :
    request.eligible (lookedAt request events) =
      takeUpTo request.wanted (request.eligible events) := by
  by_cases hmax : 0 < request.maxEvents.toInt
  · have hlimit : request.limit events.length = request.maxEvents.toInt := by
      simp [MemoryConsolidationRequest.limit, hmax]
    rw [← filter_selects, filter_lookedAt, hlimit, filter_selects]
    simp [bounded, MemoryConsolidationRequest.wanted, hmax, takeUpTo]
  · have hforce := (runs_of_wanted hwanted).resolve_right hmax
    rw [(lookedAt_eq_self_iff (by omega) hforce).mpr h]
    simp [MemoryConsolidationRequest.wanted, hmax, hforce, takeUpTo]

end Looking

/-- Where a list of distinct keys is split by a key. -/
theorem split_unique {α κ : Type} {key : α → κ} {front front' rest rest' : List α} {x x' : α}
    (hdistinct : ((front ++ x :: rest).map key).Nodup)
    (h : front ++ x :: rest = front' ++ x' :: rest') (hkey : key x = key x') :
    front = front' ∧ x = x' ∧ rest = rest' := by
  induction front generalizing front' with
  | nil =>
      cases front' with
      | nil => simpa using h
      | cons y front' =>
          obtain ⟨rfl, rfl⟩ := List.cons.inj h
          have hmem : key x ∈ (front' ++ x' :: rest').map key := by simp [hkey]
          exact absurd hmem (List.nodup_cons.mp hdistinct).1
  | cons y front ih =>
      cases front' with
      | nil =>
          obtain ⟨rfl, hrest⟩ := List.cons.inj h
          have hmem : key y ∈ (front ++ x :: rest).map key := by simp [hkey]
          exact absurd hmem (List.nodup_cons.mp hdistinct).1
      | cons z front' =>
          obtain ⟨rfl, htail⟩ := List.cons.inj h
          obtain ⟨rfl, hx, hrest⟩ := ih (List.nodup_cons.mp hdistinct).2 htail
          exact ⟨rfl, hx, hrest⟩

section Building

variable {request : MemoryConsolidationRequest} {events : List MemoryEvent}

theorem eligible_sublist (request : MemoryConsolidationRequest) (events : List MemoryEvent) :
    (request.eligible events).Sublist events :=
  List.filter_sublist

/-- The batch holds the eligible events up to the next cursor and no other. -/
theorem covered_lookedAt (hcursors : ∀ event ∈ events, event.storeCursor ≠ [])
    (hdistinct : (events.map (·.storeCursor)).Nodup) {front rest : List MemoryEvent}
    {event : MemoryEvent} (hsplit : events = front ++ event :: rest)
    (hcursor : event.storeCursor = lastCursor (lookedAt request events) []) :
    (∀ e ∈ front ++ [event], request.Eligible e →
        e ∈ request.eligible (lookedAt request events)) ∧
      ∀ e ∈ rest, e ∉ request.eligible (lookedAt request events) := by
  have hlast : lookedAt request events = front ++ [event] := by
    obtain ⟨after, hafter⟩ := lookedAt_isPrefix request events
    rcases List.eq_nil_or_concat (lookedAt request events) with hnil | ⟨looked, last, hlooked⟩
    · rw [hnil] at hcursor
      exact absurd hcursor (hcursors event (by simp [hsplit]))
    · rw [List.concat_eq_append] at hlooked
      rw [hlooked] at hcursor hafter ⊢
      have hevents : front ++ event :: rest = looked ++ last :: after := by
        rw [← hsplit, ← hafter]
        simp
      have hkey : event.storeCursor = last.storeCursor := by
        simpa [lastCursor] using hcursor
      rw [hsplit] at hdistinct
      obtain ⟨rfl, rfl, -⟩ := split_unique hdistinct hevents hkey
      rfl
  rw [hlast]
  constructor
  · intro e he heligible
    exact List.mem_filter.mpr ⟨he, by simpa using heligible⟩
  · intro e he hbatch
    have hfront : e ∈ front ++ [event] := (eligible_sublist _ _).subset hbatch
    rw [hsplit, List.append_cons, List.map_append, List.nodup_append'] at hdistinct
    exact hdistinct.2.2 (List.mem_map_of_mem hfront) (List.mem_map_of_mem he)

theorem build_spec (hcursors : ∀ event ∈ events, event.storeCursor ≠ [])
    (hdistinct : (events.map (·.storeCursor)).Nodup) (h : NotTruncated request events) :
    BatchSpec request events (build request events) := by
  by_cases hwanted : request.wanted = some 0
  · obtain ⟨hforce, hmax⟩ := (wanted_eq_zero_iff request).mp hwanted
    rw [build_of_not_runs hforce hmax]
    refine ⟨by simp [hwanted, takeUpTo], rfl, by simp, List.nodup_nil, rfl, absurd hwanted,
      fun _ => ⟨rfl, rfl, rfl, rfl⟩, ?_⟩
    intro front event rest hsplit hcursor
    exact absurd hcursor (hcursors event (by simp [hsplit]))
  · have hbuild := build_extend request hcursors (runs_of_wanted hwanted)
    rw [hbuild]
    simp only [ConsolidationBatchBuildResult.extend, List.nil_append, filter_selects]
    have hlast := getLast?_lookedAt hwanted h
    refine ⟨eligible_lookedAt hwanted h, by simp, by simp, ?_, rfl, ?_,
      fun hzero => absurd hzero hwanted, ?_⟩
    · have hsublist := ((eligible_sublist request _).trans
        (lookedAt_isPrefix request events).sublist).map (·.storeCursor)
      have hrefs := (hdistinct.sublist hsublist).map
        (List.append_right_injective (ascii "session://" ++ request.sessionId ++ ascii "#event:"))
      rw [List.map_map] at hrefs
      exact hrefs
    · intro _
      rw [lastCursor, hlast]
      cases request.filling events with
      | some event => rfl
      | none => rfl
    · intro front event rest hsplit hcursor
      exact covered_lookedAt hcursors hdistinct hsplit hcursor

/-- The builder meets the specification exactly when no conversion to `int` cuts it off. -/
theorem build_spec_iff (request : MemoryConsolidationRequest) (events : List MemoryEvent)
    (hcursors : ∀ event ∈ events, event.storeCursor ≠ [])
    (hdistinct : (events.map (·.storeCursor)).Nodup) :
    BatchSpec request events (build request events) ↔ NotTruncated request events := by
  constructor
  · intro hspec
    by_contra htruncated
    have hmax : request.maxEvents.toInt ≤ 0 := by
      simp only [NotTruncated, not_or] at htruncated
      omega
    have hforce : request.forceReprocess = true := by
      simp only [NotTruncated, not_or] at htruncated
      simpa using htruncated.2.1
    have hwanted : request.wanted = none := by
      simp [MemoryConsolidationRequest.wanted, hforce, not_lt.mpr hmax]
    have hnext := hspec.nextCursor (by simp [hwanted])
    rw [(build_eq request hcursors (.inl hforce)).2, MemoryConsolidationRequest.filling, hwanted]
      at hnext
    -- the list is looked at up to its last event, as the cursors are distinct
    refine htruncated ((lookedAt_eq_self_iff hmax hforce).mp ?_)
    rcases List.eq_nil_or_concat events with rfl | ⟨front, last, hevents⟩
    · rfl
    · rw [List.concat_eq_append] at hevents
      have hcursor : last.storeCursor = lastCursor (lookedAt request events) [] := by
        rw [hnext, hevents]
        simp [lastCursor]
      obtain ⟨after, hafter⟩ := lookedAt_isPrefix request events
      rcases List.eq_nil_or_concat (lookedAt request events) with hnil | ⟨looked, x, hlooked⟩
      · rw [hnil] at hcursor
        exact absurd hcursor (hcursors last (by simp [hevents]))
      · rw [List.concat_eq_append] at hlooked
        rw [hlooked] at hcursor hafter
        have hsplit : front ++ last :: [] = looked ++ x :: after := by
          rw [← hevents, ← hafter]
          simp
        have hkey : last.storeCursor = x.storeCursor := by
          simpa [lastCursor] using hcursor
        rw [hevents] at hdistinct
        obtain ⟨rfl, rfl, -⟩ := split_unique hdistinct hsplit hkey
        rw [hlooked, hevents]
  · exact build_spec hcursors hdistinct

end Building

/-- Events without a text of their own, with the cursors of a log that starts at one. -/
def numberedEvents (n : ℕ) : List MemoryEvent :=
  (List.range n).map fun i => { storeCursor := decimal (i + 1 : ℕ) }

theorem numberedEvents_cursors (n : ℕ) : ∀ event ∈ numberedEvents n, event.storeCursor ≠ [] := by
  intro event hevent
  obtain ⟨i, -, rfl⟩ := List.mem_map.mp hevent
  exact decimal_ne_nil (i + 1 : ℕ)

theorem numberedEvents_distinct (n : ℕ) : ((numberedEvents n).map (·.storeCursor)).Nodup := by
  unfold numberedEvents
  rw [List.map_map]
  refine List.nodup_range.map fun i j h => ?_
  simp only [Function.comp_apply, decimal_natCast] at h
  exact Nat.succ_injective (decimalNat_injective h)

/-- The events of the excluded sessions are passed over, and the cursor moves past them. -/
theorem build_spec_excluded :
    let request : MemoryConsolidationRequest :=
      { excludedSessionIds := [ascii "__CRON__", ascii "__HEARTBEAT__"] }
    let events : List MemoryEvent :=
      [{ sessionId := ascii "__CRON__", storeCursor := ascii "1" },
        { sessionId := ascii "session-1", storeCursor := ascii "2" },
        { sessionId := ascii "__HEARTBEAT__", storeCursor := ascii "3" }]
    BatchSpec request events (build request events) := by
  intro request events
  exact (build_spec_iff request events (by decide) (by decide)).mpr (.inl (by decide))

/-- Everything is asked for, and `static_cast<int>` of the number of events is one. -/
theorem build_not_spec_truncated :
    let request : MemoryConsolidationRequest := { forceReprocess := true, maxEvents := 0 }
    let events := numberedEvents (2 ^ 32 + 1)
    (∀ event ∈ events, event.storeCursor ≠ []) ∧ (events.map (·.storeCursor)).Nodup ∧
      ¬BatchSpec request events (build request events) := by
  intro request events
  refine ⟨numberedEvents_cursors _, numberedEvents_distinct _, ?_⟩
  rw [build_spec_iff request events (numberedEvents_cursors _) (numberedEvents_distinct _)]
  have hlength : events.length = 2 ^ 32 + 1 := by simp [events, numberedEvents]
  have heligible : request.eligible events.dropLast = events.dropLast := by
    refine List.filter_eq_self.mpr fun event hevent => ?_
    obtain ⟨i, -, rfl⟩ := List.mem_map.mp (List.mem_of_mem_dropLast hevent)
    exact decide_eq_true ⟨rfl, fun h => absurd rfl h, List.not_mem_nil⟩
  have hsize : toInt32 (2 ^ 32 + 1) = 1 := by decide +kernel
  unfold NotTruncated
  rw [heligible, List.length_dropLast, hlength, hsize]
  simp [request]

end AgentMemory
