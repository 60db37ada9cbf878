import AgentMemory.Verification.Service.Consolidations
import AgentMemory.Verification.Service.Stats

/-! # What is loaded has been saved before

A load of events, for a context or for a consolidation, is made from the log as it stands: the rows
of the start with those of the events that have been saved before it. -/

namespace AgentMemory

open Foundation Json Httplib

/-- A load of events that succeeded: what it selects from a log, and what it returned. -/
def loadedFrom? : ServiceOp.signature.Called →
    Option ((List (Rowid × EventRow) → List (Rowid × EventRow)) × List MemoryEvent)
  | ⟨.read (.loadEventsAfterCursor agentId sessionId cursor excludedSessionIds), result⟩ =>
      if MemoryEventsResult.succeeded result then
        some (List.filter (EventRow.afterCursor agentId sessionId (cursorToInt cursor)
          excludedSessionIds), MemoryEventsResult.events result)
      else none
  | ⟨.read (.loadRecentEvents agentId sessionId limit), result⟩ =>
      if MemoryEventsResult.succeeded result then
        some (fun rows => lastRows (effectiveLimit limit 20) (rows.filter fun r =>
          r.2.inScope agentId sessionId), MemoryEventsResult.events result)
      else none
  | _ => none

/-- Each load shows the part of the log that was there after the saves before it. -/
def LoadsSaved (host : Host) (rows : List (Rowid × EventRow))
    (history : List ServiceOp.signature.Called) (w : World) : Prop :=
  ∀ before called after, history = before ++ called :: after →
    ∀ selects events, loadedFrom? called = some (selects, events) →
      ∃ seen, seen <+: w.connection.current.events.rows ∧
        seen.length = rows.length + (savedEvents before).length ∧
        events = (selects seen).map (readEventRow host)

section Loads

variable {server : MemoryHttpRoutes} {host : ServiceHost} {runtime : BuiltinMemoryRuntime}
  {w : World} {service : Service}

theorem events_of_loadRecentEvents {host : Host} {agentId sessionId : Text} {limit : Int32}
    {c : Connection} (h : (loadRecentEvents host agentId sessionId limit c).1.succeeded = true) :
    (loadRecentEvents host agentId sessionId limit c).1.events =
      (lastRows (effectiveLimit limit 20) (c.current.events.rows.filter fun r =>
        r.2.inScope agentId sessionId)).map (readEventRow host) := by
  unfold loadRecentEvents select at h ⊢
  cases haccepted : (host.outcome c.clock).accepted with
  | false => simp [haccepted] at h
  | true => simp [haccepted]

theorem succeeded_of_loaded {result : MemoryEventsResult}
    {selects selects' : List (Rowid × EventRow) → List (Rowid × EventRow)} {events : List MemoryEvent}
    (h : (if result.succeeded then some (selects', result.events) else none) =
      some (selects, events)) :
    result.succeeded = true ∧ selects' = selects ∧ result.events = events := by
  split_ifs at h with hsucceeded
  cases h
  exact ⟨hsucceeded, rfl, rfl⟩

/-- A load is made from the log as it stands. -/
theorem loadedFrom?_perform {op : ServiceOp}
    {selects : List (Rowid × EventRow) → List (Rowid × EventRow)} {events : List MemoryEvent}
    (h : loadedFrom? ⟨op, (runtime.perform host op w).1⟩ = some (selects, events)) :
    events = (selects w.connection.current.events.rows).map (readEventRow host.toHost) := by
  cases op with
  | read call =>
      cases call with
      | loadEventsAfterCursor agentId sessionId cursor excludedSessionIds =>
          have hreply : (runtime.perform host (.read (.loadEventsAfterCursor agentId sessionId cursor
              excludedSessionIds)) w).1 = (loadEventsAfterCursor host.toHost agentId sessionId cursor
                excludedSessionIds w.connection).1 := rfl
          rw [hreply] at h
          obtain ⟨hsucceeded, rfl, rfl⟩ := succeeded_of_loaded h
          exact events_of_loadEventsAfterCursor hsucceeded
      | loadRecentEvents agentId sessionId limit =>
          have hreply : (runtime.perform host (.read (.loadRecentEvents agentId sessionId limit)) w).1 =
              (loadRecentEvents host.toHost agentId sessionId limit w.connection).1 := rfl
          rw [hreply] at h
          obtain ⟨hsucceeded, rfl, rfl⟩ := succeeded_of_loaded h
          exact events_of_loadRecentEvents hsucceeded
      | _ => cases h
  | _ => cases h

/-- The log only grows, at its end. -/
theorem perform_events_prefix (host : ServiceHost) (runtime : BuiltinMemoryRuntime) (op : ServiceOp)
    (w : World) : w.connection.current.events.rows <+:
      (runtime.perform host op w).2.connection.current.events.rows := by
  by_cases hsave : ∃ event, op = .saveEvent event
  · obtain ⟨event, rfl⟩ := hsave
    have hconnection : (runtime.perform host (.saveEvent event) w).2.connection =
        ((saveEvent event).runOn host.toHost w.connection).2 := rfl
    rw [hconnection]
    rcases run_saveEvent_cases host.toHost event w.connection with
      ⟨c', i, row, hrun, -, hgrown⟩ | ⟨reply, c', hrun, -, hkept⟩
    · rw [hrun, hgrown]
      exact List.prefix_append _ _
    · rw [hrun, hkept]
  · rw [perform_events (events_notMem_tables hsave)]

theorem loadsSaved_step {rows : List (Rowid × EventRow)}
    (history : List ServiceOp.signature.Called) (op : ServiceOp) (w : World)
    (hlog : LogMatches rows history w) (h : LoadsSaved host.toHost rows history w) :
    LoadsSaved host.toHost rows (history ++ [⟨op, (runtime.perform host op w).1⟩])
      (runtime.perform host op w).2 := by
  intro before called after hsplit selects events hloaded
  have hprefix := perform_events_prefix host runtime op w
  rcases List.eq_nil_or_concat after with rfl | ⟨rest, last, rfl⟩
  · obtain ⟨rfl, hlast⟩ := List.append_inj' hsplit rfl
    cases (List.cons.inj hlast).1
    obtain ⟨appended, hrows, hvalues⟩ := hlog
    have hlength := congrArg List.length hvalues
    rw [List.length_map, List.length_map] at hlength
    refine ⟨w.connection.current.events.rows, hprefix, ?_, loadedFrom?_perform hloaded⟩
    rw [hrows, List.length_append, savedEvents, hlength]
  · have hsplit' : history ++ [⟨op, (runtime.perform host op w).1⟩] =
        (before ++ called :: rest) ++ [last] := by
      simpa using hsplit
    obtain ⟨seen, hseen, hlength, hevents⟩ :=
      h before called rest (List.append_inj' hsplit' rfl).1 selects events hloaded
    exact ⟨seen, hseen.trans hprefix, hlength, hevents⟩

/-- Whatever requests are handled at the same time: a load of events that succeeds returns what it
selects from the log of the start and the events that have been saved before it, no more and no
less. -/
theorem loads_see_saved (hservice : server.Reaches host runtime w service) :
    LogMatches w.connection.current.events.rows service.history service.state ∧
      LoadsSaved host.toHost w.connection.current.events.rows service.history service.state := by
  refine Pool.history_invariant (P := fun _ => True) (I := fun history w' =>
    LogMatches w.connection.current.events.rows history w' ∧
      LoadsSaved host.toHost w.connection.current.events.rows history w') ?_ ?_ ?_ ?_ hservice
  · rintro history op w' - ⟨hlog, hloads⟩
    exact ⟨logMatches_step history op w' hlog, loadsSaved_step history op w' hlog hloads⟩
  · rintro history w' w'' ⟨entry, rfl⟩ ⟨⟨appended, hrows, hvalues⟩, hloads⟩
    have hconnection := cleanup_connection entry w'
    refine ⟨⟨appended, by rw [hconnection, hrows], hvalues⟩, ?_⟩
    unfold LoadsSaved
    rw [hconnection]
    exact hloads
  · intro program hserved
    exact (disciplined_of_served hserved).all fun _ _ _ => trivial
  · refine ⟨⟨[], (List.append_nil _).symm, rfl⟩, ?_⟩
    intro before called after hsplit
    simp at hsplit

/-- Alice's events are consolidated between two events of hers. -/
theorem loads_see_saved_between :
    let runtime : BuiltinMemoryRuntime := { store := true }
    ∃ service, MemoryHttpRoutes.plain.Reaches .plain runtime .blank service ∧
      service.state.connection.current.events.rows.length = 2 ∧
      LogMatches [] service.history service.state ∧
        LoadsSaved ServiceHost.plain.toHost [] service.history service.state := by
  intro runtime
  obtain ⟨service, hservice, -, hstate⟩ :=
    exists_served .plain .plain runtime [eventRequest, takingRequest, eventRequest] .blank
  refine ⟨service, hservice, ?_, loads_see_saved hservice⟩
  rw [hstate]
  decide +kernel

end Loads

end AgentMemory
