import AgentMemory.Verification.Serialization.Parser
import AgentMemory.Verification.Service.Events

/-! # Posted events are read back

What a client sends goes through the parser, the decoder, the store and the parser again. -/

namespace AgentMemory

open Foundation Json Httplib

/-! ## Parts of a parsed document -/

section Parts

variable {strtod : Text → Option (ℚ × FloatText)}

theorem wellFormed_of_member? {json value : Json} {key : Text} (h : json.WellFormed strtod)
    (hmember : json.member? key = some value) : value.WellFormed strtod := by
  cases h with
  | object members sorted keys each =>
      obtain ⟨m, hm, rfl⟩ := Option.map_eq_some_iff.mp hmember
      exact each m (List.mem_of_find?_eq_some hm)
  | _ => cases hmember

theorem wellFormed_empty : (Json.object []).WellFormed strtod :=
  .object [] .nil (by simp) (by simp)

theorem wellFormed_jsonValue {json value : Json} {key : String} (h : json.WellFormed strtod)
    (hvalue : json.jsonValue key = .ok value) : value.WellFormed strtod := by
  obtain ⟨member?, hmember, hvalue⟩ := except_bind_eq_ok hvalue
  cases hvalue
  unfold valueMember? at hmember
  split at hmember
  · cases hmember
    cases hfound : json.member? (ascii key) with
    | none => exact wellFormed_empty
    | some value => exact wellFormed_of_member? h hfound
  · cases hmember

theorem wellFormed_metadata {json : Json} (h : json.WellFormed strtod) :
    (eventFromJson json).metadata.WellFormed strtod := by
  change (jsonObject (jsonFieldValue json "metadata")).WellFormed strtod
  unfold jsonObject
  split
  · unfold jsonFieldValue
    cases hfound : json.member? (ascii "metadata") with
    | none => exact .null
    | some value => exact wellFormed_of_member? h hfound
  · exact wellFormed_empty

/-- The arguments of a parsed message are a value of the library, too. -/
theorem decoded_of_requestedOperation? {req : Json} (hreq : req.WellFormed strtod) {op : RuntimeOp}
    (h : requestedOperation? req = some op) :
    ∃ tool : Tool, ∃ args, args.WellFormed strtod ∧ tool.operation? args = some op := by
  unfold requestedOperation? calledOperation? at h
  cases hmethod : req.stringValue "method" with
  | error e => simp [hmethod] at h
  | ok method =>
      simp only [hmethod] at h
      split at h
      · cases hparams : req.jsonValue "params" with
        | error e => simp [hparams] at h
        | ok params =>
            cases hname : params.stringValue "name" with
            | error e => simp [hparams, hname] at h
            | ok name =>
                cases hargs : params.jsonValue "arguments" with
                | error e => simp [hparams, hname, hargs] at h
                | ok args =>
                    simp only [hparams, hname, hargs] at h
                    obtain ⟨tool, -, hop⟩ := Option.bind_eq_some_iff.mp h
                    exact ⟨tool, args,
                      wellFormed_jsonValue (wellFormed_jsonValue hreq hparams) hargs, hop⟩
      · cases h

variable (strtod) in
/-- The event was decoded from a value of the library. -/
def MemoryEvent.Decoded (event : MemoryEvent) : Prop :=
  ∃ json : Json, json.WellFormed strtod ∧ event = eventFromJson json

/-- An event that reaches the runtime was decoded from a parsed document. -/
theorem decoded_of_operation? (hstrtod : PrintsReadably strtod) {server : MemoryHttpRoutes}
    (hparser : server.host.parseJson = parse strtod) {req : RoutedRequest} {event : MemoryEvent}
    (h : server.operation? req = some (.appendEvent event)) : event.Decoded strtod := by
  suffices htool : ∃ tool : Tool, ∃ args, args.WellFormed strtod ∧
      tool.operation? args = some (.appendEvent event) by
    obtain ⟨tool, args, hargs, hop⟩ := htool
    refine ⟨args, hargs, ?_⟩
    cases tool with
    | appendEvent =>
        cases hop
        rfl
    | readPayload =>
        obtain ⟨uri, -, hop⟩ := Option.map_eq_some_iff.mp hop
        cases hop
    | _ => cases hop
  have hparsed {body : Text} {json : Json} (hjson : server.host.parseJson body = some json) :
      json.WellFormed strtod := by
    rw [hparser] at hjson
    exact wellFormed_of_parse hstrtod hjson
  obtain ⟨-, -, h⟩ := MemoryHttpRoutes.operation?_eq_some h
  unfold MemoryHttpRoutes.routedOperation? at h
  split at h
  · cases h
  · next body hbody =>
      split_ifs at h with hget hpost
      · unfold MemoryHttpRoutes.getOperation? at h
        split at h
        · split at h <;> cases h
        · split at h <;> cases h
      · unfold MemoryHttpRoutes.postOperation? at h
        split_ifs at h with hmcp hlong hsize
        · obtain ⟨json, hjson, h⟩ := Option.bind_eq_some_iff.mp h
          obtain ⟨id, -, h⟩ := Option.bind_eq_some_iff.mp h
          exact decoded_of_requestedOperation? (hparsed hjson) h
        · obtain ⟨route, -, h⟩ := Option.bind_eq_some_iff.mp h
          obtain ⟨json, hjson, h⟩ := Option.bind_eq_some_iff.mp h
          exact ⟨route.tool, json, hparsed hjson, h⟩

end Parts

/-! ## Runs of the service -/

section Runs

variable {strtod : Text → Option (ℚ × FloatText)} {server : MemoryHttpRoutes} {host : ServiceHost}
  {runtime : BuiltinMemoryRuntime} {w : World} {service : Service}

variable (strtod) in
/-- Only decoded events are saved. -/
def ServiceOp.SavesDecoded (op : ServiceOp) : Prop :=
  ∀ event, op = .saveEvent event → event.Decoded strtod

theorem all_serve (hstrtod : PrintsReadably strtod) (hparser : server.host.parseJson = parse strtod)
    (req : RoutedRequest) : (server.serve host runtime req).All
      (LockOp.Satisfies (S := ServiceOp.signature) (ServiceOp.SavesDecoded strtod)) := by
  refine Program.All.interpret (all_processRequest
    (P := fun op => ∀ event, op = .appendEvent event → event.Decoded strtod) ?_) fun op hop => ?_
  · rintro - op hop event rfl
    exact decoded_of_operation? hstrtod hparser hop
  · refine (runtime.balanced_body host op).all ?_
    rintro called locks ⟨-, hcalls⟩ event rfl
    cases op with
    | appendEvent event' =>
        cases hcalls
        exact hop _ rfl
    | _ => cases hcalls

theorem op_of_acceptedEvent? {called : ServiceOp.signature.Called} {event : MemoryEvent}
    (h : acceptedEvent? called = some event) : called.1 = .saveEvent event := by
  unfold acceptedEvent? at h
  split at h
  · split_ifs at h with hsucceeded
    cases h
    rfl
  · cases h

theorem stored?_of_decoded {event : MemoryEvent} (h : event.Decoded strtod) :
    ∃ metadataJson, event.metadata.dump = .ok metadataJson ∧
      event.stored? = some (event.values metadataJson) := by
  obtain ⟨json, hjson, rfl⟩ := h
  have hobject : (eventFromJson json).metadata.isObject = true := isObject_jsonObject _
  obtain ⟨metadataJson, hdump⟩ := (wellFormed_metadata hjson).serialises
  refine ⟨metadataJson, hdump, ?_⟩
  rw [MemoryEvent.stored?, if_pos hobject, hdump]
  rfl

/-- The row of a decoded event is read back as the event, unless a text was cut off or lost. -/
theorem loadedAs_of_stored? (hhost : host.parseJson = parse strtod) {event : MemoryEvent}
    (h : event.Decoded strtod) {row : Rowid × EventRow}
    (hrow : some row.2.toEventValues = event.stored?) :
    LoadedAs event (readEventRow host.toHost row) ↔ event.FitsColumns := by
  obtain ⟨metadataJson, hdump, hstored⟩ := stored?_of_decoded h
  obtain ⟨json, hjson, rfl⟩ := h
  have hreads : host.toHost.ReadsBack (eventFromJson json).metadata := by
    intro text htext
    rw [hhost]
    exact parse_of_dump (wellFormed_metadata hjson) htext
  obtain ⟨i, values, createdAt⟩ := row
  cases Option.some.inj (hrow.trans hstored)
  exact loadedAs_readEventRow_iff (isObject_jsonObject _) hreads (by rw [hhost]; rfl) hdump i
    createdAt

/-- Whatever requests are handled at the same time, with the library's parser in the server and in
the store: each event that is saved is in the log once, and is loaded from there as it was posted,
apart from its timestamp, unless one of its strings holds a NUL byte or, like the metadata, is above
SQLite's limit. -/
theorem saved_events_read_back (hstrtod : PrintsReadably strtod)
    (hparser : server.host.parseJson = parse strtod) (hhost : host.parseJson = parse strtod)
    (hservice : server.Reaches host runtime w service) :
    ∃ events appended,
      events.Perm (service.threads.flatMap fun thread => savedEvents thread.log) ∧
      service.state.connection.current.events.rows =
        w.connection.current.events.rows ++ appended ∧
      List.Forall₂ (fun event row =>
        LoadedAs event (readEventRow host.toHost row) ↔ event.FitsColumns) events appended := by
  have hinvariant := Pool.history_invariant (P := ServiceOp.SavesDecoded strtod)
    (I := fun history w' => LogMatches w.connection.current.events.rows history w' ∧
      ∀ event ∈ savedEvents history, event.Decoded strtod) ?_ ?_ ?_ ?_ hservice
  · obtain ⟨⟨appended, hrows, hvalues⟩, hdecoded⟩ := hinvariant
    refine ⟨savedEvents service.history, appended, ?_, hrows, ?_⟩
    · have hperm := (Pool.history_perm hservice).filterMap acceptedEvent?
      rw [List.filterMap_flatMap] at hperm
      exact hperm
    · have hpairs : List.Forall₂ (fun event row => some row.2.toEventValues = event.stored?)
          (savedEvents service.history) appended := by
        have hequal := List.forall₂_eq_eq_eq.symm ▸ hvalues
        rw [List.forall₂_map_left_iff, List.forall₂_map_right_iff] at hequal
        exact hequal.flip
      exact ((List.forall₂_and_left _ _).mpr ⟨hdecoded, hpairs⟩).imp fun event row h =>
        loadedAs_of_stored? hhost h.1 h.2
  · rintro history op w' hop ⟨hlog, hdecoded⟩
    refine ⟨logMatches_step history op w' hlog, fun event hevent => ?_⟩
    obtain ⟨called, hcalled, haccepted⟩ := List.mem_filterMap.mp hevent
    rcases List.mem_append.mp hcalled with hbefore | hlast
    · exact hdecoded event (List.mem_filterMap.mpr ⟨called, hbefore, haccepted⟩)
    · cases List.mem_singleton.mp hlast
      exact hop event (op_of_acceptedEvent? haccepted)
  · rintro history w' w'' ⟨entry, rfl⟩ ⟨⟨appended, hrows, hvalues⟩, hdecoded⟩
    rw [← cleanup_connection entry w'] at hrows
    exact ⟨⟨appended, hrows, hvalues⟩, hdecoded⟩
  · rintro program ⟨req, rfl⟩
    exact all_serve hstrtod hparser req
  · exact ⟨⟨[], (List.append_nil _).symm, rfl⟩, by simp [savedEvents]⟩

/-- One event is posted twice. -/
theorem saved_events_read_back_twice :
    let runtime : BuiltinMemoryRuntime := { store := true }
    ∃ service, MemoryHttpRoutes.plain.Reaches .plain runtime .blank service ∧
      service.state.connection.current.events.rows.length = 2 ∧
      ∃ events appended,
        events.Perm (service.threads.flatMap fun thread => savedEvents thread.log) ∧
        service.state.connection.current.events.rows = [] ++ appended ∧
        List.Forall₂ (fun event row =>
          LoadedAs event (readEventRow ServiceHost.plain.toHost row) ↔ event.FitsColumns)
            events appended := by
  intro runtime
  obtain ⟨service, hservice, -, hstate⟩ :=
    exists_served .plain .plain runtime [eventRequest, eventRequest] .blank
  refine ⟨service, hservice, ?_,
    saved_events_read_back readsHalf_printsReadably rfl rfl hservice⟩
  rw [hstate]
  decide +kernel

end Runs

end AgentMemory
