import AgentMemory.Verification.Consolidation.Exchange
import AgentMemory.Verification.Runtime.Calls

/-! # A failing model leaves the rules

When the model gives nothing, a consolidation ends as one without a model does. What can keep it
from ending at all is an exception: of a request that cannot be serialised, or of an answer of an
unexpected shape. -/

namespace AgentMemory

open Json Foundation

/-! ## What the write phase serialises -/

def TransactionOp.Serialises (op : TransactionOp) : Prop :=
  ∃ ws, op.statements = .ok ws

def MemoryEntity.Serialises (entity : MemoryEntity) : Prop :=
  (∀ ref ∈ entity.sourceRefs, ValidUtf8 ref) ∧ entity.storedMetadata.Serialises

def MemoryRelation.Serialises (relation : MemoryRelation) : Prop :=
  (∀ ref ∈ relation.sourceRefs, ValidUtf8 ref) ∧ relation.storedMetadata.Serialises

structure LongTermMemoryUpdate.Serialises (update : LongTermMemoryUpdate) : Prop where
  entities : ∀ entity ∈ update.entities, entity.Serialises
  relations : ∀ relation ∈ update.relations, relation.Serialises

theorem serializeSourceRefs_ok_iff (refs : List Text) :
    (∃ text, serializeSourceRefs refs = .ok text) ↔ ∀ ref ∈ refs, ValidUtf8 ref :=
  serialises_ofStrings refs

theorem saveSummary_serialises_iff {agentId sessionId level topic summary : Text} {confidence : ℚ}
    {sourceRefs : List Text} :
    (TransactionOp.saveSummary agentId sessionId level topic summary confidence
      sourceRefs).Serialises ↔ ∀ ref ∈ sourceRefs, ValidUtf8 ref := by
  rw [← serializeSourceRefs_ok_iff]
  exact except_map_ok_iff

theorem MemoryEntity.Serialises.operation {entity : MemoryEntity} (h : entity.Serialises) :
    (TransactionOp.saveEntity entity).Serialises := by
  obtain ⟨refsStr, hrefs⟩ := (serializeSourceRefs_ok_iff _).mpr h.1
  obtain ⟨metadataStr, hmetadata⟩ := h.2
  exact ⟨_, by rw [TransactionOp.statements, hrefs, hmetadata]; rfl⟩

theorem MemoryRelation.Serialises.operation {relation : MemoryRelation} (h : relation.Serialises) :
    (TransactionOp.saveRelation relation).Serialises := by
  obtain ⟨refsStr, hrefs⟩ := (serializeSourceRefs_ok_iff _).mpr h.1
  obtain ⟨metadataStr, hmetadata⟩ := h.2
  exact ⟨_, by rw [TransactionOp.statements, hrefs, hmetadata]; rfl⟩

theorem operations_serialise {update : LongTermMemoryUpdate} (hupdate : update.Serialises)
    {sourceRefs : List Text} (hrefs : ∀ ref ∈ sourceRefs, ValidUtf8 ref)
    (agentId sessionId : Text) :
    ∀ op ∈ update.operations agentId sessionId sourceRefs, op.Serialises := by
  intro op hop
  simp only [LongTermMemoryUpdate.operations, List.mem_append, List.mem_map,
    List.mem_flatMap] at hop
  rcases hop with ((⟨summary, -, rfl⟩ | ⟨summary, -, rfl⟩) | ⟨entity, hentity, hop⟩) |
    ⟨relation, hrelation, rfl⟩
  · exact saveSummary_serialises_iff.mpr hrefs
  · exact saveSummary_serialises_iff.mpr hrefs
  · rcases List.mem_cons.mp hop with rfl | hop
    · exact MemoryEntity.Serialises.operation (hupdate.entities entity hentity)
    · split at hop
      · cases hop
      · rw [List.mem_singleton.mp hop]
        exact ⟨_, rfl⟩
  · exact MemoryRelation.Serialises.operation (hupdate.relations relation hrelation)

/-- If no operation throws when it is serialised, none is reached. -/
theorem not_reachesUnserialisable {ops : List TransactionOp} (h : ∀ op ∈ ops, op.Serialises)
    (host : Host) (c : Connection) : ¬ReachesUnserialisable host ops c := by
  rintro ⟨before, op, after, e, rfl, hop, -⟩
  obtain ⟨ws, hws⟩ := h op (by simp)
  rw [hws] at hop
  cases hop

/-! ## Updates of a model -/

section Parsing

variable {json : Json} (h : json.Serialises)

include h

theorem validUtf8_stringOr (key : String) {fallback : Text} (hfallback : ValidUtf8 fallback) :
    ValidUtf8 (json.stringOr key fallback) := by
  unfold Json.stringOr
  split
  · next s hs => exact (serialises_string s).mp (h.member hs)
  · exact hfallback

theorem serialises_elements {key : Text} {elements : List Json}
    (hmember : json.member? key = some (.array elements)) : ∀ x ∈ elements, x.Serialises :=
  (serialises_array elements).mp (h.member hmember)

theorem validUtf8_strings (key : String) : ∀ s ∈ json.strings key, ValidUtf8 s := by
  unfold Json.strings
  split
  · next elements hmember =>
    intro s hs
    obtain ⟨x, hx, hstring⟩ := List.mem_filterMap.mp hs
    split at hstring
    · cases hstring
      exact (serialises_string s).mp (serialises_elements h hmember _ hx)
    · cases hstring
  · simp

theorem serialises_objects (key : String) : ∀ item ∈ json.objects key, item.Serialises := by
  unfold Json.objects
  split
  · next elements hmember =>
    intro item hitem
    exact serialises_elements h hmember item (List.mem_filter.mp hitem).1
  · simp

theorem validUtf8_sourceRefsOr {sourceRefs : List Text}
    (hrefs : ∀ ref ∈ sourceRefs, ValidUtf8 ref) :
    ∀ ref ∈ json.sourceRefsOr sourceRefs, ValidUtf8 ref := by
  unfold Json.sourceRefsOr
  dsimp only
  split
  · exact hrefs
  · exact validUtf8_strings h _

end Parsing

/-- Without metadata of its own, a relation stores at most the entity it conflicts with. -/
theorem serialises_storedMetadata {relation : MemoryRelation}
    (hmetadata : relation.metadata = .object []) (hto : ValidUtf8 relation.toEntityId) :
    relation.storedMetadata.Serialises := by
  have hempty : (Json.object []).Serialises := ⟨_, rfl⟩
  have htrue : (Json.boolean true).Serialises := ⟨_, rfl⟩
  have hconflict := hempty.set (show ValidUtf8 (ascii "conflict") by decide) htrue
  have hwith := hconflict.set (show ValidUtf8 (ascii "conflictsWithEntityId") by decide)
    ((serialises_string _).mpr hto)
  unfold MemoryRelation.storedMetadata
  rw [hmetadata]
  dsimp only
  split
  · exact hwith
  · exact hempty

section Updates

variable {sourceRefs : List Text} (hrefs : ∀ ref ∈ sourceRefs, ValidUtf8 ref)

include hrefs

theorem serialises_parseResponse {host : Host} (hparse : host.ParsesUtf8) (jsonStr agentId : Text) :
    (parseResponse host jsonStr sourceRefs agentId).Serialises := by
  have hempty : (Json.object []).Serialises := ⟨_, rfl⟩
  unfold parseResponse
  split
  · next members hparsed =>
    have hjson := hparse jsonStr _ hparsed
    constructor
    · intro entity hentity
      obtain ⟨⟨item, i⟩, hitem, rfl⟩ := List.mem_map.mp hentity
      have hitem := serialises_objects hjson "entities" item
        (List.mem_of_getElem? (List.mk_mem_zipIdx_iff_getElem?.mp hitem))
      exact ⟨validUtf8_sourceRefsOr hitem hrefs, hempty⟩
    · intro relation hrelation
      obtain ⟨item, hitem, rfl⟩ := List.mem_map.mp hrelation
      have hitem := serialises_objects hjson "relations" item hitem
      exact ⟨validUtf8_sourceRefsOr hitem hrefs,
        serialises_storedMetadata rfl (validUtf8_stringOr hitem _ rfl)⟩
  · exact ⟨by simp, by simp⟩

/-! ## Updates of the rules -/

theorem serialises_ruleTopic (event : MemoryEvent) {state : RuleState}
    (h : state.update.Serialises) : (ruleTopic sourceRefs event state).update.Serialises := by
  unfold ruleTopic
  dsimp only
  split
  · refine ⟨fun entity hentity => ?_, h.relations⟩
    rcases List.mem_append.mp hentity with hentity | hentity
    · exact h.entities entity hentity
    · split at hentity
      · cases hentity
      · rw [List.mem_singleton.mp hentity]
        exact ⟨hrefs, ⟨_, rfl⟩⟩
  · exact h

theorem serialises_rulePreference (event : MemoryEvent) {state : RuleState}
    (h : state.update.Serialises) : (rulePreference sourceRefs event state).update.Serialises := by
  unfold rulePreference
  split
  · constructor
    · intro entity hentity
      rcases List.mem_append.mp hentity with hentity | hentity
      · exact h.entities entity hentity
      · rw [List.mem_singleton.mp hentity]
        exact ⟨hrefs, ⟨_, rfl⟩⟩
    · intro relation hrelation
      rcases List.mem_append.mp hrelation with hrelation | hrelation
      · exact h.relations relation hrelation
      · rw [List.mem_singleton.mp hrelation]
        exact ⟨hrefs, serialises_storedMetadata rfl (show ValidUtf8 (ascii _) by decide)⟩
  · exact h

end Updates

/-- The rules extract only what can be written, from a batch with valid references. -/
theorem serialises_ruleBasedProcess {batch : LongTermMemoryBatch}
    (hrefs : ∀ ref ∈ batch.sourceRefs, ValidUtf8 ref) : (ruleBasedProcess batch).Serialises := by
  unfold ruleBasedProcess
  refine List.foldlRecOn (motive := fun state : RuleState => state.update.Serialises)
    batch.events _ ⟨by simp, by simp⟩ fun state hstate event _ => ?_
  split
  · exact serialises_rulePreference hrefs event (serialises_ruleTopic hrefs event hstate)
  · exact hstate

/-! ## The write phase -/

section Persist

variable {host : Host} {request : MemoryConsolidationRequest}
  {buildResult : ConsolidationBatchBuildResult} {update : LongTermMemoryUpdate}
  {fallbackUsed : Bool}

theorem persist_ok_iff (c : Connection) :
    (∃ result, ((persist request buildResult update fallbackUsed).runOn host c).1 = .ok result) ↔
      ¬((begin host c).1 = .ok () ∧
        ReachesUnserialisable host (persistOperations request buildResult update) (begun c)) := by
  rcases persist_cases host request buildResult update fallbackUsed c with
    ⟨-, hthrows, result, clock, -, hrun⟩ | ⟨-, hthrows, ws, c', -, -, -, hrun⟩ |
    ⟨-, hthrows, before, op, after, e, ws, -, -, -, -, -, -, hreply⟩
  · rw [hrun]
    exact iff_of_true ⟨result, rfl⟩ hthrows
  · rw [hrun]
    exact iff_of_true ⟨_, rfl⟩ hthrows
  · rw [hreply]
    refine iff_of_false ?_ (not_not_intro hthrows)
    rintro ⟨result, h⟩
    cases h

/-- With events in the batch, the result says whether the fallback was used. -/
theorem persist_fallbackUsed (hbatch : buildResult.batch.events ≠ []) {c : Connection}
    {result : MemoryConsolidationResult}
    (h : ((persist request buildResult update fallbackUsed).runOn host c).1 = .ok result) :
    result.fallbackUsed = fallbackUsed := by
  have hempty : buildResult.batch.events.isEmpty = false := by simpa using hbatch
  simp only [persist, hempty, Bool.false_eq_true, if_false] at h
  rw [persistUpdate_eq, runOn_map] at h
  generalize (SqlM.runOn host (runInTransaction _ _) c).1 = outcome at h
  cases outcome with
  | error e => cases h
  | ok x =>
    cases h
    unfold reportUpdate
    split
    · rfl
    · rfl

/-- Of a batch with events that refers to its session, the session id decides. -/
theorem reachesUnserialisable_iff (hrefers : buildResult.batch.RefersTo request.sessionId)
    (hbatch : buildResult.batch.events ≠ [])
    (hsession : buildResult.sessionSourceRefs = [ascii "session://" ++ request.sessionId])
    (hupdate : ValidUtf8 request.sessionId → update.Serialises) (c : Connection) :
    ReachesUnserialisable host (persistOperations request buildResult update) c ↔
      ¬ValidUtf8 request.sessionId := by
  have hempty : buildResult.batch.events.isEmpty = false := by simpa using hbatch
  have hscheme : ValidUtf8 (ascii "session://") := by decide
  have hsummary : (sessionOperation request buildResult).Serialises ↔
      ValidUtf8 request.sessionId := by
    unfold sessionOperation
    rw [saveSummary_serialises_iff, hsession, List.forall_mem_singleton, hscheme.append_iff]
  unfold persistOperations consolidationOperations
  rw [hempty]
  constructor
  · intro hreached hvalid
    refine not_reachesUnserialisable (fun op hop => ?_) host c hreached
    have hrefs : ∀ ref ∈ buildResult.batch.sourceRefs, ValidUtf8 ref := by
      intro ref href
      obtain ⟨cursor, hcursor, rfl⟩ := hrefers.refs ref href
      exact (validUtf8_sourceRef_iff hcursor).mpr hvalid
    simp only [Bool.false_eq_true, if_false, List.singleton_append, List.mem_cons,
      List.mem_append] at hop
    rcases hop with rfl | hop | hop
    · exact hsummary.mpr hvalid
    · exact operations_serialise (hupdate hvalid) hrefs _ _ op hop
    · unfold cursorOperations at hop
      split at hop
      · cases hop
      · rw [List.mem_singleton.mp hop]
        exact ⟨_, rfl⟩
  · intro hinvalid
    cases hstatements : (sessionOperation request buildResult).statements with
    | ok ws => exact absurd (hsummary.mp ⟨ws, hstatements⟩) hinvalid
    | error e => exact ⟨[], _, _, e, rfl, hstatements, rfl⟩

end Persist

/-! ## The call -/

section Call

variable {host : Host} {services : RuntimeServices} {request : MemoryConsolidationRequest}
  {c c' : Connection} {events : List MemoryEvent}

theorem consolidateWithModel_of_loaded
    (hload : loadForConsolidation host services request c = (.ok events, c'))
    (model : Option MemoryModelClient) :
    consolidateWithModel host services request model c =
      match extract host (some services.longTermProcessor) model (build request events) with
      | .ok (update, fallbackUsed) =>
          (persist request (build request events) update fallbackUsed).runOn host c'
      | .error e => (.error e, c') := by
  unfold consolidateWithModel
  rw [hload]
  change SqlM.runOn host (Program.ofExcept _ >>= _) c' = _
  cases extract host (some services.longTermProcessor) model (build request events) with
  | ok extracted => rfl
  | error e => rfl

/-- Loaded events carry the rowid they are stored under. -/
theorem validUtf8_storeCursor
    (hload : loadForConsolidation host services request c = (.ok events, c')) :
    ∀ event ∈ events, ValidUtf8 event.storeCursor := by
  obtain ⟨clock, ⟨error, h⟩ | h⟩ := loadForConsolidation_cases host services request c
  · rw [hload] at h
    cases h
  · rw [hload] at h
    cases h
    intro event hevent
    obtain ⟨row, -, rfl⟩ := List.mem_map.mp hevent
    exact validUtf8_decimal row.1.val

/-- The model's update if it gave one and else that of the fallback, and whether it was used. -/
def orFallback (fallback : LongTermMemoryProcessor) (batch : LongTermMemoryBatch)
    (update : LongTermMemoryUpdate) : LongTermMemoryUpdate × Bool :=
  if update.isNonempty then (update, false) else (fallback batch, true)

theorem extract_eq {fallback : LongTermMemoryProcessor} {model : MemoryModelClient}
    {buildResult : ConsolidationBatchBuildResult} (hbatch : buildResult.batch.events ≠ []) :
    extract host (some fallback) (some model) buildResult =
      (llmProcess host model buildResult.batch).map (orFallback fallback buildResult.batch) := by
  have hempty : buildResult.batch.events.isEmpty = false := by simpa using hbatch
  unfold extract extractUpdate
  rw [hempty]
  dsimp only
  cases llmProcess host model buildResult.batch with
  | ok update => rfl
  | error e => rfl

/-- Whatever is extracted from a batch with valid references can be written. -/
theorem serialises_extracted (hparse : host.ParsesUtf8) {model : MemoryModelClient}
    {batch : LongTermMemoryBatch} (hrefs : ∀ ref ∈ batch.sourceRefs, ValidUtf8 ref)
    {update : LongTermMemoryUpdate} (h : llmProcess host model batch = .ok update) :
    (orFallback ruleBasedProcess batch update).1.Serialises := by
  obtain ⟨invokeResult, -, h⟩ := except_bind_eq_ok h
  unfold orFallback
  split
  · split at h
    · cases h
      exact serialises_parseResponse hrefs hparse _ _
    · cases h
      exact ⟨by simp, by simp⟩
  · exact serialises_ruleBasedProcess hrefs

/-- The call returns just when the model does, and the session id is valid if it comes to that. -/
theorem consolidateWithModel_returns_iff (hparse : host.ParsesUtf8)
    (hrules : services.longTermProcessor = ruleBasedProcess)
    (hload : loadForConsolidation host services request c = (.ok events, c'))
    (hbatch : (build request events).batch.events ≠ []) (model : MemoryModelClient) :
    (∃ result, (consolidateWithModel host services request (some model) c).1 = .ok result) ↔
      (∃ update, llmProcess host model (build request events).batch = .ok update) ∧
        ((begin host c').1 = .ok () → ValidUtf8 request.sessionId) := by
  obtain ⟨hrefers, hsession⟩ := build_refersTo request (validUtf8_storeCursor hload)
  rw [consolidateWithModel_of_loaded hload, extract_eq hbatch, hrules]
  cases hllm : llmProcess host model (build request events).batch with
  | error e =>
    refine iff_of_false ?_ ?_
    · rintro ⟨result, h⟩
      cases h
    · rintro ⟨⟨update, h⟩, -⟩
      cases h
  | ok update =>
    have hupdate : ValidUtf8 request.sessionId →
        (orFallback ruleBasedProcess (build request events).batch update).1.Serialises := by
      intro hvalid
      refine serialises_extracted hparse (fun ref href => ?_) hllm
      obtain ⟨cursor, hcursor, rfl⟩ := hrefers.refs ref href
      exact (validUtf8_sourceRef_iff hcursor).mpr hvalid
    simp only [Except.map]
    generalize orFallback ruleBasedProcess (build request events).batch update = extracted
      at hupdate ⊢
    rw [persist_ok_iff, reachesUnserialisable_iff hrefers hbatch (hsession hbatch) hupdate]
    simp

/-- Without events in the batch, and without events at all, the call returns. -/
theorem consolidateWithModel_returns_of_empty {model : Option MemoryModelClient}
    (h : ∀ events c', loadForConsolidation host services request c = (.ok events, c') →
      (build request events).batch.events = []) :
    ∃ result, (consolidateWithModel host services request model c).1 = .ok result := by
  cases hload : loadForConsolidation host services request c with
  | mk outcome c' =>
    cases outcome with
    | error error => exact ⟨_, by rw [consolidateWithModel, hload]⟩
    | ok events =>
      have hbatch := h events c' hload
      have hextract : extract host (some services.longTermProcessor) model (build request events) =
          .ok ({}, false) := by
        unfold extract
        rw [hbatch]
        rfl
      rw [consolidateWithModel_of_loaded hload, hextract]
      refine (persist_ok_iff c').mpr fun hthrows => ?_
      exact ((reachesUnserialisable_persist_iff _ _ _ _ _).mp hthrows.2).1 hbatch

/-- When the model gives nothing, the call ends as one without a model. -/
theorem consolidateWithModel_of_no_update
    (hload : loadForConsolidation host services request c = (.ok events, c'))
    (hbatch : (build request events).batch.events ≠ []) {model : MemoryModelClient}
    {update : LongTermMemoryUpdate}
    (hllm : llmProcess host model (build request events).batch = .ok update)
    (hnone : update.isNonempty = false) :
    consolidateWithModel host services request (some model) c =
        consolidateWithModel host services request none c ∧
      ∀ result, (consolidateWithModel host services request (some model) c).1 = .ok result →
        result.fallbackUsed = true := by
  have hempty : (build request events).batch.events.isEmpty = false := by simpa using hbatch
  have hmodel : extract host (some services.longTermProcessor) (some model)
      (build request events) =
        .ok (services.longTermProcessor (build request events).batch, true) := by
    rw [extract_eq hbatch, hllm]
    simp [Except.map, orFallback, hnone]
  have hrules : extract host (some services.longTermProcessor) none (build request events) =
      .ok (services.longTermProcessor (build request events).batch, true) := by
    unfold extract
    rw [hempty]
    rfl
  rw [consolidateWithModel_of_loaded hload, consolidateWithModel_of_loaded hload, hmodel, hrules]
  exact ⟨rfl, fun result hresult => persist_fallbackUsed hbatch hresult⟩

end Call

/-! ## Degradation -/

/-- The call returns; and if the model gave nothing, the fallback was used and the store is as after
a call without a model. -/
structure DegradesToRules (host : Host) (services : RuntimeServices)
    (request : MemoryConsolidationRequest) (model : MemoryModelClient) (c : Connection) : Prop where
  returns : ∃ result, (consolidateWithModel host services request (some model) c).1 = .ok result
  fallback : ∀ events c', loadForConsolidation host services request c = (.ok events, c') →
    (build request events).batch.events ≠ [] →
    ∀ update, llmProcess host model (build request events).batch = .ok update →
      update.isNonempty = false →
      (∀ result, (consolidateWithModel host services request (some model) c).1 = .ok result →
        result.fallbackUsed = true) ∧
      (consolidateWithModel host services request (some model) c).2 =
        (consolidateWithModel host services request none c).2

/-- The client can send the prompt for a batch, and read the response to it. -/
structure ModelClient.Exchanges (host : Host) (printFloat : ℚ → FloatText)
    (transport : JsonPostTransport) (client : ModelClient) (sessionId : Text)
    (batch : LongTermMemoryBatch) : Prop where
  configuration : (client.requestBody printFloat []).Serialises
  session : ValidUtf8 sessionId
  events : ∀ event ∈ batch.events, ValidUtf8 event.role ∧ ValidUtf8 event.content
  response : ∀ body, (client.requestBody printFloat (buildPrompt batch)).dump = .ok body →
    client.Reads host (transport (client.postRequest body))

section Degradation

variable {host : Host} {printFloat : ℚ → FloatText} {transport : JsonPostTransport}
  {client : ModelClient}

theorem llmProcess_client_ok_iff {batch : LongTermMemoryBatch} {sessionId : Text}
    (hrefers : batch.RefersTo sessionId) (hbatch : batch.events ≠ []) :
    (∃ update, llmProcess host (client.generateMemoryUpdate host printFloat transport) batch =
        .ok update) ↔
      (client.Configured → client.Exchanges host printFloat transport sessionId batch) := by
  rw [llmProcess_ok_iff, generateMemoryUpdate_ok_iff, serialises_requestBody_iff,
    validUtf8_buildPrompt_iff hrefers hbatch]
  refine imp_congr_right fun _ => ⟨?_, ?_⟩
  · rintro ⟨⟨hconfiguration, hsession, hevents⟩, hresponse⟩
    exact ⟨hconfiguration, hsession, hevents, hresponse⟩
  · rintro ⟨hconfiguration, hsession, hevents, hresponse⟩
    exact ⟨⟨hconfiguration, hsession, hevents⟩, hresponse⟩

end Degradation

/-- A consolidation with a built-in client degrades to the rules exactly when, if its batch has
events, the session id is valid UTF-8 once the transaction begins, and a configured client can send
the prompt and read the response. -/
theorem consolidateWithModel_degrades_iff (host : Host) (hparse : host.ParsesUtf8)
    (services : RuntimeServices) (hrules : services.longTermProcessor = ruleBasedProcess)
    (printFloat : ℚ → FloatText) (transport : JsonPostTransport) (client : ModelClient)
    (request : MemoryConsolidationRequest) (c : Connection) :
    DegradesToRules host services request (client.generateMemoryUpdate host printFloat transport)
        c ↔
      ∀ events c', loadForConsolidation host services request c = (.ok events, c') →
        (build request events).batch.events ≠ [] →
        ((begin host c').1 = .ok () → ValidUtf8 request.sessionId) ∧
          (client.Configured → client.Exchanges host printFloat transport request.sessionId
            (build request events).batch) := by
  have hexact : ∀ {events c'}, loadForConsolidation host services request c = (.ok events, c') →
      (build request events).batch.events ≠ [] →
      ((∃ result, (consolidateWithModel host services request
          (some (client.generateMemoryUpdate host printFloat transport)) c).1 = .ok result) ↔
        ((begin host c').1 = .ok () → ValidUtf8 request.sessionId) ∧
          (client.Configured → client.Exchanges host printFloat transport request.sessionId
            (build request events).batch)) := by
    intro events c' hload hbatch
    obtain ⟨hrefers, -⟩ := build_refersTo request (validUtf8_storeCursor hload)
    rw [consolidateWithModel_returns_iff hparse hrules hload hbatch,
      llmProcess_client_ok_iff hrefers hbatch]
    exact and_comm
  constructor
  · intro h events c' hload hbatch
    exact (hexact hload hbatch).mp h.returns
  · intro h
    refine ⟨?_, ?_⟩
    · by_cases hsome : ∃ events c', loadForConsolidation host services request c =
          (.ok events, c') ∧ (build request events).batch.events ≠ []
      · obtain ⟨events, c', hload, hbatch⟩ := hsome
        exact (hexact hload hbatch).mpr (h events c' hload hbatch)
      · refine consolidateWithModel_returns_of_empty fun events c' hload => ?_
        by_contra hbatch
        exact hsome ⟨events, c', hload, hbatch⟩
    · intro events c' hload hbatch update hllm hnone
      obtain ⟨hsame, hused⟩ := consolidateWithModel_of_no_update hload hbatch hllm hnone
      exact ⟨hused, congrArg Prod.snd hsame⟩

/-- A store with one message, and a client that is asked about it. -/
def oneMessage : Connection :=
  ((saveEvent {
    agentId := ascii "alice"
    sessionId := ascii "s"
    role := ascii "user"
    content := ascii "hello" }).runOn .obliging { current := .empty }).2

def oneMessageClient : ModelClient :=
  .openai { baseUrl := ascii "http://model", modelName := ascii "m" }

/-- The message is loaded, and it is the batch. -/
theorem load_oneMessage (document : Text) (json : Json) :
    ∃ event c', loadForConsolidation (.parsing document json) { store := true }
        (sessionRequest (ascii "s")) oneMessage = (.ok [event], c') ∧
      (build (sessionRequest (ascii "s")) [event]).batch.events = [event] ∧
      event.role = ascii "user" ∧ event.content = ascii "hello" :=
  ⟨readEventRow _ (oneMessage.current.events.rows.head (by decide)), _, rfl, rfl, rfl, rfl⟩

theorem serialises_oneMessageClient : (oneMessageClient.requestBody printZero []).Serialises :=
  ⟨_, rfl⟩

/-- A request that fails on the server's side degrades to the rules. -/
theorem consolidateWithModel_degrades_failed_request :
    DegradesToRules (.parsing [0x7B, 0x7D] (.object [])) { store := true }
      (sessionRequest (ascii "s"))
      (oneMessageClient.generateMemoryUpdate (.parsing [0x7B, 0x7D] (.object [])) printZero
        fun _ => { status := 500 }) oneMessage := by
  refine (consolidateWithModel_degrades_iff _ (parsesUtf8_parsing ⟨_, rfl⟩) _ rfl _ _ _ _ _).mpr ?_
  intro events c' hload _
  obtain ⟨event, c₁, hload₁, hevents, hrole, hcontent⟩ := load_oneMessage [0x7B, 0x7D] (.object [])
  rw [hload₁] at hload
  cases hload
  refine ⟨fun _ => by decide, fun _ => ?_⟩
  refine ⟨serialises_oneMessageClient, by decide, ?_, ?_⟩
  · rw [hevents, List.forall_mem_singleton, hrole, hcontent]
    decide
  · intro body _ _ hsucceeded
    exact absurd hsucceeded (by decide)

/-- An answer whose content is a list of parts, as some providers give it. -/
def answerInParts : Json :=
  .object [(ascii "choices", .array [.object [(ascii "message",
    .object [(ascii "content", .array [.string (ascii "x")])])]])]

def answerInPartsText : Text :=
  ascii "\x7b\"choices\":[\x7b\"message\":\x7b\"content\":[\"x\"]\x7d\x7d]\x7d"

example : answerInParts.dump = .ok answerInPartsText := by
  decide

/-- A successful request with an answer in parts does not: its exception leaves the call. -/
theorem consolidateWithModel_not_degrades_answer_in_parts :
    ¬DegradesToRules (.parsing answerInPartsText answerInParts) { store := true }
      (sessionRequest (ascii "s"))
      (oneMessageClient.generateMemoryUpdate (.parsing answerInPartsText answerInParts) printZero
        fun _ => { status := 200, body := answerInPartsText }) oneMessage := by
  intro h
  obtain ⟨event, c', hload, hevents, -⟩ := load_oneMessage answerInPartsText answerInParts
  have hbatch : (build (sessionRequest (ascii "s")) [event]).batch.events ≠ [] := by
    rw [hevents]
    exact List.cons_ne_nil _ _
  obtain ⟨hrefers, -⟩ := build_refersTo (sessionRequest (ascii "s")) (validUtf8_storeCursor hload)
  obtain ⟨hllm, -⟩ := (consolidateWithModel_returns_iff (parsesUtf8_parsing ⟨_, rfl⟩) rfl hload
    hbatch _).mp h.returns
  have hexchanges := (llmProcess_client_ok_iff hrefers hbatch).mp hllm ⟨by decide, by decide⟩
  obtain ⟨body, hbody⟩ := (serialises_requestBody_iff printZero oneMessageClient _).mpr
    ⟨hexchanges.configuration, (validUtf8_buildPrompt_iff hrefers hbatch).mpr
      ⟨hexchanges.session, hexchanges.events⟩⟩
  have hshaped : OpenAiShaped answerInParts :=
    hexchanges.response body hbody (by decide) (by decide) _ (parseJson_parsing _ _)
  obtain ⟨s, hs⟩ := hshaped rfl _ _ rfl _ rfl _ rfl
  cases hs

end AgentMemory
