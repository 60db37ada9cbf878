import AgentMemory.Verification.Entities.Uniqueness
import AgentMemory.Verification.Runtime.Calls

/-! # Ids made up for the items of a response

An entity item without a string id gets its position in the response as id, while the key of the
entity table spans all responses of all calls. -/

namespace AgentMemory

open Foundation

/-! ## The items of a response -/

/-- The id of an item without a string id, at position `n` of its response. -/
def generatedId (n : ℕ) : Text :=
  ascii "entity:llm." ++ decimal n

/-- The item at position `n` is there and has no string id. -/
def Unnamed (items : List Json) (n : ℕ) : Prop :=
  ∃ item, items[n]? = some item ∧ ∀ s, item.member? (ascii "id") ≠ some (.string s)

/-- What is stored of the string id of some item is the id of an unnamed item at position `n`. -/
def Names (items : List Json) (n : ℕ) : Prop :=
  ∃ item ∈ items, ∃ s, item.member? (ascii "id") = some (.string s) ∧ cStr s = generatedId n

/-- The entity items of a model's answer. -/
def responseItems (host : Host) (jsonStr : Text) : List Json :=
  match host.parseJson jsonStr with
  | some (.object members) => (Json.object members).objects "entities"
  | _ => []

/-- The entity items that a call gets from its model; none when it does not ask it. -/
def returnedItems (host : Host) (request : MemoryConsolidationRequest) (events : List MemoryEvent)
    (model : Option MemoryModelClient) : List Json :=
  let batch := (build request events).batch
  match model with
  | some model =>
      if batch.events.isEmpty then []
      else
        match model (buildPrompt batch) with
        | .ok result => if result.ok then responseItems host (unwrap result.text) else []
        | .error _ => []
  | none => []

theorem zero_notMem_generatedId (n : ℕ) : 0 ∉ generatedId n := by
  have hdigit : isDigit 0 = false := by decide
  rw [generatedId, decimal_natCast, List.mem_append, not_or]
  refine ⟨by decide, fun hzero => ?_⟩
  rw [decimalNat_digits n 0 hzero] at hdigit
  cases hdigit

theorem generatedId_injective : Function.Injective generatedId := by
  intro m n h
  rw [generatedId, generatedId, decimal_natCast, decimal_natCast, List.append_cancel_left_eq] at h
  exact decimalNat_injective h

theorem bindText_eq_generatedId_iff {s : Text} {n : ℕ} :
    bindText s = bindText (generatedId n) ↔ cStr s = generatedId n := by
  simp [bindText, cStr_eq_self (zero_notMem_generatedId n)]

theorem parseResponse_entities (host : Host) (jsonStr : Text) (sourceRefs : List Text)
    (agentId : Text) :
    (parseResponse host jsonStr sourceRefs agentId).entities =
      (responseItems host jsonStr).zipIdx.map (parseEntity sourceRefs agentId) := by
  unfold parseResponse responseItems
  rcases host.parseJson jsonStr with _ | json
  · rfl
  · cases json <;> rfl

section Items

variable {sourceRefs : List Text} {agentId : Text} {items : List Json} {n : ℕ}

theorem parseEntity_id_of_unnamed {item : Json}
    (h : ∀ s, item.member? (ascii "id") ≠ some (.string s)) :
    (parseEntity sourceRefs agentId (item, n)).id = generatedId n := by
  unfold parseEntity Json.stringOr
  dsimp only
  split
  · next s hs => exact absurd hs (h s)
  · rfl

theorem parseEntity_id_of_named {item : Json} {s : Text}
    (h : item.member? (ascii "id") = some (.string s)) :
    (parseEntity sourceRefs agentId (item, n)).id = s := by
  simp only [parseEntity, Json.stringOr, h]

theorem unnamed_or_named (item : Json) :
    (∀ s, item.member? (ascii "id") ≠ some (.string s)) ∨
      ∃ s, item.member? (ascii "id") = some (.string s) := by
  by_cases h : ∃ s, item.member? (ascii "id") = some (.string s)
  · exact .inr h
  · exact .inl fun s hs => h ⟨s, hs⟩

/-- An entity of a response has the id of position `n` as the unnamed item there, or by name. -/
theorem issues_of_mem {item : Json × ℕ} (hitem : item ∈ items.zipIdx)
    (h : bindText (parseEntity sourceRefs agentId item).id = bindText (generatedId n)) :
    (item.2 = n ∧ Unnamed items n) ∨ Names items n := by
  obtain ⟨item, m⟩ := item
  have hget := List.mk_mem_zipIdx_iff_getElem?.mp hitem
  rcases unnamed_or_named item with hnone | ⟨s, hs⟩
  · rw [parseEntity_id_of_unnamed hnone, bindText_eq_generatedId_iff,
      cStr_eq_self (zero_notMem_generatedId m)] at h
    cases generatedId_injective h
    exact .inl ⟨rfl, item, hget, hnone⟩
  · rw [parseEntity_id_of_named hs, bindText_eq_generatedId_iff] at h
    exact .inr ⟨item, List.mem_of_getElem? hget, s, hs, h⟩

end Items

/-! ## The entities of an update -/

/-- The stems of the ids that the rules use. -/
def ruleStems : List Text :=
  [ascii "entity:topic.", ascii "entity:preference."]

theorem cStr_append {s : Text} (hs : 0 ∉ s) (t : Text) : cStr (s ++ t) = s ++ cStr t := by
  refine List.takeWhile_append_of_pos fun b hb => ?_
  simpa using fun h0 : b = 0 => hs (h0 ▸ hb)

theorem cStr_ne_generatedId {stem : Text} (hstem : stem ∈ ruleStems) (rest : Text) (n : ℕ) :
    cStr (stem ++ rest) ≠ generatedId n := by
  have hstems : ∀ stem ∈ ruleStems, 0 ∉ stem ∧ 8 ≤ stem.length ∧ stem.take 8 ≠ ascii "entity:l" := by
    decide
  obtain ⟨hzero, hlength, hne⟩ := hstems stem hstem
  intro h
  -- the ids differ in their eighth byte
  have htake := congrArg (List.take 8) h
  rw [cStr_append hzero, List.take_append_of_le_length hlength, generatedId,
    List.take_append_of_le_length (by decide)] at htake
  exact hne htake

/-- The id of the entity begins with a stem of the rules. -/
def MemoryEntity.IsRuleBased (entity : MemoryEntity) : Prop :=
  ∃ stem ∈ ruleStems, ∃ rest, entity.id = stem ++ rest

/-- The rules make items of three forms only. -/
theorem ruleBasedProcess_items {P : MemoryEntity → Prop} {R : MemoryRelation → Prop}
    (htopic : ∀ event topic topicSummary sourceRefs,
      P (topicEntity event topic topicSummary sourceRefs))
    (hpreference : ∀ event sourceRefs, P (preferenceEntity event sourceRefs))
    (hrelation : ∀ event sourceRefs, R (preferenceRelation event sourceRefs))
    (batch : LongTermMemoryBatch) :
    (∀ entity ∈ (ruleBasedProcess batch).entities, P entity) ∧
      ∀ relation ∈ (ruleBasedProcess batch).relations, R relation := by
  have hruleTopic : ∀ (event : MemoryEvent) (state : RuleState),
      ((∀ entity ∈ state.update.entities, P entity) ∧
        ∀ relation ∈ state.update.relations, R relation) →
      (∀ entity ∈ (ruleTopic batch.sourceRefs event state).update.entities, P entity) ∧
        ∀ relation ∈ (ruleTopic batch.sourceRefs event state).update.relations, R relation := by
    intro event state h
    unfold ruleTopic
    dsimp only
    split
    · refine ⟨fun entity hentity => ?_, h.2⟩
      rcases List.mem_append.mp hentity with hentity | hentity
      · exact h.1 entity hentity
      · split at hentity
        · cases hentity
        · rw [List.mem_singleton.mp hentity]
          exact htopic _ _ _ _
    · exact h
  have hrulePreference : ∀ (event : MemoryEvent) (state : RuleState),
      ((∀ entity ∈ state.update.entities, P entity) ∧
        ∀ relation ∈ state.update.relations, R relation) →
      (∀ entity ∈ (rulePreference batch.sourceRefs event state).update.entities, P entity) ∧
        ∀ relation ∈ (rulePreference batch.sourceRefs event state).update.relations,
          R relation := by
    intro event state h
    unfold rulePreference
    split
    · refine ⟨fun entity hentity => ?_, fun relation hmem => ?_⟩
      · rcases List.mem_append.mp hentity with hentity | hentity
        · exact h.1 entity hentity
        · rw [List.mem_singleton.mp hentity]
          exact hpreference _ _
      · rcases List.mem_append.mp hmem with hmem | hmem
        · exact h.2 relation hmem
        · rw [List.mem_singleton.mp hmem]
          exact hrelation _ _
    · exact h
  unfold ruleBasedProcess
  refine List.foldlRecOn (motive := fun state : RuleState =>
      (∀ entity ∈ state.update.entities, P entity) ∧
        ∀ relation ∈ state.update.relations, R relation)
    batch.events _ (by simp) fun state hstate event _ => ?_
  split
  · exact hrulePreference event _ (hruleTopic event state hstate)
  · exact hstate

/-- The ids of the rules are not made up for a position. -/
theorem ruleBasedProcess_id (batch : LongTermMemoryBatch) {entity : MemoryEntity}
    (hentity : entity ∈ (ruleBasedProcess batch).entities) (n : ℕ) :
    bindText entity.id ≠ bindText (generatedId n) := by
  have hrules := ruleBasedProcess_items (P := MemoryEntity.IsRuleBased) (R := fun _ => True)
    (fun _ topic _ _ => ⟨_, List.mem_cons_self, topic, rfl⟩)
    (fun _ _ => ⟨ascii "entity:preference.", by simp [ruleStems], ascii "user", rfl⟩)
    (fun _ _ => trivial) batch
  obtain ⟨stem, hstem, rest, hid⟩ := hrules.1 entity hentity
  rw [Ne, bindText_eq_generatedId_iff, hid]
  exact cStr_ne_generatedId hstem rest n

/-- The update of the model, and what is made of it. -/
theorem extractUpdate_eq_ok {host : Host} {fallback : Option LongTermMemoryProcessor}
    {model : Option MemoryModelClient} {batch : LongTermMemoryBatch}
    {extracted : LongTermMemoryUpdate × Bool}
    (h : extractUpdate host fallback model batch = .ok extracted) :
    ∃ update, (∀ client, model = some client → llmProcess host client batch = .ok update) ∧
      (model = none → update = {}) ∧
      ((extracted.1 = update) ∨ (update.isNonempty = false ∧
        ∃ process, fallback = some process ∧ extracted.1 = process batch)) := by
  have hrest : ∀ update : LongTermMemoryUpdate,
      (fallback.elim (Except.ok (update, false)) fun process =>
        .ok (if update.isNonempty then (update, false) else (process batch, true)) :
          Except CxxException _) = .ok extracted →
        (extracted.1 = update) ∨ (update.isNonempty = false ∧
          ∃ process, fallback = some process ∧ extracted.1 = process batch) := by
    intro update h
    cases fallback with
    | none =>
        cases h
        exact .inl rfl
    | some process =>
        cases hne : update.isNonempty with
        | true =>
            rw [hne] at h
            cases h
            exact .inl rfl
        | false =>
            rw [hne] at h
            cases h
            exact .inr ⟨rfl, process, rfl, rfl⟩
  cases model with
  | none => exact ⟨{}, by simp, fun _ => rfl, hrest {} (by cases fallback <;> exact h)⟩
  | some client =>
      obtain ⟨update, hclient, h⟩ := except_bind_eq_ok h
      refine ⟨update, ?_, by simp, hrest update (by cases fallback <;> exact h)⟩
      intro client' heq
      cases heq
      exact hclient

/-- The update that the model's answer is read as; empty when the model is not asked or has no
answer. -/
def answeredUpdate (host : Host) (model : Option MemoryModelClient) (batch : LongTermMemoryBatch) :
    LongTermMemoryUpdate :=
  match model with
  | some client =>
      if batch.events.isEmpty then {}
      else
        match client (buildPrompt batch) with
        | .ok answer =>
            if answer.ok then
              parseResponse host (unwrap answer.text) batch.sourceRefs
                ((batch.events.head?.map (·.agentId)).getD [])
            else {}
        | .error _ => {}
  | none => {}

theorem answeredUpdate_of_empty {host : Host} {model : Option MemoryModelClient}
    {batch : LongTermMemoryBatch} (h : batch.events.isEmpty = true) :
    answeredUpdate host model batch = {} := by
  cases model with
  | none => rfl
  | some client => simp [answeredUpdate, h]

theorem answeredUpdate_of_process {host : Host} {client : MemoryModelClient}
    {batch : LongTermMemoryBatch} (h : batch.events.isEmpty = false) :
    answeredUpdate host (some client) batch =
      (llmProcess host client batch).toOption.getD {} := by
  unfold answeredUpdate llmProcess
  simp only [h, Bool.false_eq_true, if_false]
  cases client (buildPrompt batch) with
  | error e => rfl
  | ok answer =>
      cases hok : answer.ok with
      | true => simp [hok, Except.toOption, bind, Except.bind, pure, Except.pure]
      | false => simp [hok, Except.toOption, bind, Except.bind, pure, Except.pure]

/-- The update that a call extracts is read from the model's answer, or is that of the fallback
when nothing is. -/
theorem extract_answered {host : Host} {fallback : Option LongTermMemoryProcessor}
    {model : Option MemoryModelClient} {buildResult : ConsolidationBatchBuildResult}
    {extracted : LongTermMemoryUpdate × Bool}
    (h : extract host fallback model buildResult = .ok extracted) :
    extracted.1 = answeredUpdate host model buildResult.batch ∨
      ((answeredUpdate host model buildResult.batch).isNonempty = false ∧
        ∃ process, fallback = some process ∧ extracted.1 = process buildResult.batch) := by
  unfold extract at h
  cases hbatch : buildResult.batch.events.isEmpty with
  | true =>
      rw [hbatch] at h
      cases h
      exact .inl (answeredUpdate_of_empty hbatch).symm
  | false =>
      rw [hbatch] at h
      obtain ⟨update, hmodel, hnone, hextracted⟩ := extractUpdate_eq_ok h
      have hupdate : answeredUpdate host model buildResult.batch = update := by
        cases model with
        | none => exact (hnone rfl).symm
        | some client =>
            rw [answeredUpdate_of_process hbatch, hmodel client rfl]
            rfl
      rw [hupdate]
      exact hextracted

/-- A call that throws before its write phase has no answer. -/
theorem answeredUpdate_of_error {host : Host} {fallback : Option LongTermMemoryProcessor}
    {model : Option MemoryModelClient} {buildResult : ConsolidationBatchBuildResult}
    {e : CxxException} (h : extract host fallback model buildResult = .error e) :
    answeredUpdate host model buildResult.batch = {} := by
  unfold extract at h
  cases hbatch : buildResult.batch.events.isEmpty with
  | true => exact answeredUpdate_of_empty hbatch
  | false =>
      cases model with
      | none => rfl
      | some client =>
          rw [answeredUpdate_of_process hbatch]
          rw [hbatch] at h
          cases hprocess : llmProcess host client buildResult.batch with
          | error e => rfl
          | ok update =>
              simp only [Bool.false_eq_true, if_false, extractUpdate, hprocess] at h
              cases fallback <;> cases h

/-- The entities that a call extracts: those of the response, or of the fallback when the response
has no entity item. -/
theorem extract_entities {host : Host} {fallback : Option LongTermMemoryProcessor}
    {request : MemoryConsolidationRequest} {events : List MemoryEvent}
    {model : Option MemoryModelClient} {extracted : LongTermMemoryUpdate × Bool}
    (h : extract host fallback model (build request events) = .ok extracted) :
    (∃ sourceRefs agentId, extracted.1.entities =
        (returnedItems host request events model).zipIdx.map (parseEntity sourceRefs agentId)) ∨
      (returnedItems host request events model = [] ∧
        ∃ process batch, fallback = some process ∧ extracted.1 = process batch) := by
  have hitems : ∃ sourceRefs agentId,
      (answeredUpdate host model (build request events).batch).entities =
        (returnedItems host request events model).zipIdx.map (parseEntity sourceRefs agentId) := by
    unfold returnedItems answeredUpdate
    dsimp only
    cases model with
    | none => exact ⟨[], [], rfl⟩
    | some client =>
        dsimp only
        split
        · exact ⟨[], [], rfl⟩
        · split
          · split
            · exact ⟨_, _, parseResponse_entities _ _ _ _⟩
            · exact ⟨[], [], rfl⟩
          · exact ⟨[], [], rfl⟩
  rcases extract_answered h with heq | ⟨hempty, process, hfallback, heq⟩
  · rw [heq]
    exact .inl hitems
  · refine .inr ⟨?_, process, _, hfallback, heq⟩
    obtain ⟨sourceRefs, agentId, hitems⟩ := hitems
    simp only [LongTermMemoryUpdate.isNonempty, Bool.or_eq_false_iff, Bool.not_eq_false',
      List.isEmpty_iff] at hempty
    rw [hitems, List.map_eq_nil_iff, List.zipIdx_eq_nil_iff] at hempty
    exact hempty.1.2

/-! ## What a call stores -/

/-- A call that succeeds applies the operations of its update to the stored rows; one that does
not leaves them, unless it throws with its transaction open. -/
theorem consolidate_cases (host : Host) (fallback : Option LongTermMemoryProcessor)
    (request : MemoryConsolidationRequest) (events : List MemoryEvent)
    (model : Option MemoryModelClient) (c : Connection) :
    let outcome := (consolidate host fallback request events model).runOn host c
    (callSucceeded outcome.1 = false ∧
      ((outcome.2.current = c.current ∧ outcome.2.saved = c.saved) ∨ outcome.2.saved ≠ none)) ∨
    (callSucceeded outcome.1 = true ∧ ∃ update fallbackUsed ws,
      extract host fallback model (build request events) = .ok (update, fallbackUsed) ∧
      statementsOf (persistOperations request (build request events) update) = .ok ws ∧
      Session.Applied host.engine ws c.current outcome.2.current ∧
      ((ws = [] ∧ outcome.2 = c) ∨ (c.saved = none ∧ outcome.2.saved = none))) := by
  intro outcome
  have hrun := run_consolidate host fallback request events model c
  cases hextract : extract host fallback model (build request events) with
  | error e =>
      rw [hextract] at hrun
      have houtcome : outcome = (.error e, c) := hrun
      rw [houtcome]
      exact .inl ⟨rfl, .inl ⟨rfl, rfl⟩⟩
  | ok extracted =>
      obtain ⟨update, fallbackUsed⟩ := extracted
      rw [hextract] at hrun
      have houtcome : outcome =
          (persist request (build request events) update fallbackUsed).runOn host c := hrun
      rcases persist_cases host request (build request events) update fallbackUsed c with
        ⟨-, -, result, clock, hfailed, hpersist⟩ |
        ⟨-, -, ws, c', hws, happlied, hclosed, hpersist⟩ |
        ⟨-, -, before, op, after, e, ws, -, -, -, -, -, hopen, hreply⟩
      · rw [houtcome, hpersist]
        exact .inl ⟨hfailed.notSucceeded, .inl ⟨rfl, rfl⟩⟩
      · rw [houtcome, hpersist]
        refine .inr ⟨?_, update, fallbackUsed, ws, rfl, hws, happlied, hclosed⟩
        exact persistedResult_succeeded _ _ _
      · rw [← houtcome] at hopen hreply
        refine .inl ⟨?_, .inr ?_⟩
        · rw [hreply]
          rfl
        · rw [hopen]
          simp

/-! ## The ids in the entity rows -/

section Ids

variable {S : SqlText → Prop}

/-- A statement brings in no id but that of an upsert. -/
theorem effect_ids {now : Text} {w : Write} {db db' : Database} (h : w.effect now db = some db')
    (hw : ∀ v, w = .upsertEntity v → S v.id) (hdb : ∀ r ∈ db.entityRows, S r.2.id) :
    ∀ r ∈ db'.entityRows, S r.2.id := by
  by_cases htable : w.table = some .entities
  · cases w with
    | markDuplicateEntities id agentId entityType name =>
        cases h
        intro r hr
        obtain ⟨q, hq, rfl⟩ := List.mem_map.mp hr
        dsimp only
        split
        · exact hdb q hq
        · exact hdb q hq
    | markEntityObsolete entityId supersededBy =>
        cases h
        intro r hr
        obtain ⟨q, hq, rfl⟩ := List.mem_map.mp hr
        dsimp only
        split
        · exact hdb q hq
        · exact hdb q hq
    | upsertEntity v =>
        intro r hr
        rcases mem_upsert_cases h hr with ⟨hold, -⟩ | hv
        · exact hdb r hold
        · rw [hv]
          exact hw v rfl
    | _ => cases htable
  · rw [Database.entityRows, (Write.effect_sameExcept h).entities htable]
    exact hdb

theorem applied_ids {host : Host} {ws : List Write} {db db' : Database}
    (h : Session.Applied host.engine ws db db')
    (hws : ∀ w ∈ ws, ∀ v, w = .upsertEntity v → S v.id) (hdb : ∀ r ∈ db.entityRows, S r.2.id) :
    ∀ r ∈ db'.entityRows, S r.2.id := by
  refine h.invariant (P := fun w => ∀ v, w = .upsertEntity v → S v.id)
    (I := fun d => ∀ r ∈ d.entityRows, S r.2.id) ?_ hws hdb
  exact fun n w d d' hw heffect hd => effect_ids heffect hw hd

/-- The upserts of a list of operations are those of the entities it saves. -/
theorem statementsOf_ids {ops : List TransactionOp} {ws : List Write}
    (hws : statementsOf ops = .ok ws) (hops : ∀ entity, .saveEntity entity ∈ ops →
      S (bindText entity.id)) : ∀ w ∈ ws, ∀ v, w = .upsertEntity v → S v.id := by
  rintro w hw v rfl
  obtain ⟨op, hop, ws', hop', hw'⟩ := mem_statementsOf hws hw
  by_cases hsave : ∃ entity, op = .saveEntity entity
  · obtain ⟨entity, rfl⟩ := hsave
    obtain ⟨refsStr, metadataStr, -, -, rfl⟩ := saveEntity_statements hop'
    rw [List.mem_append, List.mem_cons] at hw'
    rcases hw' with hw' | hw' | hw'
    · cases mem_duplicateMarking hw'
    · cases hw'
      exact hops entity hop
    · cases (mem_entity_supersession hw').2
  · exact absurd rfl (statements_not_upsert hop' (fun entity heq => hsave ⟨entity, heq⟩) _ hw' v)

end Ids

/-! ## The operations that save entities -/

section Operations

variable {request : MemoryConsolidationRequest} {buildResult : ConsolidationBatchBuildResult}
  {update : LongTermMemoryUpdate} {entity : MemoryEntity}

theorem saveEntity_mem_flatMap {agentId : Text} {entities : List MemoryEntity}
    (h : .saveEntity entity ∈ entities.flatMap (entityOperations agentId)) :
    ∃ own ∈ entities, entity.id = own.id := by
  obtain ⟨own, hown, hmem⟩ := List.mem_flatMap.mp h
  refine ⟨own, hown, ?_⟩
  simp only [entityOperations, List.mem_cons] at hmem
  rcases hmem with heq | hmem
  · cases heq
    rfl
  · split at hmem
    · cases hmem
    · cases List.mem_singleton.mp hmem

/-- The operations before those of the entities: the summaries. -/
def summaryOperations (request : MemoryConsolidationRequest)
    (buildResult : ConsolidationBatchBuildResult) (update : LongTermMemoryUpdate) :
    List TransactionOp :=
  sessionOperation request buildResult ::
    (update.topicSummaries.map (topicOperation request.agentId buildResult.sessionId
        buildResult.batch.sourceRefs) ++
      update.profileSummaries.map (profileOperation request.agentId buildResult.sessionId
        buildResult.batch.sourceRefs))

/-- The operations after those of the entities: the relations and the cursor. -/
def relationOperations (request : MemoryConsolidationRequest)
    (buildResult : ConsolidationBatchBuildResult) (update : LongTermMemoryUpdate) :
    List TransactionOp :=
  update.relations.map (relationOperation request.agentId) ++
    cursorOperations request buildResult.nextCursor

theorem consolidationOperations_eq : consolidationOperations request buildResult update =
    summaryOperations request buildResult update ++
      update.entities.flatMap (entityOperations request.agentId) ++
        relationOperations request buildResult update := by
  simp [consolidationOperations, LongTermMemoryUpdate.operations, summaryOperations,
    relationOperations]

theorem saveEntity_notMem_cursorOperations {nextCursor : Text} :
    .saveEntity entity ∉ cursorOperations request nextCursor := by
  unfold cursorOperations
  split <;> simp

theorem saveEntity_notMem_summaryOperations :
    .saveEntity entity ∉ summaryOperations request buildResult update := by
  simp [summaryOperations, sessionOperation, topicOperation, profileOperation]

theorem saveEntity_notMem_relationOperations :
    .saveEntity entity ∉ relationOperations request buildResult update := by
  simp [relationOperations, relationOperation, saveEntity_notMem_cursorOperations]

/-- The entities that the write phase saves are those of the update. -/
theorem saveEntity_mem_persistOperations
    (h : .saveEntity entity ∈ persistOperations request buildResult update) :
    ∃ own ∈ update.entities, entity.id = own.id := by
  unfold persistOperations at h
  split at h
  · exact absurd h saveEntity_notMem_cursorOperations
  · rw [consolidationOperations_eq, List.mem_append, List.mem_append] at h
    rcases h with (h | h) | h
    · exact absurd h saveEntity_notMem_summaryOperations
    · exact saveEntity_mem_flatMap h
    · exact absurd h saveEntity_notMem_relationOperations

end Operations

/-! ## Sequences of calls -/

/-- A connection with the entity items of the responses stored so far. -/
structure ConsolidationHistory where
  connection : Connection
  stored : List (List Json) := []

namespace ConsolidationHistory

/-- One call; its items are stored if it succeeds. -/
def consolidate (host : Host) (fallback : Option LongTermMemoryProcessor)
    (request : MemoryConsolidationRequest) (events : List MemoryEvent)
    (model : Option MemoryModelClient) (s : ConsolidationHistory) : ConsolidationHistory :=
  let (reply, connection) :=
    (AgentMemory.consolidate host fallback request events model).runOn host s.connection
  { connection
    stored := if callSucceeded reply then s.stored ++ [returnedItems host request events model]
      else s.stored }

/-- A call, or an event that is appended between two calls. -/
inductive Step (host : Host) (fallback : Option LongTermMemoryProcessor) :
    ConsolidationHistory → ConsolidationHistory → Prop where
  | append (s : ConsolidationHistory) (services : RuntimeServices) (event : MemoryEvent) :
      Step host fallback s
        { s with connection := ((appendEvent services event).runOn host s.connection).2 }
  | consolidate (s : ConsolidationHistory) (request : MemoryConsolidationRequest)
      (events : List MemoryEvent) (model : Option MemoryModelClient) :
      Step host fallback s (s.consolidate host fallback request events model)

/-- If the id is that of position `n`, a stored response comes to it. -/
def Issues (stored : List (List Json)) (i : SqlText) : Prop :=
  ∀ n, i = bindText (generatedId n) → ∃ items ∈ stored, Unnamed items n ∨ Names items n

/-- Outside of a transaction, the stored responses issue the ids of the rows. -/
def Accounts (s : ConsolidationHistory) : Prop :=
  s.connection.saved = none → ∀ r ∈ s.connection.current.entityRows, Issues s.stored r.2.id

variable {host : Host} {fallback : Option LongTermMemoryProcessor} {s s' : ConsolidationHistory}

theorem Accounts.append (h : s.Accounts) (services : RuntimeServices) (event : MemoryEvent) :
    Accounts { s with connection := ((appendEvent services event).runOn host s.connection).2 } := by
  obtain ⟨reply, c', hrun, hsaved, hcases⟩ := run_appendEvent host services event s.connection
  rw [hrun]
  intro hnone
  have hrows : c'.current.entityRows = s.connection.current.entityRows := by
    rcases hcases with ⟨-, -, -, -, happended, -⟩ | ⟨-, hcurrent⟩
    · rw [happended]
      rfl
    · rw [hcurrent]
  change ∀ r ∈ c'.current.entityRows, _
  rw [hrows]
  exact h (hsaved.symm.trans hnone)

theorem Accounts.consolidate (hfallback : ∀ process, fallback = some process →
      process = ruleBasedProcess) (h : s.Accounts) (request : MemoryConsolidationRequest)
    (events : List MemoryEvent) (model : Option MemoryModelClient) :
    (s.consolidate host fallback request events model).Accounts := by
  unfold ConsolidationHistory.consolidate
  rcases hrun : (AgentMemory.consolidate host fallback request events model).runOn host s.connection
    with ⟨reply, c'⟩
  have hcases := consolidate_cases host fallback request events model s.connection
  rw [hrun] at hcases
  dsimp only at hcases ⊢
  rcases hcases with ⟨hfailed, hcases⟩ | ⟨hok, update, fallbackUsed, ws, hextract, hws, happlied,
    hclosed⟩
  · rw [hfailed]
    intro hnone
    rcases hcases with ⟨hcurrent, hsaved⟩ | hopen
    · change ∀ r ∈ c'.current.entityRows, _
      rw [hcurrent]
      exact h (hsaved.symm.trans hnone)
    · exact absurd hnone hopen
  · rw [hok]
    intro hnone
    have hbefore : s.connection.saved = none := by
      rcases hclosed with ⟨-, rfl⟩ | ⟨hbefore, -⟩
      · exact hnone
      · exact hbefore
    have hissues : ∀ entity, .saveEntity entity ∈ persistOperations request (build request events)
        update → Issues (s.stored ++ [returnedItems host request events model])
          (bindText entity.id) := by
      intro entity hentity n hid
      obtain ⟨own, hown, heq⟩ := saveEntity_mem_persistOperations hentity
      rw [heq] at hid
      rcases extract_entities hextract with ⟨sourceRefs, agentId, hitems⟩ |
        ⟨-, process, batch, hprocess, hupdate⟩
      · rw [hitems] at hown
        obtain ⟨item, hitem, rfl⟩ := List.mem_map.mp hown
        refine ⟨_, List.mem_append_right _ (List.mem_singleton_self _), ?_⟩
        exact (issues_of_mem hitem hid).imp And.right id
      · cases hfallback process hprocess
        have hupdate : update = ruleBasedProcess batch := hupdate
        rw [hupdate] at hown
        exact absurd hid (ruleBasedProcess_id batch hown n)
    refine applied_ids happlied (statementsOf_ids hws hissues) fun r hr n hid => ?_
    obtain ⟨items, hitems, hissued⟩ := h hbefore r hr n hid
    exact ⟨items, List.mem_append_left _ hitems, hissued⟩

/-- From rows without such ids, every sequence of calls accounts for them. -/
theorem accounts_of_run (hfallback : ∀ process, fallback = some process →
      process = ruleBasedProcess) {c : Connection}
    (hstart : ∀ r ∈ c.current.entityRows, ∀ n, r.2.id ≠ bindText (generatedId n))
    (hrun : Relation.ReflTransGen (Step host fallback) { connection := c } s) : s.Accounts := by
  induction hrun with
  | refl => exact fun _ r hr n hid => absurd hid (hstart r hr n)
  | tail _ hstep ih =>
      cases hstep with
      | append services event => exact ih.append services event
      | consolidate request events model => exact ih.consolidate hfallback request events model

end ConsolidationHistory

/-! ## One call -/

/-- Saving the entity adds a row with its id and values; of the rows before it changes only those
that are active under its key, which it replaces. -/
structure SavedAsNewRow (entity : MemoryEntity) (db db' : Database) : Prop where
  absent : ∀ r ∈ db.entityRows, r.2.id ≠ bindText entity.id
  added : db'.entityRows.length = db.entityRows.length + 1
  stored : entity.IsStoredIn db'
  unchanged : ∀ r ∈ db.entityRows, ¬(r.2.key = entity.boundKey ∧ r.2.active = true) →
    r ∈ db'.entityRows

/-- The entity of the item at position `n` has an id of its own among the entities of the update
and the rows before the call, and the call saves it as a new row. -/
def StoredAsNew (host : Host) (agentId : Text) (ops : List TransactionOp)
    (entities : List MemoryEntity) (n : ℕ) (db db' : Database) : Prop :=
  ∃ front entity back, entities = front ++ entity :: back ∧ front.length = n ∧
    entity.id = generatedId n ∧
    (∀ other ∈ front ++ back, bindText other.id ≠ bindText entity.id) ∧
    (∀ r ∈ db.entityRows, r.2.id ≠ bindText entity.id) ∧
    ∃ opsBefore opsAfter ws₁ ws₂ ws₃ d d',
      let saved := { entity with agentId := withAgent agentId entity.agentId }
      ops = opsBefore ++ .saveEntity saved :: opsAfter ∧
        statementsOf opsBefore = .ok ws₁ ∧ Session.Applied host.engine ws₁ db d ∧
        (TransactionOp.saveEntity saved).statements = .ok ws₂ ∧
        Session.Applied host.engine ws₂ d d' ∧
        statementsOf opsAfter = .ok ws₃ ∧ Session.Applied host.engine ws₃ d' db' ∧
        SavedAsNewRow saved d d'

/-- When the call succeeds, every unnamed item of its response is stored as new. -/
def StoresAsNew (host : Host) (fallback : Option LongTermMemoryProcessor)
    (request : MemoryConsolidationRequest) (events : List MemoryEvent)
    (model : Option MemoryModelClient) (c : Connection) : Prop :=
  let outcome := (consolidate host fallback request events model).runOn host c
  callSucceeded outcome.1 = true → ∀ n, Unnamed (returnedItems host request events model) n →
    ∃ update fallbackUsed,
      extract host fallback model (build request events) = .ok (update, fallbackUsed) ∧
      StoredAsNew host request.agentId
        (persistOperations request (build request events) update) update.entities n c.current
        outcome.2.current

/-- No item of the response and none of an earlier stored one comes to the id of an unnamed item:
neither by its name nor, in an earlier response, as the unnamed item at the same position. -/
structure KeepsIdsApart (stored : List (List Json)) (items : List Json) : Prop where
  response : ∀ n, Unnamed items n → ¬Names items n
  earlier : ∀ n, Unnamed items n → ∀ earlier ∈ stored, ¬Unnamed earlier n ∧ ¬Names earlier n

/-- Saving an entity whose id is not there yet. -/
theorem savedAsNewRow_of_applied {host : Host} {entity : MemoryEntity} {ws : List Write}
    {db db' : Database} (hws : (TransactionOp.saveEntity entity).statements = .ok ws)
    (hsupersedes : entity.supersededEntityId = [])
    (habsent : ∀ r ∈ db.entityRows, r.2.id ≠ bindText entity.id)
    (happlied : Session.Applied host.engine ws db db') : SavedAsNewRow entity db db' := by
  obtain ⟨refsStr, metadataStr, hrefs, hmetadata, rfl⟩ := saveEntity_statements hws
  have hsupersession : entity.supersession = [] := by
    simp [MemoryEntity.supersession, hsupersedes]
  rw [hsupersession] at happlied
  obtain ⟨d, hmarked, hrest⟩ := Session.applied_append happlied
  obtain ⟨n, d', hupsert, hnil⟩ := Session.applied_cons hrest
  cases hnil
  obtain ⟨hlength, hkept⟩ : d.entityRows.length = db.entityRows.length ∧
      ∀ r ∈ db.entityRows, ¬(r.2.key = entity.boundKey ∧ r.2.active = true) → r ∈ d.entityRows := by
    unfold MemoryEntity.duplicateMarking at hmarked
    split at hmarked
    · cases hmarked
      exact ⟨rfl, fun r hr _ => hr⟩
    · obtain ⟨m, d₁, heffect, hnil⟩ := Session.applied_cons hmarked
      cases hnil
      cases heffect
      refine ⟨by simp [Database.entityRows, Database.updateEntities], fun r hr hother => ?_⟩
      refine mem_retire_of_mem hr ?_
      rw [Bool.eq_false_iff, Ne, isDuplicateOf_iff]
      exact fun hdup => hother ⟨hdup.1, hdup.2.2⟩
  have habsent' : ∀ r ∈ d.entityRows, r.2.id ≠ bindText entity.id :=
    applied_ids (S := fun i => i ≠ bindText entity.id) hmarked
      (fun w hw v heq => by rw [mem_duplicateMarking hw] at heq; cases heq) habsent
  rcases upsertEntity_rows hupsert with ⟨⟨q, hq, hid⟩, -⟩ | ⟨-, i, hrows⟩
  · exact absurd hid (habsent' q hq)
  · refine ⟨habsent, ?_, ⟨refsStr, metadataStr, hrefs, hmetadata, exists_mem_upsert hupsert⟩, ?_⟩
    · rw [hrows, List.length_append, hlength]
      rfl
    · intro r hr hother
      rw [hrows]
      exact List.mem_append_left _ (hkept r hr hother)

theorem returnedItems_of_empty {host : Host} {request : MemoryConsolidationRequest}
    {events : List MemoryEvent} {model : Option MemoryModelClient}
    (h : (build request events).batch.events.isEmpty = true) :
    returnedItems host request events model = [] := by
  unfold returnedItems
  cases model with
  | none => rfl
  | some client => simp [h]

section Positions

variable {items : List Json} {sourceRefs : List Text} {agentId : Text} {n : ℕ}

theorem getElem?_parsed (m : ℕ) :
    (items.zipIdx.map (parseEntity sourceRefs agentId))[m]? =
      items[m]?.map fun item => parseEntity sourceRefs agentId (item, m) := by
  simp [List.getElem?_zipIdx, Function.comp_def]

/-- The entities at other positions have other ids. -/
theorem id_ne_of_position_ne (hnames : ¬Names items n) {other : MemoryEntity} {m : ℕ} (hm : m ≠ n)
    (hother : (items.zipIdx.map (parseEntity sourceRefs agentId))[m]? = some other) :
    bindText other.id ≠ bindText (generatedId n) := by
  rw [getElem?_parsed] at hother
  obtain ⟨item, hitem, rfl⟩ := Option.map_eq_some_iff.mp hother
  intro hid
  rcases issues_of_mem (List.mk_mem_zipIdx_iff_getElem?.mpr hitem) hid with ⟨heq, -⟩ | hnamed
  · exact hm heq
  · exact hnames hnamed

/-- The entity of the unnamed item at position `n`, among those of its response. -/
theorem parsed_split (sourceRefs : List Text) (agentId : Text) (hunnamed : Unnamed items n)
    (hnames : ¬Names items n) :
    ∃ front entity back, items.zipIdx.map (parseEntity sourceRefs agentId) =
        front ++ entity :: back ∧ front.length = n ∧ entity.id = generatedId n ∧
      entity.supersededEntityId = [] ∧
      ∀ other ∈ front ++ back, bindText other.id ≠ bindText entity.id := by
  obtain ⟨item, hitem, hnone⟩ := hunnamed
  have hget : (items.zipIdx.map (parseEntity sourceRefs agentId))[n]? =
      some (parseEntity sourceRefs agentId (item, n)) := by
    rw [getElem?_parsed, hitem]
    rfl
  have hother : ∀ m other, m ≠ n →
      (items.zipIdx.map (parseEntity sourceRefs agentId))[m]? = some other →
        bindText other.id ≠ bindText (generatedId n) :=
    fun m other hm hother => id_ne_of_position_ne hnames hm hother
  generalize items.zipIdx.map (parseEntity sourceRefs agentId) = entities at hget hother ⊢
  obtain ⟨hn, hget⟩ := List.getElem?_eq_some_iff.mp hget
  refine ⟨entities.take n, parseEntity sourceRefs agentId (item, n), entities.drop (n + 1), ?_,
    List.length_take_of_le hn.le, parseEntity_id_of_unnamed hnone, rfl, ?_⟩
  · rw [← hget, ← List.drop_eq_getElem_cons hn, List.take_append_drop]
  · intro other hmem
    rw [parseEntity_id_of_unnamed hnone]
    rcases List.mem_append.mp hmem with hmem | hmem
    · obtain ⟨m, hm⟩ := List.mem_iff_getElem?.mp hmem
      rw [List.getElem?_take] at hm
      split at hm
      · next hlt => exact hother m other hlt.ne hm
      · cases hm
    · obtain ⟨m, hm⟩ := List.mem_iff_getElem?.mp hmem
      rw [List.getElem?_drop] at hm
      exact hother (n + 1 + m) other (by omega) hm

end Positions

/-- The write phase of an update around one entity that supersedes none. -/
theorem persistOperations_split (request : MemoryConsolidationRequest)
    {buildResult : ConsolidationBatchBuildResult} {update : LongTermMemoryUpdate}
    (hbatch : buildResult.batch.events.isEmpty = false) {front back : List MemoryEntity}
    {entity : MemoryEntity} (hentities : update.entities = front ++ entity :: back)
    (hsupersedes : entity.supersededEntityId = []) :
    persistOperations request buildResult update =
      (summaryOperations request buildResult update ++
        front.flatMap (entityOperations request.agentId)) ++
      .saveEntity { entity with agentId := withAgent request.agentId entity.agentId } ::
        (back.flatMap (entityOperations request.agentId) ++
          relationOperations request buildResult update) := by
  have hentity : entityOperations request.agentId entity =
      [.saveEntity { entity with agentId := withAgent request.agentId entity.agentId }] := by
    simp [entityOperations, hsupersedes]
  simp [persistOperations, hbatch, consolidationOperations_eq, hentities, hentity]

/-- In every sequence of calls from rows without such ids, a call whose response keeps ids apart
stores every unnamed item of it as a new row. -/
theorem consolidate_storesAsNew (host : Host) {fallback : Option LongTermMemoryProcessor}
    (hfallback : ∀ process, fallback = some process → process = ruleBasedProcess)
    {c : Connection}
    (hstart : ∀ r ∈ c.current.entityRows, ∀ n, r.2.id ≠ bindText (generatedId n))
    {s : ConsolidationHistory} (hrun : Relation.ReflTransGen
      (ConsolidationHistory.Step host fallback) { connection := c } s)
    (request : MemoryConsolidationRequest) (events : List MemoryEvent)
    (model : Option MemoryModelClient)
    (hapart : KeepsIdsApart s.stored (returnedItems host request events model)) :
    StoresAsNew host fallback request events model s.connection := by
  intro hok n hunnamed
  have haccounts := ConsolidationHistory.accounts_of_run hfallback hstart hrun
  have hitems : returnedItems host request events model ≠ [] := by
    obtain ⟨item, hitem, -⟩ := hunnamed
    intro hempty
    rw [hempty] at hitem
    cases hitem
  have hbatch : (build request events).batch.events.isEmpty = false := by
    rw [Bool.eq_false_iff]
    exact fun hempty => hitems (returnedItems_of_empty hempty)
  rcases consolidate_cases host fallback request events model s.connection with
    ⟨hfailed, -⟩ | ⟨-, update, fallbackUsed, ws, hextract, hws, happlied, hclosed⟩
  · rw [hok] at hfailed
    cases hfailed
  refine ⟨update, fallbackUsed, hextract, ?_⟩
  rcases extract_entities hextract with ⟨sourceRefs, agentId, hentities⟩ | ⟨hempty, -⟩
  · obtain ⟨front, entity, back, hsplit, hlength, hid, hsupersedes, hothers⟩ :=
      parsed_split sourceRefs agentId hunnamed (hapart.response n hunnamed)
    rw [hsplit] at hentities
    have hops := persistOperations_split request hbatch hentities hsupersedes
    rw [hops] at hws
    obtain ⟨ws₁, rest, hws₁, hrest, rfl⟩ := statementsOf_append hws
    obtain ⟨ws₂, ws₃, hws₂, hws₃, rfl⟩ := statementsOf_cons hrest
    obtain ⟨d, happlied₁, happlied⟩ := Session.applied_append happlied
    obtain ⟨d', happlied₂, happlied₃⟩ := Session.applied_append happlied
    have hnone : s.connection.saved = none := by
      rcases hclosed with ⟨hnil, -⟩ | ⟨hnone, -⟩
      · obtain ⟨refsStr, metadataStr, -, -, rfl⟩ := saveEntity_statements hws₂
        simp at hnil
      · exact hnone
    have hrows : ∀ r ∈ s.connection.current.entityRows, r.2.id ≠ bindText entity.id := by
      intro r hr heq
      rw [hid] at heq
      obtain ⟨earlier, hearlier, hissues⟩ := haccounts hnone r hr n heq
      obtain ⟨hunnamed', hnames'⟩ := hapart.earlier n hunnamed earlier hearlier
      exact hissues.elim hunnamed' hnames'
    have habsent : ∀ r ∈ d.entityRows, r.2.id ≠ bindText entity.id := by
      refine applied_ids (S := fun i => i ≠ bindText entity.id) happlied₁
        (statementsOf_ids (S := fun i => i ≠ bindText entity.id) hws₁ fun saved hsaved => ?_) hrows
      rcases List.mem_append.mp hsaved with hsaved | hsaved
      · exact absurd hsaved saveEntity_notMem_summaryOperations
      · obtain ⟨own, hown, heq⟩ := saveEntity_mem_flatMap hsaved
        rw [heq]
        exact hothers own (List.mem_append_left _ hown)
    exact ⟨front, entity, back, hentities, hlength, hid, hothers, hrows, _, _, ws₁, ws₂, ws₃, d, d',
      hops, hws₁, happlied₁, hws₂, happlied₂, hws₃, happlied₃,
      savedAsNewRow_of_applied hws₂ hsupersedes habsent happlied₂⟩
  · exact absurd hempty hitems

/-! ## Two responses -/

/-- A model that always answers with the text. -/
def answering (text : String) : MemoryModelClient := fun _ => .ok { text := ascii text }

def namedItem : Json :=
  .object [(ascii "id", .string (ascii "e0"))]

def unnamedItem : Json :=
  .object [(ascii "name", .string (ascii "editor"))]

/-- A host that refuses nothing. It reads one text as a response with an unnamed item, and every
other as one in which an item with an id comes before the unnamed one. -/
def twoResponses : Host where
  outcome _ := {}
  parseJson text := some (.object [(ascii "entities", .array
    (if text = ascii "\x7b1\x7d" then [unnamedItem] else [namedItem, unnamedItem]))])

/-- A call of the model on a log with one message. -/
def afterAnswer (text : String) (s : ConsolidationHistory) : ConsolidationHistory :=
  s.consolidate twoResponses none (sessionRequest (ascii "s")) (sessionLog (ascii "s"))
    (some (answering text))

/-- The history after the first response. -/
def afterFirst : ConsolidationHistory :=
  afterAnswer "\x7b1\x7d" { connection := { current := .empty } }

theorem afterFirst_run : Relation.ReflTransGen (ConsolidationHistory.Step twoResponses none)
    { connection := { current := .empty } } afterFirst :=
  .single (.consolidate _ _ _ _)

theorem afterFirst_stored : afterFirst.stored = [[unnamedItem]] := rfl

theorem member?_unnamedItem (s : Text) :
    unnamedItem.member? (ascii "id") ≠ some (.string s) := by
  have hnone : unnamedItem.member? (ascii "id") = none := rfl
  rw [hnone]
  simp

/-- The second response keeps its ids apart from the first: the positions differ. -/
theorem keepsIdsApart_second : KeepsIdsApart [[unnamedItem]] [namedItem, unnamedItem] := by
  have hposition : ∀ n, Unnamed [namedItem, unnamedItem] n → n = 1 := by
    rintro n ⟨item, hitem, hnone⟩
    match n with
    | 0 =>
        cases hitem
        exact absurd rfl (hnone (ascii "e0"))
    | 1 => rfl
    | n + 2 => cases hitem
  constructor
  · rintro n hn ⟨item, hitem, s, hs, hid⟩
    cases hposition n hn
    simp only [List.mem_cons, List.not_mem_nil, or_false] at hitem
    rcases hitem with rfl | rfl
    · cases hs
      exact absurd hid (by decide)
    · exact member?_unnamedItem s hs
  · rintro n hn earlier hearlier
    cases hposition n hn
    cases List.mem_singleton.mp hearlier
    refine ⟨?_, ?_⟩
    · rintro ⟨item, hitem, -⟩
      cases hitem
    · rintro ⟨item, hitem, s, hs, -⟩
      cases List.mem_singleton.mp hitem
      exact member?_unnamedItem s hs

/-- A second response with its unnamed item at another position stores it as a new row. -/
theorem consolidate_storesAsNew_other_position :
    StoresAsNew twoResponses none (sessionRequest (ascii "s")) (sessionLog (ascii "s"))
      (some (answering "\x7b2\x7d")) afterFirst.connection := by
  refine consolidate_storesAsNew twoResponses (by simp) (fun r hr => by cases hr) afterFirst_run _ _
    _ ?_
  rw [afterFirst_stored]
  exact keepsIdsApart_second

/-- The same response again: its unnamed item gets the id of the row stored from the first one. -/
theorem consolidate_not_storesAsNew_same_position :
    Relation.ReflTransGen (ConsolidationHistory.Step twoResponses none)
        { connection := { current := .empty } } afterFirst ∧
      ¬StoresAsNew twoResponses none (sessionRequest (ascii "s")) (sessionLog (ascii "s"))
        (some (answering "\x7b1\x7d")) afterFirst.connection := by
  refine ⟨afterFirst_run, fun h => ?_⟩
  obtain ⟨update, fallbackUsed, -, front, entity, back, -, -, hid, -, hrows, -⟩ :=
    h rfl 0 ⟨unnamedItem, rfl, member?_unnamedItem⟩
  have hstored : afterFirst.connection.current.entityRows.any
      (fun r => r.2.id == bindText (generatedId 0)) = true := by
    decide
  obtain ⟨r, hr, heq⟩ := List.any_eq_true.mp hstored
  rw [hid] at hrows
  exact hrows r hr (by simpa using heq)

end AgentMemory
