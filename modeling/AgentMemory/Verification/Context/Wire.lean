import AgentMemory.Foundation.Narrowing
import AgentMemory.Verification.Context.Records

/-! # Context packages on the wire

The codecs of entities and relations leave out the agent they belong to, which the store fills
in. -/

namespace AgentMemory

open Foundation

/-! ## What the codecs of records leave out -/

/-- An entity as it comes back. -/
def MemoryEntity.transmitted (entity : MemoryEntity) : MemoryEntity :=
  { entity with
    agentId := []
    isActive := true
    supersededByEntityId := []
    supersededEntityId := [] }

/-- A relation as it comes back. -/
def MemoryRelation.transmitted (relation : MemoryRelation) : MemoryRelation :=
  { relation with agentId := [] }

section Codecs

variable (printFloat : ℚ → FloatText)

theorem entityFromJson_entityToJson {entity : MemoryEntity}
    (hmetadata : entity.metadata.isObject = true) :
    entityFromJson (entityToJson printFloat entity) = entity.transmitted := by
  simp +decide [entityFromJson, entityToJson, floatToJson, jsonString, jsonFloat, jsonFieldValue,
    Json.member?_ofMembers, hmetadata, MemoryEntity.transmitted]

theorem relationFromJson_relationToJson {relation : MemoryRelation}
    (hmetadata : relation.metadata.isObject = true) :
    relationFromJson (relationToJson printFloat relation) = relation.transmitted := by
  simp +decide [relationFromJson, relationToJson, floatToJson, jsonString, jsonFloat,
    jsonFieldValue, Json.member?_ofMembers, hmetadata, MemoryRelation.transmitted]

/-- A package all of whose metadata are objects and whose numbers are of type `int`. -/
structure MemoryContextPackage.Encodable (pkg : MemoryContextPackage) : Prop where
  metadata : pkg.metadata.isObject = true
  entities : ∀ entity ∈ pkg.entities, entity.metadata.isObject = true
  relations : ∀ relation ∈ pkg.relations, relation.metadata.isObject = true
  payloads : ∀ payload ∈ pkg.payloadRefs,
    isInt payload.originalChars = true ∧ payload.metadata.isObject = true

/-- A package comes back with its records as they are transmitted. -/
theorem contextPackageFromJson_contextPackageToJson {pkg : MemoryContextPackage}
    (h : pkg.Encodable) :
    contextPackageFromJson (contextPackageToJson printFloat pkg) =
      { pkg with
        entities := pkg.entities.map MemoryEntity.transmitted
        relations := pkg.relations.map MemoryRelation.transmitted } := by
  have hmessages : decodeObjects messageFromJson (.array (pkg.messages.map messageToJson)) =
      pkg.messages :=
    decodeObjects_map_id (fun _ => Json.isObject_ofMembers _)
      fun message _ => messageFromJson_messageToJson message
  have hentities : decodeObjects entityFromJson
      (.array (pkg.entities.map (entityToJson printFloat))) =
        pkg.entities.map MemoryEntity.transmitted :=
    decodeObjects_map (fun _ => Json.isObject_ofMembers _)
      fun entity hentity => entityFromJson_entityToJson printFloat (h.entities entity hentity)
  have hrelations : decodeObjects relationFromJson
      (.array (pkg.relations.map (relationToJson printFloat))) =
        pkg.relations.map MemoryRelation.transmitted :=
    decodeObjects_map (fun _ => Json.isObject_ofMembers _)
      fun relation hrelation =>
        relationFromJson_relationToJson printFloat (h.relations relation hrelation)
  have hpayloads : decodeObjects payloadRefFromJson
      (.array (pkg.payloadRefs.map payloadRefToJson)) = pkg.payloadRefs :=
    decodeObjects_map_id (fun _ => Json.isObject_ofMembers _) fun payload hpayload =>
      payloadRefFromJson_payloadRefToJson (h.payloads payload hpayload).1
        (h.payloads payload hpayload).2
  simp +decide [contextPackageFromJson, contextPackageToJson, jsonString, jsonFieldValue,
    member?_withSchema, Json.member?_ofMembers, h.metadata, hmessages, hentities, hrelations,
    hpayloads]

end Codecs

/-! ## What a context holds -/

/-- The records of a snapshot belong to an agent, by the store's own columns. -/
structure LongTermMemorySnapshot.BelongsTo (host : Host) (agentId : Text)
    (snapshot : LongTermMemorySnapshot) : Prop where
  entities : ∀ entity ∈ snapshot.entities,
    ∃ r : Rowid × EntityRow, entity = readEntityRow host r ∧ r.2.agentId = bindText agentId
  relations : ∀ relation ∈ snapshot.relations,
    ∃ r : Rowid × RelationRow, relation = readRelationRow host r ∧ r.2.agentId = bindText agentId

section BelongsTo

variable {host : QueryHost} {agentId sessionId : Text}

theorem belongsTo_empty (host : Host) (agentId : Text) :
    LongTermMemorySnapshot.BelongsTo host agentId {} :=
  ⟨fun _ h => absurd h List.not_mem_nil, fun _ h => absurd h List.not_mem_nil⟩

theorem snapshotOf_belongsTo (n : ℕ) (db : Database) :
    (snapshotOf host agentId sessionId n db).BelongsTo host.toHost agentId := by
  constructor
  · intro entity hentity
    obtain ⟨r, hr, rfl⟩ := List.mem_map.mp hentity
    have hactive := (List.mem_filter.mp (Arrangement.mem_of_mem_top hr)).2
    simp only [Bool.and_eq_true, beq_iff_eq] at hactive
    exact ⟨r, rfl, hactive.2⟩
  · intro relation hrelation
    obtain ⟨r, hr, rfl⟩ := List.mem_map.mp hrelation
    have hactive := (List.mem_filter.mp (Arrangement.mem_of_mem_top hr)).2
    simp only [Bool.and_eq_true, beq_iff_eq] at hactive
    exact ⟨r, rfl, hactive.2⟩

theorem loadLongTermMemory_belongsTo {limit : Int32} {c : Connection}
    (hok : (loadLongTermMemory host agentId limit sessionId c).1.succeeded = true) :
    (loadLongTermMemory host agentId limit sessionId c).1.snapshot.BelongsTo host.toHost agentId := by
  rw [loadLongTermMemory_succeeded hok]
  exact snapshotOf_belongsTo _ _

theorem contextLongTerm_belongsTo (host : QueryHost) (builder : ContextBuilder)
    (request : MemoryContextRequest) (c : Connection) :
    (contextLongTerm host builder request c).1.snapshot.BelongsTo host.toHost request.agentId := by
  unfold contextLongTerm selectLongTermMemory
  dsimp only
  split_ifs with hincluded hnone hquery hloaded hfound hloaded'
  · exact belongsTo_empty _ _
  · exact belongsTo_empty _ _
  · exact loadLongTermMemory_belongsTo (by simpa using hloaded)
  · exact belongsTo_empty _ _
  · exact belongsTo_empty _ _
  · have hbelongs := loadLongTermMemory_belongsTo (by simpa using hloaded')
    exact ⟨fun entity hentity => hbelongs.entities entity (List.mem_filter.mp hentity).1,
      fun relation hrelation => hbelongs.relations relation (List.mem_filter.mp hrelation).1⟩
  · exact belongsTo_empty _ _

end BelongsTo

section Payloads

theorem isInt_columnInt (n : ℤ) : isInt (columnInt n) = true := by
  rw [isInt_iff]
  exact bmod_two_pow_bounds n 31

theorem mem_choosePayloads {limit : ℤ} {terms : List Text} (rest : List MemoryPayloadRef)
    (seen : List Text) (chosen : List MemoryPayloadRef) {payload : MemoryPayloadRef}
    (h : payload ∈ choosePayloads limit terms seen chosen rest) :
    payload ∈ chosen ∨ payload ∈ rest := by
  induction rest generalizing seen chosen with
  | nil => exact .inl h
  | cons first rest ih =>
    have hskip : payload ∈ chosen ∨ payload ∈ rest → payload ∈ chosen ∨ payload ∈ first :: rest :=
      fun h => h.imp_right (List.mem_cons_of_mem _)
    have htake : payload ∈ chosen ++ [first] → payload ∈ chosen ∨ payload ∈ first :: rest := by
      intro h
      rcases List.mem_append.mp h with h | h
      · exact .inl h
      · exact .inr (List.mem_singleton.mp h ▸ List.mem_cons_self)
    unfold choosePayloads at h
    dsimp only at h
    split_ifs at h
    · exact hskip (ih _ _ h)
    · exact hskip (ih _ _ h)
    · exact htake h
    · rcases ih _ _ h with h | h
      · exact htake h
      · exact .inr (List.mem_cons_of_mem _ h)

theorem loadRecentPayloads_readsRows {host : QueryHost} {agentId sessionId : Text} {limit : Int32}
    {c : Connection} : ∀ payload ∈ (loadRecentPayloads host agentId sessionId limit c).1.payloads,
      ∃ r, payload = readPayloadRow r := by
  intro payload hpayload
  unfold loadRecentPayloads select at hpayload
  dsimp only at hpayload
  split at hpayload
  · obtain ⟨r, -, rfl⟩ := List.mem_map.mp hpayload
    exact ⟨r, rfl⟩
  · cases hpayload

/-- The payloads of a context are rows of the store. -/
theorem loadPayloadsForContext_readsRows {host : QueryHost} {builder : ContextBuilder}
    {request : MemoryContextRequest} {c : Connection} :
    ∀ payload ∈ (loadPayloadsForContext host builder request c).1.payloads,
      ∃ r, payload = readPayloadRow r := by
  intro payload hpayload
  unfold loadPayloadsForContext at hpayload
  dsimp only at hpayload
  split_ifs at hpayload
  · cases hpayload
  · exact loadRecentPayloads_readsRows payload hpayload
  · rcases mem_choosePayloads _ _ _ hpayload with h | h
    · cases h
    · exact loadRecentPayloads_readsRows payload h

end Payloads

section Encodable

variable {host : ContextHost} {builder : ContextBuilder} {request : MemoryContextRequest}
  {c : Connection}

theorem isObject_parseJsonSafely (host : Host) (text : Text) :
    (parseJsonSafely host text).isObject = true := by
  unfold parseJsonSafely
  split
  · split
    · assumption
    · rfl
  · rfl

theorem isObject_contextMetadata (builder : ContextBuilder) (request : MemoryContextRequest)
    (pkg : MemoryContextPackage) : (contextMetadata builder request pkg).isObject = true := by
  unfold contextMetadata
  dsimp only
  split <;> simp

theorem isObject_withPayloads {payloads : List MemoryPayloadRef} {pkg : MemoryContextPackage}
    (h : pkg.metadata.isObject = true) : (withPayloads payloads pkg).metadata.isObject = true := by
  unfold withPayloads
  split <;> simpa using h

theorem mem_withPayloads_payloadRefs {payloads : List MemoryPayloadRef}
    {pkg : MemoryContextPackage} {payload : MemoryPayloadRef}
    (h : payload ∈ (withPayloads payloads pkg).payloadRefs) :
    payload ∈ pkg.payloadRefs ∨ payload ∈ payloads := by
  unfold withPayloads at h
  split at h
  · exact .inl h
  · exact .inr h

/-- The records of a package that was built are those of its long-term section. -/
theorem BuiltFrom.belongsTo {pkg : MemoryContextPackage}
    (h : BuiltFrom host builder request c pkg) : LongTermMemorySnapshot.BelongsTo host.toHost
      request.agentId { entities := pkg.entities, relations := pkg.relations } := by
  have hbelongs := contextLongTerm_belongsTo host.toQueryHost builder request
    (contextMessages host.toHost builder request c).2
  rcases h.payloads with rfl | ⟨c', rfl⟩
  · exact ⟨hbelongs.entities, hbelongs.relations⟩
  · rw [withPayloads_entities, withPayloads_relations]
    exact ⟨hbelongs.entities, hbelongs.relations⟩

theorem BuiltFrom.encodable {pkg : MemoryContextPackage}
    (h : BuiltFrom host builder request c pkg) : pkg.Encodable := by
  have hbelongs := h.belongsTo
  have hmetadata := isObject_contextMetadata builder request
  refine ⟨?_, ?_, ?_, ?_⟩
  · rcases h.payloads with rfl | ⟨c', rfl⟩
    · exact hmetadata _
    · exact isObject_withPayloads (hmetadata _)
  · intro entity hentity
    obtain ⟨r, rfl, -⟩ := hbelongs.entities entity hentity
    exact isObject_parseJsonSafely _ _
  · intro relation hrelation
    obtain ⟨r, rfl, -⟩ := hbelongs.relations relation hrelation
    exact isObject_parseJsonSafely _ _
  · intro payload hpayload
    rcases h.payloads with rfl | ⟨c', rfl⟩
    · cases hpayload
    · rcases mem_withPayloads_payloadRefs hpayload with hpayload | hpayload
      · cases hpayload
      · obtain ⟨r, rfl⟩ := loadPayloadsForContext_readsRows payload hpayload
        exact ⟨isInt_columnInt _, rfl⟩

/-- The package of a call that fails is empty. -/
theorem buildContext_belongsTo (host : ContextHost) (builder : ContextBuilder)
    (request : MemoryContextRequest) (c : Connection) :
    LongTermMemorySnapshot.BelongsTo host.toHost request.agentId {
        entities := (buildContext host builder request c).1.context.entities
        relations := (buildContext host builder request c).1.context.relations } ∧
      (buildContext host builder request c).1.context.Encodable := by
  rcases buildContext_cases host builder request c with ⟨-, hempty⟩ | ⟨-, hbuilt⟩
  · rw [hempty]
    exact ⟨belongsTo_empty _ _, rfl, by simp, by simp, by simp⟩
  · exact ⟨hbuilt.belongsTo, hbuilt.encodable⟩

end Encodable

/-! ## The round trip -/

theorem map_eq_self_iff {α : Type} {f : α → α} {xs : List α} :
    xs.map f = xs ↔ ∀ x ∈ xs, f x = x := by
  have hid : xs.map f = xs ↔ xs.map f = xs.map id := by rw [List.map_id]
  rw [hid]
  exact List.map_inj_left

theorem readEntityRow_transmitted {host : Host} {agentId : Text} {r : Rowid × EntityRow}
    (h : r.2.agentId = bindText agentId) :
    (readEntityRow host r).transmitted = readEntityRow host r ↔ cStr agentId = [] := by
  have hagent : (readEntityRow host r).agentId = cStr agentId := by
    rw [← columnText_bindText, ← h]
    rfl
  rw [← hagent]
  constructor
  · intro heq
    exact (congrArg MemoryEntity.agentId heq).symm
  · intro hempty
    simp only [readEntityRow] at hempty
    simp only [MemoryEntity.transmitted, readEntityRow, hempty]

theorem readRelationRow_transmitted {host : Host} {agentId : Text} {r : Rowid × RelationRow}
    (h : r.2.agentId = bindText agentId) :
    (readRelationRow host r).transmitted = readRelationRow host r ↔ cStr agentId = [] := by
  have hagent : (readRelationRow host r).agentId = cStr agentId := by
    rw [← columnText_bindText, ← h]
    rfl
  rw [← hagent]
  constructor
  · intro heq
    exact (congrArg MemoryRelation.agentId heq).symm
  · intro hempty
    unfold MemoryRelation.transmitted
    rw [← hempty]

/-- The records of an agent come back as they were just when there are none, or the agent has no
name. -/
theorem LongTermMemorySnapshot.BelongsTo.transmitted_iff {host : Host} {agentId : Text}
    {snapshot : LongTermMemorySnapshot} (h : snapshot.BelongsTo host agentId) :
    (snapshot.entities.map MemoryEntity.transmitted = snapshot.entities ∧
        snapshot.relations.map MemoryRelation.transmitted = snapshot.relations) ↔
      cStr agentId = [] ∨ (snapshot.entities = [] ∧ snapshot.relations = []) := by
  constructor
  · rintro ⟨hentities, hrelations⟩
    by_cases hempty : cStr agentId = []
    · exact .inl hempty
    · refine .inr ⟨?_, ?_⟩
      · by_contra hne
        obtain ⟨entity, hentity⟩ := List.exists_mem_of_ne_nil _ hne
        obtain ⟨r, rfl, hr⟩ := h.entities entity hentity
        have heq := (map_eq_self_iff.mp hentities) _ hentity
        exact hempty ((readEntityRow_transmitted hr).mp heq)
      · by_contra hne
        obtain ⟨relation, hrelation⟩ := List.exists_mem_of_ne_nil _ hne
        obtain ⟨r, rfl, hr⟩ := h.relations relation hrelation
        have heq := (map_eq_self_iff.mp hrelations) _ hrelation
        exact hempty ((readRelationRow_transmitted hr).mp heq)
  · rintro (hempty | ⟨hentities, hrelations⟩)
    · refine ⟨map_eq_self_iff.mpr fun entity hentity => ?_,
        map_eq_self_iff.mpr fun relation hrelation => ?_⟩
      · obtain ⟨r, rfl, hr⟩ := h.entities entity hentity
        exact (readEntityRow_transmitted hr).mpr hempty
      · obtain ⟨r, rfl, hr⟩ := h.relations relation hrelation
        exact (readRelationRow_transmitted hr).mpr hempty
    · rw [hentities, hrelations]
      exact ⟨rfl, rfl⟩

/-- A package that `BuildContext` returns survives the wire just when it holds no record of a
named agent. -/
theorem buildContext_wire_iff (host : ContextHost) (builder : ContextBuilder)
    (request : MemoryContextRequest) (c : Connection) :
    contextPackageFromJson (contextPackageToJson host.printFloat
          (buildContext host builder request c).1.context) =
        (buildContext host builder request c).1.context ↔
      cStr request.agentId = [] ∨
        ((buildContext host builder request c).1.context.entities = [] ∧
          (buildContext host builder request c).1.context.relations = []) := by
  obtain ⟨hbelongs, hencodable⟩ := buildContext_belongsTo host builder request c
  rw [contextPackageFromJson_contextPackageToJson host.printFloat hencodable]
  refine Iff.trans ?_ hbelongs.transmitted_iff
  constructor
  · intro heq
    exact ⟨congrArg MemoryContextPackage.entities heq, congrArg MemoryContextPackage.relations heq⟩
  · rintro ⟨hentities, hrelations⟩
    dsimp only at hentities hrelations
    rw [hentities, hrelations]

/-- The newest entities of `alice`. -/
def aliceRequest : MemoryContextRequest where
  agentId := ascii "alice"

/-- An entity loses its agent. -/
theorem buildContext_agent_lost :
    ∃ (host : ContextHost) (builder : ContextBuilder) (request : MemoryContextRequest)
      (c : Connection), (buildContext host builder request c).1.succeeded = true ∧
        contextPackageFromJson (contextPackageToJson host.printFloat
            (buildContext host builder request c).1.context) ≠
          (buildContext host builder request c).1.context := by
  refine ⟨.plain, {}, aliceRequest,
    twoEntities (ascii "2024-01-01 00:00:00") (ascii "2024-01-02 00:00:00"), by decide +kernel,
    fun heq => ?_⟩
  have hagents := congrArg (fun pkg => pkg.entities.map (·.agentId)) heq
  exact absurd hagents (by decide +kernel)

end AgentMemory
