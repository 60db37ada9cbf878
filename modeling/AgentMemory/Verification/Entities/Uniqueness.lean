import AgentMemory.Verification.Entities.Rows
import AgentMemory.Verification.Transactions.Runs

/-! # Active entities are unique, and the last writer wins

No constraint of the schema keeps two active rows apart that agree in agent, type and name. It is
the duplicate marking of every save that does, and it leaves the saved row as the active one. The
texts that name entities are cut off at their first NUL byte, and only with such texts does one
save take the place of another that it has nothing to do with. -/

namespace AgentMemory

open Foundation

/-- At most one active row for each agent, type and name. -/
def Database.ActiveEntitiesUnique (db : Database) : Prop :=
  ∀ r ∈ db.entityRows, ∀ r' ∈ db.entityRows, r.2.active = true → r'.2.active = true →
    r.2.key = r'.2.key → r = r'

/-- Some row holds exactly these values. -/
def Database.HoldsEntity (db : Database) (v : EntityValues) : Prop :=
  ∃ r ∈ db.entityRows, r.2.toEntityValues = v

/-! ## One statement -/

theorem isDuplicateOf_iff {id agentId entityType name : SqlText} {r : EntityRow} :
    r.isDuplicateOf id agentId entityType name = true ↔
      r.key = (agentId, entityType, name) ∧ r.id ≠ id ∧ r.active = true := by
  simp [EntityRow.isDuplicateOf, EntityValues.key, and_assoc]

section Statements

variable {p : EntityRow → Bool} {now : Text} {supersededBy : SqlText} {v : EntityValues}
  {db db' : Database}

theorem ActiveEntitiesUnique.retire (h : db.ActiveEntitiesUnique) :
    (db.updateEntities p (EntityRow.obsolete now supersededBy)).ActiveEntitiesUnique := by
  intro r hr r' hr' hactive hactive' hkey
  exact h r (mem_retire_of_active hr hactive).1 r' (mem_retire_of_active hr' hactive').1
    hactive hactive' hkey

theorem ActiveEntitiesUnique.upsert (heffect : (Write.upsertEntity v).effect now db = some db')
    (hids : db'.EntityIdsUnique) (h : db.ActiveEntitiesUnique)
    (hkey : ∀ r ∈ db.entityRows, r.2.active = true → r.2.key = v.key → r.2.id = v.id) :
    db'.ActiveEntitiesUnique := by
  have hv : ∀ r : Rowid × EntityRow, r.2.toEntityValues = v → r.2.key = v.key ∧ r.2.id = v.id := by
    rintro r rfl
    exact ⟨rfl, rfl⟩
  intro r hr r' hr' hactive hactive' heq
  rcases mem_upsert_cases heffect hr with ⟨hmem, hne⟩ | hrv
  · rcases mem_upsert_cases heffect hr' with ⟨hmem', -⟩ | hrv'
    · exact h r hmem r' hmem' hactive hactive' heq
    · exact absurd (hkey r hmem hactive (heq.trans (hv r' hrv').1)) hne
  · rcases mem_upsert_cases heffect hr' with ⟨hmem', hne'⟩ | hrv'
    · exact absurd (hkey r' hmem' hactive' (heq.symm.trans (hv r hrv).1)) hne'
    · exact hids.eq hr hr' ((hv r hrv).2.trans (hv r' hrv').2.symm)

theorem HoldsEntity.retire (h : db.HoldsEntity v)
    (hp : ∀ r : EntityRow, r.toEntityValues = v → p r = false) :
    (db.updateEntities p (EntityRow.obsolete now supersededBy)).HoldsEntity v := by
  obtain ⟨r, hr, hrv⟩ := h
  exact ⟨r, mem_retire_of_mem hr (hp r.2 hrv), hrv⟩

theorem HoldsEntity.upsert {v' : EntityValues}
    (heffect : (Write.upsertEntity v').effect now db = some db') (h : db.HoldsEntity v)
    (hid : v.id ≠ v'.id) : db'.HoldsEntity v := by
  obtain ⟨r, hr, hrv⟩ := h
  refine ⟨r, mem_upsert_of_mem heffect hr ?_, hrv⟩
  subst hrv
  exact hid

theorem HoldsEntity.of_entities_eq (h : db.HoldsEntity v) (heq : db'.entities = db.entities) :
    db'.HoldsEntity v := by
  unfold Database.HoldsEntity Database.entityRows at *
  rw [heq]
  exact h

/-- Every statement but an upsert at most retires entities. -/
theorem effect_unique_of_not_upsert {w : Write} (heffect : w.effect now db = some db')
    (hw : ∀ v, w ≠ .upsertEntity v) (h : db.EntityIdsUnique ∧ db.ActiveEntitiesUnique) :
    db'.EntityIdsUnique ∧ db'.ActiveEntitiesUnique := by
  by_cases hwrites : w.table = some .entities
  · cases w with
    | markDuplicateEntities id agentId entityType name =>
        cases heffect
        exact ⟨EntityIdsUnique.retire h.1, ActiveEntitiesUnique.retire h.2⟩
    | markEntityObsolete entityId supersededBy =>
        cases heffect
        exact ⟨EntityIdsUnique.retire h.1, ActiveEntitiesUnique.retire h.2⟩
    | upsertEntity v => exact absurd rfl (hw v)
    | _ => cases hwrites
  · have heq := (Write.effect_sameExcept heffect).entities hwrites
    unfold Database.EntityIdsUnique Database.ActiveEntitiesUnique Database.entityRows at *
    rw [heq]
    exact h

/-- The statement leaves a row with these values as it is. -/
def Write.Spares (v : EntityValues) : Write → Prop
  | .markDuplicateEntities id agentId entityType name =>
      v.key ≠ (agentId, entityType, name) ∨ v.id = id
  | .upsertEntity v' => v.id ≠ v'.id
  | .markEntityObsolete entityId _ => v.id ≠ entityId
  | _ => True

theorem HoldsEntity.effect {w : Write} (heffect : w.effect now db = some db') (hw : w.Spares v)
    (h : db.HoldsEntity v) : db'.HoldsEntity v := by
  by_cases hwrites : w.table = some .entities
  · cases w with
    | markDuplicateEntities id agentId entityType name =>
        cases heffect
        refine HoldsEntity.retire h ?_
        rintro r rfl
        rw [Bool.eq_false_iff, Ne, isDuplicateOf_iff]
        rintro ⟨hkey, hid, -⟩
        exact hw.elim (fun hne => hne hkey) hid
    | markEntityObsolete entityId supersededBy =>
        cases heffect
        refine HoldsEntity.retire h ?_
        rintro r rfl
        have hne : r.id ≠ entityId := hw
        simpa using hne
    | upsertEntity v' => exact HoldsEntity.upsert heffect h hw
    | _ => cases hwrites
  · exact HoldsEntity.of_entities_eq h
      ((Write.effect_sameExcept heffect).entities hwrites)

end Statements

/-! ## Operations -/

/-- The values for which at most one entity shall be active. -/
def MemoryEntity.key (entity : MemoryEntity) : Text × Text × Text :=
  (entity.agentId, entity.entityType, entity.name)

/-- The key of the row of an entity. -/
def MemoryEntity.boundKey (entity : MemoryEntity) : EntityKey :=
  (bindText entity.agentId, bindText entity.entityType, bindText entity.name)

/-- The operation names the entity with this id as superseded. -/
def TransactionOp.supersedes (id : Text) : TransactionOp → Bool
  | .saveEntity entity => !entity.supersededEntityId.isEmpty && entity.supersededEntityId == id
  | .saveRelation relation =>
      relation.relationType == ascii "supersedes" && relation.toEntityId == id
  | .markEntityObsolete entityId _ => entityId == id
  | _ => false

/-- The operation retires the row with this id as superseded. -/
def TransactionOp.retires (id : SqlText) : TransactionOp → Bool
  | .saveEntity entity =>
      !entity.supersededEntityId.isEmpty && bindText entity.supersededEntityId == id
  | .saveRelation relation =>
      relation.relationType == ascii "supersedes" && bindText relation.toEntityId == id
  | .markEntityObsolete entityId _ => bindText entityId == id
  | _ => false

/-- A saved entity has an id and a key. -/
def TransactionOp.IsKeyed : TransactionOp → Prop
  | .saveEntity entity =>
      entity.id ≠ [] ∧ entity.agentId ≠ [] ∧ entity.entityType ≠ [] ∧ entity.name ≠ []
  | _ => True

/-- The id and the key of a saved entity are bound as they are, and no id that the operation
retires is cut off. -/
def TransactionOp.NamesWhole : TransactionOp → Prop
  | .saveEntity entity =>
      (∀ s ∈ [entity.id, entity.agentId, entity.entityType, entity.name],
        0 ∉ s ∧ s.length ≤ maxTextLength) ∧ 0 ∉ entity.supersededEntityId
  | .saveRelation relation =>
      relation.relationType = ascii "supersedes" → 0 ∉ relation.toEntityId
  | .markEntityObsolete entityId _ => 0 ∉ entityId
  | _ => True

/-- The entity is stored as it was saved. -/
def MemoryEntity.IsStoredIn (entity : MemoryEntity) (db : Database) : Prop :=
  ∃ refsStr metadataStr, serializeSourceRefs entity.sourceRefs = .ok refsStr ∧
    entity.storedMetadata.dump = .ok metadataStr ∧
    db.HoldsEntity (entity.values refsStr metadataStr)

/-- An active row holds the entity, under its id and its key. -/
def MemoryEntity.IsActiveIn (entity : MemoryEntity) (db : Database) : Prop :=
  ∃ r ∈ db.entityRows, r.2.active = true ∧ columnText r.2.id = entity.id ∧
    (columnText r.2.agentId, columnText r.2.entityType, columnText r.2.name) = entity.key ∧
    ∃ refsStr metadataStr, serializeSourceRefs entity.sourceRefs = .ok refsStr ∧
      entity.storedMetadata.dump = .ok metadataStr ∧
      r.2.toEntityValues = entity.values refsStr metadataStr

/-- A saved entity is the last one of its key, was saved as active, and neither this save nor a
later operation supersedes it or moves its id to another key. -/
structure MemoryEntity.Stands (entity : MemoryEntity) (later : List TransactionOp) : Prop where
  active : entity.isActive = true
  latest : ∀ other, .saveEntity other ∈ later → other.key ≠ entity.key
  notSuperseded : ∀ op ∈ .saveEntity entity :: later, op.supersedes entity.id = false
  notMoved : ∀ other, .saveEntity other ∈ later → other.id = entity.id → other.key = entity.key

/-- The entities that stand are stored. -/
structure EntitiesFollow (saves : List TransactionOp) (db : Database) : Prop where
  namesWhole : ∀ op ∈ saves, op.NamesWhole
  lastSaved : ∀ before entity later, saves = before ++ .saveEntity entity :: later →
    entity.Stands later → entity.IsStoredIn db

theorem entitiesFollow_empty : EntitiesFollow [] .empty where
  namesWhole := by
    intro op hop
    cases hop
  lastSaved := by
    intro before entity later h
    simp at h

/-! ### Texts that are bound as they are -/

section Names

variable {entity other : MemoryEntity} {op : TransactionOp}

theorem boundKey_inj (h : (TransactionOp.saveEntity entity).NamesWhole)
    (h' : (TransactionOp.saveEntity other).NamesWhole) :
    other.boundKey = entity.boundKey ↔ other.key = entity.key := by
  obtain ⟨hwhole, -⟩ := h
  obtain ⟨hwhole', -⟩ := h'
  simp only [List.forall_mem_cons] at hwhole hwhole'
  unfold MemoryEntity.boundKey MemoryEntity.key
  simp only [Prod.mk.injEq, bindText_injOn hwhole'.2.1.1 hwhole.2.1.1,
    bindText_injOn hwhole'.2.2.1.1 hwhole.2.2.1.1,
    bindText_injOn hwhole'.2.2.2.1.1 hwhole.2.2.2.1.1]

theorem boundId_inj (h : (TransactionOp.saveEntity entity).NamesWhole)
    (h' : (TransactionOp.saveEntity other).NamesWhole) :
    bindText other.id = bindText entity.id ↔ other.id = entity.id :=
  bindText_injOn (h'.1 _ List.mem_cons_self).1 (h.1 _ List.mem_cons_self).1

/-- An operation retires no row but those of the entities it supersedes. -/
theorem retires_eq_supersedes (h : op.NamesWhole) {id : Text} (hid : 0 ∉ id) :
    op.retires (bindText id) = op.supersedes id := by
  cases op with
  | saveSummary => rfl
  | saveConsolidationCursor => rfl
  | saveEntity entity =>
      simp only [TransactionOp.retires, TransactionOp.supersedes]
      rw [Bool.eq_iff_iff]
      simp [bindText_injOn h.2 hid]
  | saveRelation relation =>
      simp only [TransactionOp.retires, TransactionOp.supersedes]
      rw [Bool.eq_iff_iff]
      simp only [Bool.and_eq_true, beq_iff_eq]
      exact and_congr_right fun htype => bindText_injOn (h htype) hid
  | markEntityObsolete entityId supersededBy =>
      simp only [TransactionOp.retires, TransactionOp.supersedes]
      rw [Bool.eq_iff_iff]
      simp [bindText_injOn h hid]

/-- The row of an entity stored with such texts carries its id and its key. -/
theorem isActiveIn_of_isStoredIn (h : (TransactionOp.saveEntity entity).NamesWhole)
    (hactive : entity.isActive = true) {db : Database} (hstored : entity.IsStoredIn db) :
    entity.IsActiveIn db := by
  obtain ⟨refsStr, metadataStr, hrefs, hmetadata, r, hr, hvalues⟩ := hstored
  obtain ⟨hwhole, -⟩ := h
  simp only [List.forall_mem_cons] at hwhole
  have hfields : r.2.active = entity.isActive ∧ r.2.id = bindText entity.id ∧
      r.2.agentId = bindText entity.agentId ∧ r.2.entityType = bindText entity.entityType ∧
      r.2.name = bindText entity.name := by
    refine ⟨?_, ?_, ?_, ?_, ?_⟩ <;> exact congrArg _ hvalues
  refine ⟨r, hr, ?_, ?_, ?_, refsStr, metadataStr, hrefs, hmetadata, hvalues⟩
  · rw [hfields.1, hactive]
  · rw [hfields.2.1, columnText_bindText, cStr_eq_self hwhole.1.1]
  · obtain ⟨-, -, hagent, htype, hname⟩ := hfields
    rw [hagent, htype, hname, columnText_bindText, columnText_bindText, columnText_bindText,
      cStr_eq_self hwhole.2.1.1, cStr_eq_self hwhole.2.2.1.1, cStr_eq_self hwhole.2.2.2.1.1]
    rfl

end Names

section Operations

variable {host : Host} {db db' : Database}

/-- Only a save of an entity upserts. -/
theorem statements_not_upsert {op : TransactionOp} {ws : List Write} (h : op.statements = .ok ws)
    (hop : ∀ entity, op ≠ .saveEntity entity) : ∀ w ∈ ws, ∀ v, w ≠ .upsertEntity v := by
  cases op with
  | saveEntity entity => exact absurd rfl (hop entity)
  | saveSummary agentId sessionId level topic summary confidence sourceRefs =>
      obtain ⟨refsStr, -, rfl⟩ := saveSummary_statements h
      simp
  | saveRelation relation =>
      obtain ⟨refsStr, metadataStr, -, -, rfl⟩ := saveRelation_statements h
      simp only [List.mem_cons]
      rintro w (rfl | rfl | hw) v
      · simp
      · simp
      · rw [(mem_relation_supersession hw).2]
        simp
  | markEntityObsolete entityId supersededBy =>
      cases h
      simp
  | saveConsolidationCursor agentId sessionId cursor =>
      cases h
      simp

/-- After the duplicate marking, an active row of the entity's key has its id. -/
theorem applied_duplicateMarking {entity : MemoryEntity}
    (hkeyed : (TransactionOp.saveEntity entity).IsKeyed)
    (h : Session.Applied host.engine entity.duplicateMarking db db') :
    ∀ r ∈ db'.entityRows, r.2.active = true → r.2.key = entity.boundKey →
      r.2.id = bindText entity.id := by
  obtain ⟨hid, hagent, htype, hname⟩ := hkeyed
  have hmarking : entity.duplicateMarking = [.markDuplicateEntities (bindText entity.id)
      (bindText entity.agentId) (bindText entity.entityType) (bindText entity.name)] := by
    simp [MemoryEntity.duplicateMarking, hid, hagent, htype, hname]
  rw [hmarking] at h
  obtain ⟨n, d, heffect, hrest⟩ := Session.applied_cons h
  cases hrest
  cases heffect
  intro r hr hactive hkey
  have hnot := (mem_retire_of_active hr hactive).2
  rw [Bool.eq_false_iff, Ne, isDuplicateOf_iff] at hnot
  by_contra hne
  exact hnot ⟨hkey, hne, hactive⟩

/-- A successful operation keeps ids unique and active entities unique. -/
theorem applied_unique {op : TransactionOp} (hkeyed : op.IsKeyed) {ws : List Write}
    (hws : op.statements = .ok ws) (happlied : Session.Applied host.engine ws db db')
    (h : db.EntityIdsUnique ∧ db.ActiveEntitiesUnique) :
    db'.EntityIdsUnique ∧ db'.ActiveEntitiesUnique := by
  have hstep : ∀ n w d d', (∀ v, w ≠ .upsertEntity v) → host.engine.effect n w d = some d' →
      d.EntityIdsUnique ∧ d.ActiveEntitiesUnique → d'.EntityIdsUnique ∧ d'.ActiveEntitiesUnique :=
    fun n w d d' hw heffect hd => effect_unique_of_not_upsert heffect hw hd
  by_cases hop : ∃ entity, op = .saveEntity entity
  · obtain ⟨entity, rfl⟩ := hop
    obtain ⟨refsStr, metadataStr, -, -, rfl⟩ := saveEntity_statements hws
    obtain ⟨d₁, hdup, hrest⟩ := Session.applied_append happlied
    obtain ⟨n, d₂, hupsert, hsuper⟩ := Session.applied_cons hrest
    have h₁ := hdup.invariant hstep (fun w hw v => by
      rw [mem_duplicateMarking hw]
      simp) h
    have hids : d₂.EntityIdsUnique := EntityIdsUnique.upsert hupsert h₁.1
    have h₂ : d₂.ActiveEntitiesUnique := ActiveEntitiesUnique.upsert hupsert hids h₁.2
      (applied_duplicateMarking hkeyed hdup)
    exact hsuper.invariant hstep (fun w hw v => by
      rw [(mem_entity_supersession hw).2]
      simp) ⟨hids, h₂⟩
  · exact happlied.invariant hstep
      (statements_not_upsert hws fun entity heq => hop ⟨entity, heq⟩) h

/-- An operation that neither retires a row, nor saves its id or its key, spares it. -/
theorem statements_spare {op : TransactionOp} {ws : List Write} (hws : op.statements = .ok ws)
    {v : EntityValues} (hsuper : op.retires v.id = false)
    (hsave : ∀ entity, op = .saveEntity entity →
      entity.boundKey ≠ v.key ∧ bindText entity.id ≠ v.id) :
    ∀ w ∈ ws, w.Spares v := by
  cases op with
  | saveSummary agentId sessionId level topic summary confidence sourceRefs =>
      obtain ⟨refsStr, -, rfl⟩ := saveSummary_statements hws
      simp [Write.Spares]
  | saveEntity entity =>
      obtain ⟨hkey, hid⟩ := hsave entity rfl
      obtain ⟨refsStr, metadataStr, -, -, rfl⟩ := saveEntity_statements hws
      intro w hw
      rw [List.mem_append, List.mem_cons] at hw
      rcases hw with hw | rfl | hw
      · rw [mem_duplicateMarking hw]
        exact .inl hkey.symm
      · exact hid.symm
      · obtain ⟨hne, rfl⟩ := mem_entity_supersession hw
        intro heq
        simp [TransactionOp.retires, hne, heq] at hsuper
  | saveRelation relation =>
      obtain ⟨refsStr, metadataStr, -, -, rfl⟩ := saveRelation_statements hws
      intro w hw
      rw [List.mem_cons, List.mem_cons] at hw
      rcases hw with rfl | rfl | hw
      · trivial
      · trivial
      · obtain ⟨htype, rfl⟩ := mem_relation_supersession hw
        intro heq
        simp [TransactionOp.retires, htype, heq] at hsuper
  | markEntityObsolete entityId supersededBy =>
      cases hws
      intro w hw
      rw [List.mem_singleton.mp hw]
      intro heq
      simp [TransactionOp.retires, heq] at hsuper
  | saveConsolidationCursor agentId sessionId cursor =>
      cases hws
      simp [Write.Spares]

theorem applied_holdsEntity {ws : List Write} {v : EntityValues} (hws : ∀ w ∈ ws, w.Spares v)
    (happlied : Session.Applied host.engine ws db db') (h : db.HoldsEntity v) :
    db'.HoldsEntity v :=
  happlied.invariant (P := Write.Spares v) (I := fun d => d.HoldsEntity v)
    (fun _ _ _ _ hw heffect hd => HoldsEntity.effect heffect hw hd) hws h

/-- A save that does not supersede its own entity leaves the entity stored. -/
theorem applied_isStoredIn {entity : MemoryEntity} {ws : List Write}
    (hws : (TransactionOp.saveEntity entity).statements = .ok ws)
    (hsuper : (TransactionOp.saveEntity entity).retires (bindText entity.id) = false)
    (happlied : Session.Applied host.engine ws db db') : entity.IsStoredIn db' := by
  obtain ⟨refsStr, metadataStr, hrefs, hmeta, rfl⟩ := saveEntity_statements hws
  obtain ⟨d₁, -, hrest⟩ := Session.applied_append happlied
  obtain ⟨n, d₂, hupsert, hrest⟩ := Session.applied_cons hrest
  refine ⟨refsStr, metadataStr, hrefs, hmeta, ?_⟩
  refine applied_holdsEntity ?_ hrest (exists_mem_upsert hupsert)
  intro w hw
  obtain ⟨hne, rfl⟩ := mem_entity_supersession hw
  intro heq
  have heq' : bindText entity.id = bindText entity.supersededEntityId := heq
  simp [TransactionOp.retires, hne, heq'] at hsuper

theorem EntitiesFollow.operation {saves : List TransactionOp} {op : TransactionOp}
    (hwhole : op.NamesWhole) {ws : List Write} (hws : op.statements = .ok ws)
    (happlied : Session.Applied host.engine ws db db') (h : EntitiesFollow saves db) :
    EntitiesFollow (saves ++ [op]) db' := by
  have hall : ∀ op' ∈ saves ++ [op], op'.NamesWhole := by
    intro op' hop'
    rcases List.mem_append.mp hop' with hop' | hop'
    · exact h.namesWhole op' hop'
    · rw [List.mem_singleton.mp hop']
      exact hwhole
  refine ⟨hall, ?_⟩
  intro before entity later hsaves hstands
  have hentity : (TransactionOp.saveEntity entity).NamesWhole :=
    hall _ (by rw [hsaves]; simp)
  have hid : 0 ∉ entity.id := (hentity.1 _ List.mem_cons_self).1
  rcases List.eq_nil_or_concat later with rfl | ⟨later, last, rfl⟩
  · obtain ⟨-, hop⟩ := List.append_inj' hsaves rfl
    rw [List.singleton_inj] at hop
    subst hop
    refine applied_isStoredIn hws ?_ happlied
    rw [retires_eq_supersedes hentity hid]
    exact hstands.notSuperseded _ List.mem_cons_self
  · rw [List.concat_eq_append, ← List.cons_append, ← List.append_assoc] at hsaves
    obtain ⟨hbefore, hop⟩ := List.append_inj' hsaves rfl
    rw [List.singleton_inj] at hop
    subst hop
    have hlast : op ∈ later.concat op := by simp
    have hmem : ∀ op' ∈ later, op' ∈ later.concat op := by
      intro op' hop'
      simp [hop']
    have hstands' : entity.Stands later := {
      active := hstands.active
      latest := fun other hother => hstands.latest other (hmem _ hother)
      notSuperseded := by
        intro op' hop'
        rcases List.mem_cons.mp hop' with rfl | hop'
        · exact hstands.notSuperseded _ List.mem_cons_self
        · exact hstands.notSuperseded _ (List.mem_cons_of_mem _ (hmem _ hop'))
      notMoved := fun other hother => hstands.notMoved other (hmem _ hother) }
    obtain ⟨refsStr, metadataStr, hrefs, hmeta, hheld⟩ :=
      h.lastSaved before entity later hbefore hstands'
    refine ⟨refsStr, metadataStr, hrefs, hmeta, applied_holdsEntity ?_ happlied hheld⟩
    refine statements_spare hws ?_ ?_
    · change op.retires (bindText entity.id) = false
      rw [retires_eq_supersedes hwhole hid]
      exact hstands.notSuperseded _ (List.mem_cons_of_mem _ hlast)
    · rintro other rfl
      have hkey := hstands.latest other hlast
      constructor
      · exact fun heq => hkey ((boundKey_inj hentity hwhole).mp heq)
      · exact fun heq => hkey (hstands.notMoved other hlast ((boundId_inj hentity hwhole).mp heq))

end Operations

/-! ## Whole runs -/

/-- At most one entity is active for each agent, type and name, and the last one saved under a key
is the active one, unless it was saved inactive, superseded or moved to another key. -/
structure Ledger.LastEntitiesActive (l : Ledger) : Prop where
  unique : l.connection.current.ActiveEntitiesUnique
  lastSaved : ∀ before entity later, l.saves = before ++ .saveEntity entity :: later →
    entity.Stands later → entity.IsActiveIn l.connection.current

/-- Whatever texts the operations name entities by, active entities are unique. -/
theorem Ledger.activeUnique_of_run {host : Host} {l : Ledger}
    (h : Relation.ReflTransGen (OperationStep host fun _ op => op.IsKeyed) .start l) :
    l.connection.current.ActiveEntitiesUnique := by
  have hkeeps := Ledger.keeps_of_run
    (I := fun _ db => db.EntityIdsUnique ∧ db.ActiveEntitiesUnique)
    (fun _ _ _ _ _ hkeyed hunique hws happlied => applied_unique hkeyed hws happlied hunique)
    ⟨.nil, fun r hr => by cases hr⟩ h
  exact hkeeps.current.2

/-- Along every run of operations whose names are bound as they are, the last entity saved under a
key is the active one. -/
theorem run_activeEntities (host : Host) (l : Ledger)
    (h : Relation.ReflTransGen (OperationStep host fun _ op => op.IsKeyed ∧ op.NamesWhole)
      .start l) : l.LastEntitiesActive := by
  have hkeeps := Ledger.keeps_of_run (I := EntitiesFollow)
    (fun _ _ _ _ _ hadmits hfollow hws happlied => hfollow.operation hadmits.2 hws happlied)
    entitiesFollow_empty h
  have hkeyed : Relation.ReflTransGen (OperationStep host fun _ op => op.IsKeyed) .start l :=
    Relation.ReflTransGen.mono (fun _ _ hstep => hstep.mono fun _ _ hop => hop.1) _ _ h
  refine ⟨Ledger.activeUnique_of_run hkeyed, ?_⟩
  intro before entity later hsaves hstands
  have hwhole : (TransactionOp.saveEntity entity).NamesWhole :=
    hkeeps.current.namesWhole _ (by rw [hsaves]; simp)
  exact isActiveIn_of_isStoredIn hwhole hstands.active
    (hkeeps.current.lastSaved before entity later hsaves hstands)

/-- An entity of one agent and type. -/
def plainEntity (id name : Text) : MemoryEntity :=
  { id, agentId := ascii "alice", entityType := ascii "topic", name }

/-- Two entities saved one after the other under one key: the second is the active one. -/
theorem run_activeEntities_two_saves :
    let first := plainEntity (ascii "e1") (ascii "api")
    let second := plainEntity (ascii "e2") (ascii "api")
    ∃ l, Relation.ReflTransGen
        (OperationStep .obliging fun _ op => op.IsKeyed ∧ op.NamesWhole) .start l ∧
      l.saves = [.saveEntity first, .saveEntity second] ∧
      l.connection.current.ActiveEntitiesUnique ∧ second.IsActiveIn l.connection.current ∧
      ¬first.IsActiveIn l.connection.current := by
  intro first second
  have hadmits : ∀ id ∈ ["e1", "e2"],
      (TransactionOp.saveEntity (plainEntity (ascii id) (ascii "api"))).IsKeyed ∧
        (TransactionOp.saveEntity (plainEntity (ascii id) (ascii "api"))).NamesWhole := by
    simp only [TransactionOp.IsKeyed, TransactionOp.NamesWhole]
    decide +kernel
  have hfirst : OperationStep .obliging (fun _ op => op.IsKeyed ∧ op.NamesWhole) .start _ :=
    .operation .start (.saveEntity first) (hadmits "e1" (by simp)) rfl
  have hrun := (Relation.ReflTransGen.single hfirst).tail
    (.operation _ (.saveEntity second) (hadmits "e2" (by simp)) rfl)
  obtain ⟨hunique, hlast⟩ := run_activeEntities .obliging _ hrun
  have hsecond := hlast [.saveEntity first] second [] rfl
    { active := rfl, latest := by simp, notSuperseded := by simp; decide, notMoved := by simp }
  refine ⟨_, hrun, rfl, hunique, hsecond, ?_⟩
  rintro ⟨r, hr, hactive, hid, hkey, -⟩
  obtain ⟨r', hr', hactive', hid', hkey', -⟩ := hsecond
  have hcolumns := hkey.trans hkey'.symm
  simp only [Prod.mk.injEq, columnText_injective.eq_iff] at hcolumns
  have heq : r = r' := hunique r hr r' hr' hactive hactive'
    (Prod.ext hcolumns.1 (Prod.ext hcolumns.2.1 hcolumns.2.2))
  rw [heq, hid'] at hid
  exact absurd hid (by decide)

/-- Two entities whose ids differ only after a NUL byte have one row between them, although their
keys differ. -/
theorem activeEntities_cut_off :
    let first := plainEntity (ascii "e" ++ 0 :: ascii "1") (ascii "api")
    let second := plainEntity (ascii "e" ++ 0 :: ascii "2") (ascii "design")
    ∃ l, Relation.ReflTransGen (OperationStep .obliging fun _ op => op.IsKeyed) .start l ∧
      l.saves = [.saveEntity first, .saveEntity second] ∧ first.Stands [.saveEntity second] ∧
      (∀ r ∈ l.connection.current.entityRows, columnText r.2.name ≠ first.name) ∧
      ¬l.LastEntitiesActive := by
  intro first second
  have hkeyed : (TransactionOp.saveEntity first).IsKeyed ∧
      (TransactionOp.saveEntity second).IsKeyed := by
    simp only [TransactionOp.IsKeyed]
    decide +kernel
  have hfirst : OperationStep .obliging (fun _ op => op.IsKeyed) .start _ :=
    .operation .start (.saveEntity first) hkeyed.1 rfl
  have hrun := (Relation.ReflTransGen.single hfirst).tail
    (.operation _ (.saveEntity second) hkeyed.2 rfl)
  have hstands : first.Stands [.saveEntity second] := {
    active := rfl
    latest := by
      rintro other hother
      cases List.mem_singleton.mp hother
      decide
    notSuperseded := by decide
    notMoved := by
      rintro other hother hid
      cases List.mem_singleton.mp hother
      exact absurd hid (by decide) }
  refine ⟨_, hrun, rfl, hstands, by decide +kernel, fun h => ?_⟩
  obtain ⟨r, hr, -, hid, -⟩ := h.lastSaved [] first [.saveEntity second] rfl hstands
  -- the columns of a row hold no NUL byte
  refine r.2.id.noNul ?_
  have hbytes : r.2.id.bytes = first.id := hid
  rw [hbytes]
  decide

end AgentMemory
