import AgentMemory.Verification.Entities.Rows

/-! # Entities and relations saved outside of a transaction

`SaveEntity` and `SaveRelation` of the store have no transaction of their own: each of their
statements stays in effect when a later one is refused. -/

namespace AgentMemory

open Foundation

/-- Both databases hold the same entity rows and the same relation rows. -/
structure SameFacts (db db' : Database) : Prop where
  entities : db'.entityRows = db.entityRows
  relations : db'.relations.rows = db.relations.rows

/-- When the operation is called on the store and returns a failure, the entity and relation
tables are as before, in the view of the connection and in what it leaves behind. -/
def FailsWithoutTrace (host : Host) (op : TransactionOp) (c : Connection) : Prop :=
  let outcome := op.storeMethod.runOn host c
  ∀ failure, outcome.1 = .ok failure → failure.succeeded = false →
    SameFacts c.current outcome.2.current ∧ SameFacts c.durable outcome.2.durable

/-- The statement finds a row to change in the entity or the relation table, or adds one. -/
def Write.Changes (now : Text) (db : Database) : Write → Prop
  | .markDuplicateEntities id agentId entityType name =>
      ∃ r ∈ db.entityRows, r.2.isDuplicateOf id agentId entityType name = true
  | .upsertEntity v =>
      (∀ r ∈ db.entityRows, r.2.id ≠ v.id) ∨
        ∃ r ∈ db.entityRows, r.2.id = v.id ∧ ¬(r.2.toEntityValues = v ∧ r.2.updatedAt = now)
  | .markEntityObsolete entityId supersededBy =>
      ∃ r ∈ db.entityRows, r.2.id = entityId ∧ r.2.obsolete now supersededBy ≠ r.2
  | .deactivateRelation fromEntity relation toEntity agentId =>
      ∃ r ∈ db.relations.rows, r.2.isLive fromEntity relation toEntity agentId = true
  | .insertRelation _ => True
  | _ => False

/-- As the `n`-th statement of the connection it is accepted on these tables. -/
def Host.AcceptsWrite (host : Host) (n : ℕ) (w : Write) (db : Database) : Prop :=
  (host.outcome n).accepted = true ∧ w.effect (host.outcome n).now db ≠ none

/-- One of the statements, the first of which is the `n`-th of the connection, is refused after
one that changes these tables; `changed` tells whether there is such a one already. -/
def Host.FailsMidway (host : Host) (db : Database) : ℕ → List Write → Prop → Prop
  | _, [], _ => False
  | n, w :: ws, changed =>
      (¬host.AcceptsWrite n w db ∧ changed) ∨
        (host.AcceptsWrite n w db ∧
          host.FailsMidway db (n + 1) ws (changed ∨ w.Changes (host.outcome n).now db))

namespace SameFacts

variable {db db' db'' : Database}

theorem refl (db : Database) : SameFacts db db :=
  ⟨rfl, rfl⟩

theorem trans (h : SameFacts db db') (h' : SameFacts db' db'') : SameFacts db db'' :=
  ⟨h'.entities.trans h.entities, h'.relations.trans h.relations⟩

theorem symm (h : SameFacts db db') : SameFacts db' db :=
  ⟨h.entities.symm, h.relations.symm⟩

theorem changes (h : SameFacts db db') {now : Text} {w : Write} :
    w.Changes now db' ↔ w.Changes now db := by
  unfold Write.Changes
  rw [h.entities, h.relations]

end SameFacts

/-! ## One statement -/

section Statements

variable {now : Text} {db db' : Database}

theorem sameFacts_updateEntities_iff {p : EntityRow → Bool} {f : EntityRow → EntityRow} :
    SameFacts db (db.updateEntities p f) ↔ ∀ r ∈ db.entityRows, p r.2 = true → f r.2 = r.2 := by
  constructor
  · intro h
    exact Table.update_rows_eq_iff.mp h.entities
  · intro h
    exact ⟨Table.update_rows_eq_iff.mpr h, rfl⟩

theorem sameFacts_updateRelations_iff {p : RelationRow → Bool} {f : RelationRow → RelationRow} :
    SameFacts db (db.updateRelations p f) ↔
      ∀ r ∈ db.relations.rows, p r.2 = true → f r.2 = r.2 := by
  constructor
  · intro h
    exact Table.update_rows_eq_iff.mp h.relations
  · intro h
    exact ⟨rfl, Table.update_rows_eq_iff.mpr h⟩

/-- An active row is never as it was once it is retired. -/
theorem obsolete_ne_of_active {supersededBy : SqlText} {r : EntityRow} (h : r.active = true) :
    r.obsolete now supersededBy ≠ r := by
  intro heq
  have hactive := congrArg (fun r : EntityRow => r.active) heq
  rw [obsolete_active, h] at hactive
  cases hactive

/-- An upsert writes a row as it is exactly when the row holds its values and time already. -/
theorem upserted_eq_iff {v : EntityValues} {r : EntityRow} :
    ({ v with createdAt := r.createdAt, updatedAt := now } : EntityRow) = r ↔
      r.toEntityValues = v ∧ r.updatedAt = now := by
  constructor
  · intro h
    exact ⟨congrArg EntityRow.toEntityValues h.symm, congrArg EntityRow.updatedAt h.symm⟩
  · rintro ⟨rfl, rfl⟩
    rfl

/-- Every statement that is accepted keeps the facts exactly when it finds nothing to change. -/
theorem sameFacts_effect_iff {w : Write} (h : w.effect now db = some db') :
    SameFacts db db' ↔ ¬w.Changes now db := by
  have hother (ht : w.table ≠ some .entities) (ht' : w.table ≠ some .relations) :
      SameFacts db db' := by
    have hsame := Write.effect_sameExcept h
    refine ⟨?_, ?_⟩
    · rw [Database.entityRows, hsame.entities ht, Database.entityRows]
    · rw [hsame.relations ht']
  cases w with
  | markDuplicateEntities id agentId entityType name =>
      cases h
      rw [sameFacts_updateEntities_iff]
      simp only [Write.Changes, not_exists, not_and]
      refine forall₂_congr fun r _ => ⟨fun hkeep hdup => ?_, fun hnone hdup => ?_⟩
      · have hactive : r.2.active = true := by
          simp only [EntityRow.isDuplicateOf, Bool.and_eq_true] at hdup
          exact hdup.2
        exact obsolete_ne_of_active hactive (hkeep hdup)
      · exact absurd hdup hnone
  | upsertEntity v =>
      simp only [Write.effect] at h
      split at h
      · next hany =>
          cases h
          rw [sameFacts_updateEntities_iff]
          simp only [List.any_eq_true, beq_iff_eq] at hany
          obtain ⟨q, hq, hid⟩ := hany
          constructor
          · rintro hkeep (hfresh | ⟨r, hr, hrid, hne⟩)
            · exact hfresh q hq hid
            · exact hne (upserted_eq_iff.mp (hkeep r hr (by simpa using hrid)))
          · intro hnot r hr hrid
            by_contra hne
            refine hnot (.inr ⟨r, hr, by simpa using hrid, ?_⟩)
            rwa [← upserted_eq_iff]
      · next hany =>
          obtain ⟨entities, hins, h⟩ := Option.bind_eq_some_iff.mp h
          cases h
          obtain ⟨i, -, hrows, -⟩ := IndexedTable.insert_eq_some _ hins
          refine ⟨fun hsame => ?_, fun hnot => ?_⟩
          · have hlength := congrArg List.length (hrows.symm.trans hsame.entities)
            simp [Database.entityRows, IndexedTable.rows] at hlength
          · refine absurd (.inl ?_) hnot
            simpa [Database.entityRows] using hany
  | markEntityObsolete entityId supersededBy =>
      cases h
      rw [sameFacts_updateEntities_iff]
      simp [Write.Changes]
  | deactivateRelation fromEntity relation toEntity agentId =>
      cases h
      rw [sameFacts_updateRelations_iff]
      simp only [Write.Changes, not_exists, not_and]
      refine forall₂_congr fun r _ => ⟨fun hkeep hlive => ?_, fun hnone hlive => ?_⟩
      · have hactive := congrArg RelationRow.active (hkeep hlive)
        simp only [RelationRow.isLive, Bool.and_eq_true] at hlive
        rw [hlive.1.2] at hactive
        cases hactive
      · exact absurd hlive hnone
  | insertRelation v =>
      obtain ⟨relations, hins, h⟩ := Option.bind_eq_some_iff.mp h
      cases h
      obtain ⟨i, -, hrows, -⟩ := IndexedTable.insert_eq_some _ hins
      refine ⟨fun hsame => ?_, fun hnot => absurd trivial hnot⟩
      have hlength := congrArg List.length (hrows.symm.trans hsame.relations)
      simp at hlength
  | prepare => exact ⟨fun _ => id, fun _ => hother (by simp [Write.table]) (by simp [Write.table])⟩
  | insertEvent v =>
      exact ⟨fun _ => id, fun _ => hother (by simp [Write.table]) (by simp [Write.table])⟩
  | upsertPayload v =>
      exact ⟨fun _ => id, fun _ => hother (by simp [Write.table]) (by simp [Write.table])⟩
  | insertSummary v =>
      exact ⟨fun _ => id, fun _ => hother (by simp [Write.table]) (by simp [Write.table])⟩
  | upsertCursor agentId sessionId cursor =>
      exact ⟨fun _ => id, fun _ => hother (by simp [Write.table]) (by simp [Write.table])⟩

end Statements

/-! ## Refused statements -/

section Refused

variable {host : Host} {db : Database}

/-- If the statements are refused at some point, the tables still hold the facts of `db`. -/
def RefusedWithoutTrace (host : Host) (db : Database) (ws : List Write) (c : Connection) : Prop :=
  ∀ message, ((executeAll ws).runOn host c).1 = .ok (.error message) →
    SameFacts db ((executeAll ws).runOn host c).2.current

theorem run_executeAll_cons (host : Host) (w : Write) (ws : List Write) (c : Connection) :
    (∃ db', host.AcceptsWrite c.clock w c.current ∧
      w.effect (host.outcome c.clock).now c.current = some db' ∧
      (executeAll (w :: ws)).runOn host c =
        (executeAll ws).runOn host { c with current := db', clock := c.clock + 1 }) ∨
    (¬host.AcceptsWrite c.clock w c.current ∧ (executeAll (w :: ws)).runOn host c =
      (.ok (.error (host.outcome c.clock).errmsg), { c with clock := c.clock + 1 })) := by
  simp only [executeAll, Session.writeAll, SqlM.runOn, Program.run, Host.execute]
  by_cases hok : (host.outcome c.clock).accepted = true
  · cases heffect : w.effect (host.outcome c.clock).now c.current with
    | some db' =>
        refine .inl ⟨db', ⟨hok, by simp [heffect]⟩, rfl, ?_⟩
        simp [Session.execute, Host.engine, hok, heffect]
    | none =>
        refine .inr ⟨fun h => h.2 heffect, ?_⟩
        simp [Session.execute, Host.engine, Session.refused, hok, heffect, Program.run]
  · refine .inr ⟨fun h => hok h.1, ?_⟩
    simp [Session.execute, Host.engine, Session.refused, hok, Program.run]

/-- The head of a list is refused without trace when the tables are as in `db`, and the rest
when moreover the head has changed nothing. -/
theorem refusedWithoutTrace_cons {w : Write} {ws : List Write} {c : Connection}
    (haccepts : host.AcceptsWrite c.clock w c.current ↔ host.AcceptsWrite c.clock w db)
    (hrest : ∀ db', w.effect (host.outcome c.clock).now c.current = some db' →
      (RefusedWithoutTrace host db ws { c with current := db', clock := c.clock + 1 } ↔
        ¬host.FailsMidway db (c.clock + 1) ws
          (¬SameFacts db c.current ∨ w.Changes (host.outcome c.clock).now db))) :
    RefusedWithoutTrace host db (w :: ws) c ↔
      ¬host.FailsMidway db c.clock (w :: ws) (¬SameFacts db c.current) := by
  unfold RefusedWithoutTrace at hrest ⊢
  rcases run_executeAll_cons host w ws c with
    ⟨db', hok, heffect, hrun⟩ | ⟨hrefused, hrun⟩
  · rw [hrun, hrest db' heffect]
    simp [Host.FailsMidway, haccepts.mp hok]
  · rw [hrun]
    have hrefused' : ¬host.AcceptsWrite c.clock w db := by rwa [← haccepts]
    simp only [Host.FailsMidway, hrefused', not_false_eq_true, true_and, false_and, or_false,
      not_not]
    exact ⟨fun h => h _ rfl, fun h _ _ => ⟨h.entities, h.relations⟩⟩

theorem refusedWithoutTrace_nil (c : Connection) (changed : Prop) :
    RefusedWithoutTrace host db [] c ↔ ¬host.FailsMidway db c.clock [] changed := by
  refine ⟨fun _ => id, fun _ message h => ?_⟩
  cases h

/-! ## A statement after another one -/

/-- The statement is refused on the second tables exactly when it is on the first, and cannot
undo what sets them apart. -/
structure Write.Independent (w : Write) (db db₁ : Database) : Prop where
  refused : ∀ now, w.effect now db₁ = none ↔ w.effect now db = none
  kept : ∀ now db', w.effect now db₁ = some db' → SameFacts db db' → SameFacts db db₁

theorem Write.Independent.refl (w : Write) (db : Database) : w.Independent db db where
  refused _ := Iff.rfl
  kept _ _ _ _ := .refl db

theorem Write.Independent.accepts {w : Write} {db db₁ : Database} (h : w.Independent db db₁)
    (host : Host) (n : ℕ) : host.AcceptsWrite n w db₁ ↔ host.AcceptsWrite n w db := by
  unfold Host.AcceptsWrite
  rw [Ne, h.refused]

theorem Write.Independent.changes {w : Write} {db db₁ db' : Database} (h : w.Independent db db₁)
    {now : Text} (heffect : w.effect now db₁ = some db') :
    ¬SameFacts db db' ↔ ¬SameFacts db db₁ ∨ w.Changes now db := by
  rw [← not_iff_not, not_not, not_or, not_not]
  constructor
  · intro hsame
    have hbefore := h.kept now db' heffect hsame
    refine ⟨hbefore, ?_⟩
    rw [← hbefore.changes, ← sameFacts_effect_iff heffect]
    exact hbefore.symm.trans hsame
  · rintro ⟨hbefore, hnot⟩
    rw [← hbefore.changes, ← sameFacts_effect_iff heffect] at hnot
    exact hbefore.trans hnot

theorem bind_pure_eq_none_iff {α β : Type} {x : Option α} {f : α → β} :
    (do return f (← x)) = none ↔ x = none := by
  cases x with
  | none => exact ⟨fun _ => rfl, fun _ => rfl⟩
  | some a => exact ⟨fun h => (by cases h), fun h => (by cases h)⟩

theorem upsertEntity_eq_none_iff {now : Text} {v : EntityValues} :
    (Write.upsertEntity v).effect now db = none ↔
      (∀ r ∈ db.entityRows, r.2.id ≠ v.id) ∧ db.entities.table.nextRowid = none := by
  simp only [Write.effect]
  split
  · next hany =>
      simp only [List.any_eq_true, beq_iff_eq] at hany
      obtain ⟨q, hq, hid⟩ := hany
      exact ⟨fun h => (by cases h), fun h => absurd hid (h.1 q hq)⟩
  · next hany =>
      have hfresh : ∀ r ∈ db.entityRows, r.2.id ≠ v.id := by
        simpa [Database.entityRows] using hany
      rw [bind_pure_eq_none_iff, IndexedTable.insert_eq_none_iff]
      exact ⟨fun h => ⟨hfresh, h⟩, And.right⟩

/-- Once the rows that a saved entity replaces are retired, its upsert brings none of them
back. -/
theorem upsertEntity_independent {now : Text} {v : EntityValues}
    {agentId entityType name supersededBy : SqlText} :
    (Write.upsertEntity v).Independent db (db.updateEntities
      (EntityRow.isDuplicateOf v.id agentId entityType name)
      (EntityRow.obsolete now supersededBy)) where
  refused _ := by
    have hids : ∀ r : Rowid × EntityRow,
        (if r.2.isDuplicateOf v.id agentId entityType name then r.2.obsolete now supersededBy
          else r.2).id = r.2.id := by
      intro r
      split <;> rfl
    rw [upsertEntity_eq_none_iff, upsertEntity_eq_none_iff]
    refine and_congr ?_ ?_
    · rw [Database.entityRows, Database.updateEntities, IndexedTable.update_rows,
        List.forall_mem_map]
      simp only [hids, Database.entityRows]
    · rw [Database.updateEntities, IndexedTable.update, Table.nextRowid_update]
  kept _ db' h hsame := by
    rw [sameFacts_updateEntities_iff]
    intro r hr hdup
    have hpart := hdup
    simp only [EntityRow.isDuplicateOf, Bool.and_eq_true, bne_iff_ne] at hpart
    rw [← hsame.entities] at hr
    rcases mem_upsert_cases h hr with ⟨hmem, -⟩ | hv
    · have hnot := (mem_retire_of_active hmem hpart.2).2
      rw [hdup] at hnot
      cases hnot
    · exact absurd (congrArg EntityValues.id hv) hpart.1.2

theorem insertRelation_independent {v : RelationValues} {p : RelationRow → Bool}
    {f : RelationRow → RelationRow} :
    (Write.insertRelation v).Independent db (db.updateRelations p f) where
  refused _ := by
    rw [Write.effect, Write.effect, bind_pure_eq_none_iff, bind_pure_eq_none_iff,
      IndexedTable.insert_eq_none_iff, IndexedTable.insert_eq_none_iff, Database.updateRelations,
      IndexedTable.update, Table.nextRowid_update]
  kept _ db' h hsame := by
    obtain ⟨relations, hins, h⟩ := Option.bind_eq_some_iff.mp h
    cases h
    obtain ⟨i, -, hrows, -⟩ := IndexedTable.insert_eq_some _ hins
    have hlength := congrArg List.length (hrows.symm.trans hsame.relations)
    simp [Database.updateRelations] at hlength

/-! ## The two operations -/

/-- Retiring a superseded entity comes last, and the engine always takes it. -/
theorem refusedWithoutTrace_supersession {ws : List Write} (c : Connection)
    (hws : ws = [] ∨ ∃ entityId supersededBy, ws = [.markEntityObsolete entityId supersededBy]) :
    RefusedWithoutTrace host db ws c ↔
      ¬host.FailsMidway db c.clock ws (¬SameFacts db c.current) := by
  rcases hws with rfl | ⟨entityId, supersededBy, rfl⟩
  · exact refusedWithoutTrace_nil c _
  · refine refusedWithoutTrace_cons ?_ fun db' _ => refusedWithoutTrace_nil _ _
    simp [Host.AcceptsWrite, Write.effect]

/-- A statement that is independent of what came before, ahead of a supersession. -/
theorem refusedWithoutTrace_independent {w : Write} {ws : List Write} {c : Connection}
    (hw : w.Independent db c.current)
    (hws : ws = [] ∨ ∃ entityId supersededBy, ws = [.markEntityObsolete entityId supersededBy]) :
    RefusedWithoutTrace host db (w :: ws) c ↔
      ¬host.FailsMidway db c.clock (w :: ws) (¬SameFacts db c.current) := by
  refine refusedWithoutTrace_cons (hw.accepts host _) fun db' heffect => ?_
  rw [← hw.changes heffect]
  exact refusedWithoutTrace_supersession _ hws

theorem entity_supersession_cases (entity : MemoryEntity) :
    entity.supersession = [] ∨
      ∃ entityId supersededBy, entity.supersession = [.markEntityObsolete entityId supersededBy] := by
  unfold MemoryEntity.supersession
  split
  · exact .inl rfl
  · exact .inr ⟨_, _, rfl⟩

theorem relation_supersession_cases (relation : MemoryRelation) :
    relation.supersession = [] ∨
      ∃ entityId supersededBy,
        relation.supersession = [.markEntityObsolete entityId supersededBy] := by
  unfold MemoryRelation.supersession
  split
  · exact .inr ⟨_, _, rfl⟩
  · exact .inl rfl

theorem not_failsMidway_congr {n : ℕ} {ws : List Write} {changed changed' : Prop}
    (h : changed ↔ changed') :
    ¬host.FailsMidway db n ws changed ↔ ¬host.FailsMidway db n ws changed' := by
  rw [propext h]

/-- The statements of `SaveEntity`, from the state before the call. -/
theorem refusedWithoutTrace_saveEntity (entity : MemoryEntity) (refsStr metadataStr : Text)
    (c : Connection) :
    let ws := entity.duplicateMarking ++ .upsertEntity (entity.values refsStr metadataStr) ::
      entity.supersession
    RefusedWithoutTrace host c.current ws c ↔
      ¬host.FailsMidway c.current c.clock ws (¬SameFacts c.current c.current) := by
  intro ws
  have hsupersession := entity_supersession_cases entity
  by_cases hkey : (entity.id.isEmpty || entity.agentId.isEmpty || entity.entityType.isEmpty ||
      entity.name.isEmpty) = true
  · have hws : ws = .upsertEntity (entity.values refsStr metadataStr) :: entity.supersession := by
      simp only [ws, MemoryEntity.duplicateMarking, hkey, if_true, List.nil_append]
    rw [hws]
    exact refusedWithoutTrace_independent (.refl _ _) hsupersession
  · have hws : ws = .markDuplicateEntities (bindText entity.id) (bindText entity.agentId)
        (bindText entity.entityType) (bindText entity.name) ::
          .upsertEntity (entity.values refsStr metadataStr) :: entity.supersession := by
      simp only [ws, MemoryEntity.duplicateMarking, hkey]
      rfl
    rw [hws]
    refine refusedWithoutTrace_cons Iff.rfl fun db' heffect => ?_
    rw [← (Write.Independent.refl _ c.current).changes heffect]
    cases heffect
    exact refusedWithoutTrace_independent upsertEntity_independent hsupersession

/-- The statements of `SaveRelation`, from the state before the call. -/
theorem refusedWithoutTrace_saveRelation (relation : MemoryRelation) (refsStr metadataStr : Text)
    (c : Connection) :
    let ws := .deactivateRelation (bindText relation.fromEntityId)
        (bindText relation.relationType) (bindText relation.toEntityId)
        (bindText relation.agentId) ::
      .insertRelation (relation.values refsStr metadataStr) :: relation.supersession
    RefusedWithoutTrace host c.current ws c ↔
      ¬host.FailsMidway c.current c.clock ws (¬SameFacts c.current c.current) := by
  refine refusedWithoutTrace_cons Iff.rfl fun db' heffect => ?_
  rw [← (Write.Independent.refl _ c.current).changes heffect]
  cases heffect
  exact refusedWithoutTrace_independent insertRelation_independent
    (relation_supersession_cases relation)

/-- An operation called on the store fails without trace exactly when its statements do. -/
theorem failsWithoutTrace_iff (op : TransactionOp) (c : Connection) :
    FailsWithoutTrace host op c ↔
      ∀ ws, op.statements = .ok ws → RefusedWithoutTrace host c.current ws c := by
  unfold FailsWithoutTrace TransactionOp.storeMethod
  rw [run_reporting, TransactionOp.unlocked_eq]
  cases hws : op.statements with
  | error e =>
      refine ⟨fun _ ws h => (by cases h), fun _ failure h _ => ?_⟩
      cases h
  | ok ws =>
      have hrun : (do
          let ws ← Program.ofExcept (.ok ws)
          executeAll ws : SqlM SqlResult).runOn host c = (executeAll ws).runOn host c := rfl
      simp only [hrun, Except.ok.injEq, forall_eq', RefusedWithoutTrace]
      obtain ⟨c', hsaved, ⟨hrun, -⟩ | ⟨message, hrun⟩⟩ :=
        run_executeAll host ws c
      · rw [hrun]
        constructor
        · intro _ message h
          cases h
        · intro _ failure h hfailed
          cases h
          cases hfailed
      · rw [hrun]
        constructor
        · intro h _ _
          exact (h _ rfl rfl).1
        · intro h failure _ _
          refine ⟨h message rfl, ?_⟩
          unfold Session.durable
          rw [hsaved]
          cases c.saved with
          | none => exact h message rfl
          | some d => exact .refl d

end Refused

/-- `SaveEntity` and `SaveRelation` fail without trace exactly when no statement of theirs is
refused after one that finds something to change in the tables as they were. -/
theorem save_failsWithoutTrace_iff (host : Host) (entity : MemoryEntity)
    (relation : MemoryRelation) (c : Connection) :
    (FailsWithoutTrace host (.saveEntity entity) c ↔
      ∀ ws, (TransactionOp.saveEntity entity).statements = .ok ws →
        ¬host.FailsMidway c.current c.clock ws False) ∧
    (FailsWithoutTrace host (.saveRelation relation) c ↔
      ∀ ws, (TransactionOp.saveRelation relation).statements = .ok ws →
        ¬host.FailsMidway c.current c.clock ws False) := by
  have hsame : False ↔ ¬SameFacts c.current c.current := by
    simp [SameFacts.refl]
  refine ⟨?_, ?_⟩
  · rw [failsWithoutTrace_iff]
    refine forall₂_congr fun ws hws => ?_
    obtain ⟨refsStr, metadataStr, -, -, rfl⟩ := saveEntity_statements hws
    rw [not_failsMidway_congr hsame]
    exact refusedWithoutTrace_saveEntity entity refsStr metadataStr c
  · rw [failsWithoutTrace_iff]
    refine forall₂_congr fun ws hws => ?_
    obtain ⟨refsStr, metadataStr, -, -, rfl⟩ := saveRelation_statements hws
    rw [not_failsMidway_congr hsame]
    exact refusedWithoutTrace_saveRelation relation refsStr metadataStr c

/-- The entity of an agent's editor, under the given id. -/
def editor (id : String) : MemoryEntity where
  id := ascii id
  agentId := ascii "alice"
  entityType := ascii "preference"
  name := ascii "editor"

/-- When the upsert of a second row under one key is refused, the first row is retired all the
same, and nothing takes its place. -/
theorem save_leaves_trace_refused_upsert :
    let host : Host := { outcome := fun n => { accepted := n != 3 }, parseJson := fun _ => none }
    let c := runCalls host [.operation (.saveEntity (editor "e1"))] { current := .empty }
    ¬FailsWithoutTrace host (.saveEntity (editor "e2")) c := by
  intro host c h
  have hkept := (h _ rfl rfl).1.entities
  have hactive := congrArg (List.map fun r : Rowid × EntityRow => r.2.active) hkept
  exact absurd hactive (by decide)

end AgentMemory
