import AgentMemory.Foundation.Latest
import AgentMemory.Verification.Serialization.Dump
import AgentMemory.Verification.Store.Frame
import AgentMemory.Verification.Transactions.Runs

/-! # Active relations are unique, and the newest wins

The table has no constraint that keeps relations apart. It is the pair of statements of a save, the
deactivation and the insertion, that makes the rows a history of the saves, in which the active
ones are the latest. -/

namespace AgentMemory

open Foundation

/-- The columns for which at most one row is active. -/
abbrev RelationKey := SqlText × SqlText × SqlText × SqlText

def RelationValues.key (v : RelationValues) : RelationKey :=
  (v.agentId, v.fromEntity, v.relation, v.toEntity)

/-- The row values of a relation that was saved. -/
def MemoryRelation.storedValues (relation : MemoryRelation) : RelationValues :=
  relation.values ((serializeSourceRefs relation.sourceRefs).toOption.getD [])
    (relation.storedMetadata.dump.toOption.getD [])

/-- The key of the rows of a relation. -/
def MemoryRelation.key (relation : MemoryRelation) : RelationKey :=
  (bindText relation.agentId, bindText relation.fromEntityId, bindText relation.relationType,
    bindText relation.toEntityId)

def savedRelations (saves : List TransactionOp) : List MemoryRelation :=
  saves.filterMap fun
    | .saveRelation relation => some relation
    | _ => none

/-- The values of each row, and whether it is active. -/
def Database.relationHistory (db : Database) : List (RelationValues × Bool) :=
  db.relations.rows.map fun r => (r.2.toRelationValues, r.2.active)

/-- The rows are those of the saved relations in order, and the latest of each key are active. -/
def RelationsFollow (saves : List TransactionOp) (db : Database) : Prop :=
  db.relationHistory =
    (marked MemoryRelation.key (savedRelations saves)).map fun e => (e.1.storedValues, e.2)

/-! ## One statement -/

section Statements

variable {now : Text} {db db' : Database}

theorem isLive_iff {fromEntity relation toEntity agentId : SqlText} {r : RelationRow} :
    r.isLive fromEntity relation toEntity agentId = true ↔
      r.key = (agentId, fromEntity, relation, toEntity) ∧ r.active = true := by
  simp only [RelationRow.isLive, RelationValues.key, Bool.and_eq_true, beq_iff_eq, Prod.mk.injEq]
  constructor
  · rintro ⟨⟨⟨⟨hfrom, hrelation⟩, hto⟩, hactive⟩, hagent⟩
    exact ⟨⟨hagent, hfrom, hrelation, hto⟩, hactive⟩
  · rintro ⟨⟨hagent, hfrom, hrelation, hto⟩, hactive⟩
    exact ⟨⟨⟨⟨hfrom, hrelation⟩, hto⟩, hactive⟩, hagent⟩

theorem relationHistory_deactivate {fromEntity relation toEntity agentId : SqlText}
    (h : (Write.deactivateRelation fromEntity relation toEntity agentId).effect now db = some db') :
    db'.relationHistory = db.relationHistory.map fun e =>
      (e.1, e.2 && decide (e.1.key ≠ (agentId, fromEntity, relation, toEntity))) := by
  cases h
  simp only [Database.relationHistory, Database.updateRelations, IndexedTable.update_rows,
    List.map_map]
  refine List.map_congr_left fun r _ => ?_
  simp only [Function.comp_apply]
  by_cases hlive : r.2.isLive fromEntity relation toEntity agentId = true
  · obtain ⟨hkey, hactive⟩ := isLive_iff.mp hlive
    simp [hlive, hkey]
  · rw [if_neg hlive]
    rw [isLive_iff] at hlive
    by_cases hactive : r.2.active = true
    · have hkey : r.2.key ≠ (agentId, fromEntity, relation, toEntity) :=
        fun heq => hlive ⟨heq, hactive⟩
      simp [hkey]
    · simp [hactive]

theorem relationHistory_insert {v : RelationValues}
    (h : (Write.insertRelation v).effect now db = some db') :
    db'.relationHistory = db.relationHistory ++ [(v, true)] := by
  obtain ⟨relations, hinsert, h⟩ := Option.bind_eq_some_iff.mp h
  cases h
  obtain ⟨i, -, hrows, -⟩ := IndexedTable.insert_eq_some _ hinsert
  simp [Database.relationHistory, hrows]

theorem relationHistory_of_table {w : Write} (h : w.effect now db = some db')
    (hw : w.table ≠ some .relations) : db'.relationHistory = db.relationHistory := by
  unfold Database.relationHistory
  rw [(Write.effect_sameExcept h).relations hw]

end Statements

/-! ## Operations -/

section Operations

variable {host : Host} {saves : List TransactionOp} {op : TransactionOp} {ws : List Write}
  {db db' : Database}

theorem applied_relationHistory (h : Session.Applied host.engine ws db db')
    (hws : ∀ w ∈ ws, w.table ≠ some .relations) : db'.relationHistory = db.relationHistory :=
  h.invariant (P := fun w => w.table ≠ some .relations)
    (I := fun d => d.relationHistory = db.relationHistory)
    (fun _ _ _ _ hw heffect hd => (relationHistory_of_table heffect hw).trans hd) hws rfl

/-- A save deactivates the rows of its key and adds an active one. -/
theorem applied_saveRelation {relation : MemoryRelation}
    (hws : (TransactionOp.saveRelation relation).statements = .ok ws)
    (h : Session.Applied host.engine ws db db') :
    db'.relationHistory =
      (db.relationHistory.map fun e => (e.1, e.2 && decide (e.1.key ≠ relation.key))) ++
        [(relation.storedValues, true)] := by
  obtain ⟨refsStr, metadataStr, hrefs, hmetadata, rfl⟩ := saveRelation_statements hws
  obtain ⟨n₁, d₁, hdeactivate, hrest⟩ := Session.applied_cons h
  obtain ⟨n₂, d₂, hinsert, hsuper⟩ := Session.applied_cons hrest
  rw [engine_effect] at hdeactivate hinsert
  have hvalues : relation.storedValues = relation.values refsStr metadataStr := by
    simp [MemoryRelation.storedValues, hrefs, hmetadata, Except.toOption]
  have hrest : db'.relationHistory = d₂.relationHistory := by
    refine applied_relationHistory hsuper fun w hw => ?_
    rw [(mem_relation_supersession hw).2]
    simp [Write.table]
  rw [hrest, relationHistory_insert hinsert, relationHistory_deactivate hdeactivate, hvalues]
  rfl

theorem savedRelations_concat (saves : List TransactionOp) (op : TransactionOp) :
    savedRelations (saves ++ [op]) = savedRelations saves ++ savedRelations [op] :=
  List.filterMap_append

theorem RelationsFollow.operation (hws : op.statements = .ok ws)
    (happlied : Session.Applied host.engine ws db db') (h : RelationsFollow saves db) :
    RelationsFollow (saves ++ [op]) db' := by
  unfold RelationsFollow at h ⊢
  rw [savedRelations_concat]
  by_cases hop : ∃ relation, op = .saveRelation relation
  · obtain ⟨relation, rfl⟩ := hop
    have hsaved : savedRelations [.saveRelation relation] = [relation] := rfl
    rw [applied_saveRelation hws happlied, h, hsaved, marked_concat, List.map_append, List.map_map,
      List.map_map]
    rfl
  · have htables : TableName.relations ∉ op.tables := by
      cases op with
      | saveRelation relation => exact absurd ⟨relation, rfl⟩ hop
      | _ => simp [TransactionOp.tables]
    have hsaved : savedRelations [op] = [] := by
      cases op with
      | saveRelation relation => exact absurd ⟨relation, rfl⟩ hop
      | _ => rfl
    rw [hsaved, List.append_nil, ← h]
    refine applied_relationHistory happlied fun w hw heq => htables ?_
    obtain ⟨table, htable, hw⟩ := statements_tables hws w hw
    rw [heq] at hw
    cases hw
    exact htable

end Operations

end AgentMemory
