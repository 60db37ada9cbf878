import AgentMemory.Verification.Store.Statements

/-! # Which table a statement writes -/

namespace AgentMemory

open Foundation

inductive TableName where
  | events
  | payloads
  | summaries
  | entities
  | relations
  | cursors
deriving DecidableEq

/-- The one table that a statement writes. -/
def Write.table : Write → Option TableName
  | .prepare => none
  | .insertEvent _ => some .events
  | .upsertPayload _ => some .payloads
  | .insertSummary _ => some .summaries
  | .markDuplicateEntities .. | .upsertEntity _ | .markEntityObsolete .. => some .entities
  | .deactivateRelation .. | .insertRelation _ => some .relations
  | .upsertCursor .. => some .cursors

/-- The second database differs from the first at most in one table. -/
structure Database.SameExcept (table : Option TableName) (db db' : Database) : Prop where
  events : table ≠ some .events → db'.events = db.events
  payloads : table ≠ some .payloads → db'.payloads = db.payloads
  summaries : table ≠ some .summaries → db'.summaries = db.summaries
  entities : table ≠ some .entities → db'.entities = db.entities
  relations : table ≠ some .relations → db'.relations = db.relations
  cursors : table ≠ some .cursors → db'.cursors = db.cursors

theorem Write.effect_sameExcept {now : Text} {w : Write} {db db' : Database}
    (h : w.effect now db = some db') : Database.SameExcept w.table db db' := by
  cases w with
  | prepare =>
      cases h
      constructor <;> exact fun _ => rfl
  | insertEvent v =>
      obtain ⟨events, -, h⟩ := Option.bind_eq_some_iff.mp h
      cases h
      constructor <;> simp [Write.table]
  | upsertPayload v =>
      simp only [Write.effect] at h
      split at h
      · cases h
        constructor <;> simp [Write.table]
      · obtain ⟨payloads, -, h⟩ := Option.bind_eq_some_iff.mp h
        cases h
        constructor <;> simp [Write.table]
  | insertSummary v =>
      obtain ⟨summaries, -, h⟩ := Option.bind_eq_some_iff.mp h
      cases h
      constructor <;> simp [Write.table]
  | markDuplicateEntities id agentId entityType name =>
      cases h
      constructor <;> simp [Write.table, Database.updateEntities]
  | upsertEntity v =>
      simp only [Write.effect] at h
      split at h
      · cases h
        constructor <;> simp [Write.table, Database.updateEntities]
      · obtain ⟨entities, -, h⟩ := Option.bind_eq_some_iff.mp h
        cases h
        constructor <;> simp [Write.table]
  | markEntityObsolete entityId supersededBy =>
      cases h
      constructor <;> simp [Write.table, Database.updateEntities]
  | deactivateRelation fromEntity relation toEntity agentId =>
      cases h
      constructor <;> simp [Write.table, Database.updateRelations]
  | insertRelation v =>
      obtain ⟨relations, -, h⟩ := Option.bind_eq_some_iff.mp h
      cases h
      constructor <;> simp [Write.table]
  | upsertCursor agentId sessionId cursor =>
      simp only [Write.effect] at h
      split at h
      · cases h
        constructor <;> simp [Write.table]
      · cases h
        constructor <;> simp [Write.table]

/-- Statements on other tables leave the cursors and the events alone. -/
theorem applied_cursors {host : Host} {ws : List Write} {db db' : Database}
    (h : Session.Applied host.engine ws db db') (hws : ∀ w ∈ ws, w.table ≠ some .cursors) :
    db'.cursors = db.cursors := by
  refine h.invariant (P := fun w => w.table ≠ some .cursors)
    (I := fun d => d.cursors = db.cursors) ?_ hws rfl
  intro n w d d' hw heffect hd
  rw [(Write.effect_sameExcept heffect).cursors hw, hd]

theorem applied_events {host : Host} {ws : List Write} {db db' : Database}
    (h : Session.Applied host.engine ws db db') (hws : ∀ w ∈ ws, w.table ≠ some .events) :
    db'.events = db.events := by
  refine h.invariant (P := fun w => w.table ≠ some .events)
    (I := fun d => d.events = db.events) ?_ hws rfl
  intro n w d d' hw heffect hd
  rw [(Write.effect_sameExcept heffect).events hw, hd]

/-- The tables that an operation of a transaction writes. -/
def TransactionOp.tables : TransactionOp → List TableName
  | .saveSummary .. => [.summaries]
  | .saveEntity _ => [.entities]
  | .saveRelation _ => [.relations, .entities]
  | .markEntityObsolete .. => [.entities]
  | .saveConsolidationCursor .. => [.cursors]

theorem statements_tables {op : TransactionOp} {ws : List Write} (h : op.statements = .ok ws) :
    ∀ w ∈ ws, ∃ table ∈ op.tables, w.table = some table := by
  cases op with
  | saveSummary agentId sessionId level topic summary confidence sourceRefs =>
      obtain ⟨refsStr, -, rfl⟩ := saveSummary_statements h
      intro w hw
      rw [List.mem_singleton.mp hw]
      exact ⟨_, List.mem_singleton_self _, rfl⟩
  | saveEntity entity =>
      obtain ⟨refsStr, metadataStr, -, -, rfl⟩ := saveEntity_statements h
      intro w hw
      refine ⟨_, List.mem_singleton_self _, ?_⟩
      rw [List.mem_append, List.mem_cons] at hw
      rcases hw with hw | rfl | hw
      · rw [mem_duplicateMarking hw]
        rfl
      · rfl
      · rw [(mem_entity_supersession hw).2]
        rfl
  | saveRelation relation =>
      obtain ⟨refsStr, metadataStr, -, -, rfl⟩ := saveRelation_statements h
      intro w hw
      rw [List.mem_cons, List.mem_cons] at hw
      rcases hw with rfl | rfl | hw
      · exact ⟨.relations, by simp [TransactionOp.tables], rfl⟩
      · exact ⟨.relations, by simp [TransactionOp.tables], rfl⟩
      · rw [(mem_relation_supersession hw).2]
        exact ⟨.entities, by simp [TransactionOp.tables], rfl⟩
  | markEntityObsolete entityId supersededBy =>
      cases h
      intro w hw
      rw [List.mem_singleton.mp hw]
      exact ⟨_, List.mem_singleton_self _, rfl⟩
  | saveConsolidationCursor agentId sessionId cursor =>
      cases h
      intro w hw
      rw [List.mem_singleton.mp hw]
      exact ⟨_, List.mem_singleton_self _, rfl⟩

end AgentMemory
