import AgentMemory.Verification.Consolidation.Atomicity

/-! # The rows an agent owns

Every table has an agent column, so the rows of an agent are a selection of each table. A statement
for another agent keeps this selection, except that an entity is found by its id and a payload by
its ref, whoever owns them. -/

namespace AgentMemory

open Foundation

/-- The rows of one agent: its active entities and relations, and all its other rows. -/
structure AgentView where
  entities : List (Rowid × EntityRow)
  relations : List (Rowid × RelationRow)
  summaries : List (Rowid × SummaryRow)
  events : List (Rowid × EventRow)
  payloads : List (Rowid × PayloadRow)
  cursors : List CursorRow
deriving DecidableEq

def Database.view (agent : SqlText) (db : Database) : AgentView where
  entities := db.entities.rows.filter fun r => r.2.active && r.2.agentId == agent
  relations := db.relations.rows.filter fun r => r.2.active && r.2.agentId == agent
  summaries := db.summaries.rows.filter fun r => r.2.agentId == agent
  events := db.events.rows.filter fun r => r.2.agentId.is agent
  payloads := db.payloads.rows.filter fun r => r.2.agentId == agent
  cursors := db.cursors.filter fun r => r.agentId == agent

/-- No active entity of the agent has the id. -/
def AgentView.Lacks (view : AgentView) (id : SqlText) : Prop :=
  ∀ r ∈ view.entities, r.2.id ≠ id

/-- The statement is for another agent, and where it finds a row by id or by ref, this is not a
row of the agent. -/
def Write.SparesAgent (agent : SqlText) (view : AgentView) : Write → Prop
  | .prepare => True
  | .insertEvent v => v.agentId.is agent = false
  | .upsertPayload v => v.agentId ≠ agent ∧ ∀ r ∈ view.payloads, r.2.ref ≠ v.ref
  | .insertSummary v => v.agentId ≠ agent
  | .markDuplicateEntities _ agentId _ _ => agentId ≠ agent
  | .upsertEntity v => v.agentId ≠ agent ∧ view.Lacks v.id
  | .markEntityObsolete entityId _ => view.Lacks entityId
  | .deactivateRelation _ _ _ agentId => agentId ≠ agent
  | .insertRelation v => v.agentId ≠ agent
  | .upsertCursor agentId _ _ => agentId ≠ agent

section Statements

variable {agent : SqlText} {now : Text} {db db' : Database}

/-- A row that is not selected is inserted. -/
theorem filter_insert {α : Type} (q : α → Bool) {rows rows' : List (Rowid × α)} {i : Rowid} {a : α}
    (hrows : rows' = rows ++ [(i, a)]) (h : q a = false) :
    (rows'.filter fun r => q r.2) = rows.filter fun r => q r.2 := by
  rw [hrows, List.filter_append, List.filter_singleton, h, cond_false, List.append_nil]

theorem AgentView.Lacks.notMem {id : SqlText} (h : (db.view agent).Lacks id)
    {r : Rowid × EntityRow} (hr : r ∈ db.entities.rows) (hid : r.2.id = id) :
    (r.2.active && r.2.agentId == agent) = false := by
  rw [Bool.eq_false_iff]
  intro hselected
  exact h r (List.mem_filter.mpr ⟨hr, hselected⟩) hid

/-- Two databases with the same selection of entities, and otherwise equal, have the same view. -/
theorem view_updateEntities {p : EntityRow → Bool} {f : EntityRow → EntityRow}
    (h : ∀ r ∈ db.entities.rows, p r.2 = true →
      (r.2.active && r.2.agentId == agent) = false ∧
        ((f r.2).active && (f r.2).agentId == agent) = false) :
    (db.updateEntities p f).view agent = db.view agent := by
  unfold Database.view Database.updateEntities
  congr 1
  exact Table.filter_update (fun r : EntityRow => r.active && r.agentId == agent) h

theorem filter_upsertCursor {agentId sessionId : SqlText} (hagent : agentId ≠ agent)
    (cursor : Int64) (cursors : List CursorRow) :
    (cursors.map fun r => if r.isFor agentId sessionId then { r with cursor, updatedAt := now }
      else r).filter (fun r => r.agentId == agent) = cursors.filter fun r => r.agentId == agent := by
  induction cursors with
  | nil => rfl
  | cons r rest ih =>
      cases hr : r.isFor agentId sessionId with
      | false => simp [hr, List.filter_cons, ih]
      | true =>
          have hid : r.agentId = agentId := by
            simp only [CursorRow.isFor, Bool.and_eq_true, beq_iff_eq] at hr
            exact hr.1
          have hne : (r.agentId == agent) = false := by
            rw [hid]
            exact beq_false_of_ne hagent
          simp [hr, hne, ih]

/-- A statement that spares an agent keeps all its rows. -/
theorem Write.effect_view {w : Write} (h : w.effect now db = some db')
    (hspares : w.SparesAgent agent (db.view agent)) : db'.view agent = db.view agent := by
  cases w with
  | prepare =>
      cases h
      rfl
  | insertEvent v =>
      obtain ⟨events, hins, h⟩ := Option.bind_eq_some_iff.mp h
      cases h
      obtain ⟨i, -, hrows⟩ := Table.insert_eq_some hins
      have hsame := filter_insert (fun r : EventRow => r.agentId.is agent) hrows hspares
      rw [Database.view, hsame]
      rfl
  | upsertPayload v =>
      obtain ⟨hagent, href⟩ := hspares
      simp only [Write.effect] at h
      split at h
      · cases h
        unfold Database.view
        congr 1
        refine Table.filter_update (fun r : PayloadRow => r.agentId == agent) ?_
        intro r hr hp
        refine ⟨?_, beq_false_of_ne hagent⟩
        rw [Bool.eq_false_iff]
        intro hselected
        exact href r (List.mem_filter.mpr ⟨hr, hselected⟩) (beq_iff_eq.mp hp)
      · obtain ⟨payloads, hins, h⟩ := Option.bind_eq_some_iff.mp h
        cases h
        obtain ⟨i, -, hrows⟩ := Table.insert_eq_some hins
        have hsame := filter_insert (fun r : PayloadRow => r.agentId == agent) hrows
          (beq_false_of_ne hagent)
        rw [Database.view, hsame]
        rfl
  | insertSummary v =>
      obtain ⟨summaries, hins, h⟩ := Option.bind_eq_some_iff.mp h
      cases h
      obtain ⟨i, -, hrows, -⟩ := IndexedTable.insert_eq_some _ hins
      have hsame := filter_insert (fun r : SummaryRow => r.agentId == agent) hrows
        (beq_false_of_ne hspares)
      rw [Database.view, hsame]
      rfl
  | markDuplicateEntities id agentId entityType name =>
      cases h
      refine view_updateEntities fun r hr hp => ⟨?_, rfl⟩
      simp only [EntityRow.isDuplicateOf, Bool.and_eq_true, beq_iff_eq] at hp
      rw [hp.1.1.1.1, beq_false_of_ne hspares, Bool.and_false]
  | upsertEntity v =>
      obtain ⟨hagent, hlacks⟩ := hspares
      simp only [Write.effect] at h
      split at h
      · cases h
        refine view_updateEntities fun r hr hp => ⟨hlacks.notMem hr (beq_iff_eq.mp hp), ?_⟩
        dsimp only
        rw [beq_false_of_ne hagent, Bool.and_false]
      · obtain ⟨entities, hins, h⟩ := Option.bind_eq_some_iff.mp h
        cases h
        obtain ⟨i, -, hrows, -⟩ := IndexedTable.insert_eq_some _ hins
        have hsame := filter_insert (fun r : EntityRow => r.active && r.agentId == agent) hrows
          (by simp [beq_false_of_ne hagent])
        rw [Database.view, hsame]
        rfl
  | markEntityObsolete entityId supersededBy =>
      cases h
      exact view_updateEntities fun r hr hp => ⟨hspares.notMem hr (beq_iff_eq.mp hp), rfl⟩
  | deactivateRelation fromEntity relation toEntity agentId =>
      cases h
      unfold Database.view Database.updateRelations
      congr 1
      refine Table.filter_update (fun r : RelationRow => r.active && r.agentId == agent) ?_
      intro r hr hp
      refine ⟨?_, rfl⟩
      simp only [RelationRow.isLive, Bool.and_eq_true, beq_iff_eq] at hp
      rw [hp.2, beq_false_of_ne hspares, Bool.and_false]
  | insertRelation v =>
      obtain ⟨relations, hins, h⟩ := Option.bind_eq_some_iff.mp h
      cases h
      obtain ⟨i, -, hrows, -⟩ := IndexedTable.insert_eq_some _ hins
      have hsame := filter_insert (fun r : RelationRow => r.active && r.agentId == agent) hrows
        (by simp [beq_false_of_ne hspares])
      rw [Database.view, hsame]
      rfl
  | upsertCursor agentId sessionId cursor =>
      simp only [Write.effect] at h
      split at h
      · cases h
        unfold Database.view
        congr 1
        exact filter_upsertCursor hspares cursor db.cursors
      · cases h
        unfold Database.view
        congr 1
        dsimp only
        rw [List.filter_append, List.filter_cons, beq_false_of_ne hspares]
        simp

end Statements

theorem applied_view {host : Host} {agent : SqlText} {ws : List Write} {db db' : Database}
    (h : Session.Applied host.engine ws db db')
    (hspares : ∀ w ∈ ws, w.SparesAgent agent (db.view agent)) : db'.view agent = db.view agent := by
  refine h.invariant (P := fun w => w.SparesAgent agent (db.view agent))
    (I := fun d => d.view agent = db.view agent) ?_ hspares rfl
  intro n w d d' hw heffect hd
  rw [engine_effect] at heffect
  rw [← hd] at hw
  rw [Write.effect_view heffect hw, hd]

/-! ## Operations -/

/-- The ids of the entities that an operation saves or retires. -/
def TransactionOp.touched : TransactionOp → List SqlText
  | .saveSummary .. => []
  | .saveEntity entity => bindText entity.id ::
      if entity.supersededEntityId.isEmpty then [] else [bindText entity.supersededEntityId]
  | .saveRelation relation =>
      if relation.relationType = ascii "supersedes" then [bindText relation.toEntityId] else []
  | .markEntityObsolete entityId _ => [bindText entityId]
  | .saveConsolidationCursor .. => []

/-- The agent that an operation is for, if it names one. -/
def TransactionOp.agent? : TransactionOp → Option SqlText
  | .saveSummary agentId .. => some (bindText agentId)
  | .saveEntity entity => some (bindText entity.agentId)
  | .saveRelation relation => some (bindText relation.agentId)
  | .markEntityObsolete .. => none
  | .saveConsolidationCursor agentId .. => some (bindText agentId)

/-- What an operation for another agent, on entities the agent does not have, executes. -/
theorem statements_spareAgent {op : TransactionOp} {ws : List Write} (h : op.statements = .ok ws)
    {agent : SqlText} {view : AgentView} (hagent : op.agent? ≠ some agent)
    (htouched : ∀ id ∈ op.touched, view.Lacks id) : ∀ w ∈ ws, w.SparesAgent agent view := by
  cases op with
  | saveSummary agentId sessionId level topic summary confidence sourceRefs =>
      obtain ⟨refsStr, -, rfl⟩ := saveSummary_statements h
      intro w hw
      rw [List.mem_singleton.mp hw]
      exact fun heq => hagent (congrArg some heq)
  | saveEntity entity =>
      obtain ⟨refsStr, metadataStr, -, -, rfl⟩ := saveEntity_statements h
      have hother : bindText entity.agentId ≠ agent := fun heq => hagent (congrArg some heq)
      intro w hw
      rw [List.mem_append, List.mem_cons] at hw
      rcases hw with hw | rfl | hw
      · rw [mem_duplicateMarking hw]
        exact hother
      · exact ⟨hother, htouched _ List.mem_cons_self⟩
      · obtain ⟨hne, rfl⟩ := mem_entity_supersession hw
        exact htouched _ (by simp [TransactionOp.touched, hne])
  | saveRelation relation =>
      obtain ⟨refsStr, metadataStr, -, -, rfl⟩ := saveRelation_statements h
      have hother : bindText relation.agentId ≠ agent := fun heq => hagent (congrArg some heq)
      intro w hw
      rw [List.mem_cons, List.mem_cons] at hw
      rcases hw with rfl | rfl | hw
      · exact hother
      · exact hother
      · obtain ⟨htype, rfl⟩ := mem_relation_supersession hw
        exact htouched _ (by simp [TransactionOp.touched, htype])
  | markEntityObsolete entityId supersededBy =>
      cases h
      intro w hw
      rw [List.mem_singleton.mp hw]
      exact htouched _ (List.mem_singleton_self _)
  | saveConsolidationCursor agentId sessionId cursor =>
      cases h
      intro w hw
      rw [List.mem_singleton.mp hw]
      exact fun heq => hagent (congrArg some heq)

theorem statementsOf_spareAgent {ops : List TransactionOp} {ws : List Write}
    (h : statementsOf ops = .ok ws) {agent : SqlText} {view : AgentView}
    (hops : ∀ op ∈ ops, op.agent? ≠ some agent ∧ ∀ id ∈ op.touched, view.Lacks id) :
    ∀ w ∈ ws, w.SparesAgent agent view := by
  intro w hw
  obtain ⟨op, hop, ws', hop', hw'⟩ := mem_statementsOf h hw
  exact statements_spareAgent hop' (hops op hop).1 (hops op hop).2 w hw'

end AgentMemory
