import AgentMemory.Verification.Entities.GeneratedIds

/-! # The confidences in the store

Confidences enter the store by the saves of a consolidation and nowhere else. The levels of the
summaries and of the rules are fixed, but what a model gives as confidence is stored as it is. -/

namespace AgentMemory

open Foundation

/-- The range that the public types document. -/
def InRange (confidence : ℚ) : Prop :=
  0 ≤ confidence ∧ confidence ≤ 1

instance (confidence : ℚ) : Decidable (InRange confidence) :=
  inferInstanceAs (Decidable (_ ∧ _))

theorem inRange_half : InRange (1 / 2) := by
  decide +kernel

theorem inRange_threeFifths : InRange (5033165 / 8388608) := by
  decide +kernel

structure Database.ConfidencesInRange (db : Database) : Prop where
  summaries : ∀ r ∈ db.summaries.rows, InRange r.2.confidence
  entities : ∀ r ∈ db.entityRows, InRange r.2.confidence
  relations : ∀ r ∈ db.relations.rows, InRange r.2.confidence

/-! ## What the statements do to the confidences -/

/-- A confidence and what it is one of: a summary, the entity with an id, a relation. -/
inductive StoredConfidence where
  | summary (confidence : ℚ)
  | entity (id : SqlText) (confidence : ℚ)
  | relation (confidence : ℚ)

def StoredConfidence.value : StoredConfidence → ℚ
  | .summary confidence => confidence
  | .entity _ confidence => confidence
  | .relation confidence => confidence

/-- Only an entity takes the place of another, of the one with its id. -/
def StoredConfidence.Replaces : StoredConfidence → StoredConfidence → Prop
  | .entity i _, .entity j _ => i = j
  | _, _ => False

def Database.Holds (db : Database) : StoredConfidence → Prop
  | .summary q => ∃ r ∈ db.summaries.rows, r.2.confidence = q
  | .entity i q => ∃ r ∈ db.entityRows, r.2.id = i ∧ r.2.confidence = q
  | .relation q => ∃ r ∈ db.relations.rows, r.2.confidence = q

theorem confidencesInRange_iff {db : Database} :
    db.ConfidencesInRange ↔ ∀ s, db.Holds s → InRange s.value := by
  constructor
  · intro h s hs
    cases s with
    | summary q =>
        obtain ⟨r, hr, rfl⟩ := hs
        exact h.summaries r hr
    | entity i q =>
        obtain ⟨r, hr, -, rfl⟩ := hs
        exact h.entities r hr
    | relation q =>
        obtain ⟨r, hr, rfl⟩ := hs
        exact h.relations r hr
  · intro h
    exact ⟨fun r hr => h (.summary _) ⟨r, hr, rfl⟩, fun r hr => h (.entity _ _) ⟨r, hr, rfl, rfl⟩,
      fun r hr => h (.relation _) ⟨r, hr, rfl⟩⟩

/-- The confidence that a statement stores. -/
def Write.stores : Write → Option StoredConfidence
  | .insertSummary v => some (.summary v.confidence)
  | .upsertEntity v => some (.entity v.id v.confidence)
  | .insertRelation v => some (.relation v.confidence)
  | _ => none

section Statements

variable {now : Text} {w : Write} {db db' : Database}

theorem holds_updateEntities {p : EntityRow → Bool} {supersededBy : SqlText}
    (s : StoredConfidence) :
    (db.updateEntities p (EntityRow.obsolete now supersededBy)).Holds s ↔ db.Holds s := by
  cases s with
  | summary q => exact Iff.rfl
  | relation q => exact Iff.rfl
  | entity i q =>
      have hkept : ∀ r : EntityRow,
          (if p r then r.obsolete now supersededBy else r).id = r.id ∧
            (if p r then r.obsolete now supersededBy else r).confidence = r.confidence := by
        intro r
        split
        · exact ⟨rfl, rfl⟩
        · exact ⟨rfl, rfl⟩
      simp [Database.Holds, Database.entityRows, Database.updateEntities, hkept]

theorem holds_updateRelations {p : RelationRow → Bool} {f : RelationRow → RelationRow}
    (hf : ∀ r, (f r).confidence = r.confidence) (s : StoredConfidence) :
    (db.updateRelations p f).Holds s ↔ db.Holds s := by
  cases s with
  | summary q => exact Iff.rfl
  | entity i q => exact Iff.rfl
  | relation q =>
      have hkept : ∀ r : RelationRow, (if p r then f r else r).confidence = r.confidence := by
        intro r
        split
        · exact hf r
        · rfl
      simp [Database.Holds, Database.updateRelations, hkept]

theorem holds_insertSummary {v : SummaryValues}
    (h : (Write.insertSummary v).effect now db = some db') (s : StoredConfidence) :
    db'.Holds s ↔ .summary v.confidence = s ∨ db.Holds s := by
  obtain ⟨summaries, hins, h⟩ := Option.bind_eq_some_iff.mp h
  cases h
  obtain ⟨i, -, hrows, -⟩ := IndexedTable.insert_eq_some _ hins
  cases s with
  | summary q =>
      simp only [Database.Holds, hrows, List.mem_append, List.mem_singleton, or_and_right,
        exists_or, exists_eq_left, StoredConfidence.summary.injEq]
      exact or_comm
  | entity i q => simp [Database.Holds, Database.entityRows]
  | relation q => simp [Database.Holds]

theorem holds_insertRelation {v : RelationValues}
    (h : (Write.insertRelation v).effect now db = some db') (s : StoredConfidence) :
    db'.Holds s ↔ .relation v.confidence = s ∨ db.Holds s := by
  obtain ⟨relations, hins, h⟩ := Option.bind_eq_some_iff.mp h
  cases h
  obtain ⟨i, -, hrows, -⟩ := IndexedTable.insert_eq_some _ hins
  cases s with
  | relation q =>
      simp only [Database.Holds, hrows, List.mem_append, List.mem_singleton, or_and_right,
        exists_or, exists_eq_left, StoredConfidence.relation.injEq]
      exact or_comm
  | entity i q => simp [Database.Holds, Database.entityRows]
  | summary q => simp [Database.Holds]

theorem holds_upsertEntity {v : EntityValues}
    (h : (Write.upsertEntity v).effect now db = some db') (s : StoredConfidence) :
    db'.Holds s ↔ .entity v.id v.confidence = s ∨
      (db.Holds s ∧ ¬StoredConfidence.Replaces (.entity v.id v.confidence) s) := by
  have hsame := Write.effect_sameExcept h
  cases s with
  | summary q =>
      rw [Database.Holds, hsame.summaries (by simp [Write.table])]
      simp [Database.Holds, StoredConfidence.Replaces]
  | relation q =>
      rw [Database.Holds, hsame.relations (by simp [Write.table])]
      simp [Database.Holds, StoredConfidence.Replaces]
  | entity i q =>
      simp only [Database.Holds, StoredConfidence.Replaces, StoredConfidence.entity.injEq]
      constructor
      · rintro ⟨r, hr, rfl, rfl⟩
        rcases mem_upsert_cases h hr with ⟨hold, hid⟩ | hv
        · exact .inr ⟨⟨r, hold, rfl, rfl⟩, fun heq => hid heq.symm⟩
        · rw [hv]
          exact .inl ⟨rfl, rfl⟩
      · rintro (⟨rfl, rfl⟩ | ⟨⟨r, hr, rfl, rfl⟩, hid⟩)
        · obtain ⟨r, hr, hv⟩ := exists_mem_upsert h
          exact ⟨r, hr, by rw [hv], by rw [hv]⟩
        · exact ⟨r, mem_upsert_of_mem h hr fun heq => hid heq.symm, rfl, rfl⟩

/-- A confidence is stored after a statement that stores it, or if it was before and the statement
does not store another in its place. -/
theorem effect_holds (h : w.effect now db = some db') (s : StoredConfidence) :
    db'.Holds s ↔ (∃ s', w.stores = some s' ∧ s' = s) ∨
      (db.Holds s ∧ ¬∃ s', w.stores = some s' ∧ s'.Replaces s) := by
  have hkept : w.stores = none → (db'.Holds s ↔ db.Holds s) →
      (db'.Holds s ↔ (∃ s', w.stores = some s' ∧ s' = s) ∨
        (db.Holds s ∧ ¬∃ s', w.stores = some s' ∧ s'.Replaces s)) := by
    intro hnone hsame
    simp [hnone, hsame]
  have hother : w.table ≠ some .summaries → w.table ≠ some .entities →
      w.table ≠ some .relations → (db'.Holds s ↔ db.Holds s) := by
    intro hsummaries hentities hrelations
    have hsame := Write.effect_sameExcept h
    cases s with
    | summary q => rw [Database.Holds, hsame.summaries hsummaries, Database.Holds]
    | entity i q =>
        rw [Database.Holds, Database.entityRows, hsame.entities hentities]
        rfl
    | relation q => rw [Database.Holds, hsame.relations hrelations, Database.Holds]
  cases w with
  | insertSummary v =>
      rw [holds_insertSummary h]
      simp [Write.stores, StoredConfidence.Replaces]
  | upsertEntity v =>
      rw [holds_upsertEntity h]
      simp [Write.stores]
  | insertRelation v =>
      rw [holds_insertRelation h]
      simp [Write.stores, StoredConfidence.Replaces]
  | markDuplicateEntities id agentId entityType name =>
      apply hkept rfl
      cases h
      exact holds_updateEntities s
  | markEntityObsolete entityId supersededBy =>
      apply hkept rfl
      cases h
      exact holds_updateEntities s
  | deactivateRelation fromEntity relation toEntity agentId =>
      apply hkept rfl
      cases h
      refine holds_updateRelations ?_ s
      exact fun r => rfl
  | prepare =>
      apply hkept rfl
      apply hother <;> simp [Write.table]
  | insertEvent v =>
      apply hkept rfl
      apply hother <;> simp [Write.table]
  | upsertPayload v =>
      apply hkept rfl
      apply hother <;> simp [Write.table]
  | upsertCursor agentId sessionId cursor =>
      apply hkept rfl
      apply hother <;> simp [Write.table]

/-- Statements store the confidences that no later one of them replaces. -/
theorem applied_holds {host : Host} {ws : List Write}
    (h : Session.Applied host.engine ws db db') (s : StoredConfidence) :
    db'.Holds s ↔ Session.Leaves Eq StoredConfidence.Replaces (ws.filterMap Write.stores) s ∨
      (db.Holds s ∧ ∀ w ∈ ws, ¬∃ s', w.stores = some s' ∧ s'.Replaces s) := by
  rw [Session.leaves_filterMap]
  apply h.facts (F := Database.Holds)
  intro n w d d' heffect s
  exact effect_holds heffect s

theorem applied_inRange_iff {host : Host} {ws : List Write}
    (h : Session.Applied host.engine ws db db') (hdb : db.ConfidencesInRange) :
    db'.ConfidencesInRange ↔
      ∀ s, Session.Leaves Eq StoredConfidence.Replaces (ws.filterMap Write.stores) s →
        InRange s.value := by
  rw [confidencesInRange_iff]
  constructor
  · exact fun h' s hs => h' s ((applied_holds h s).mpr (.inl hs))
  · intro hleaves s hs
    rcases (applied_holds h s).mp hs with hs | ⟨hs, -⟩
    · exact hleaves s hs
    · exact confidencesInRange_iff.mp hdb s hs

end Statements

/-! ## What the operations store -/

/-- The confidence that an operation stores. -/
def TransactionOp.stores : TransactionOp → Option StoredConfidence
  | .saveSummary _ _ _ _ _ confidence _ => some (.summary confidence)
  | .saveEntity entity => some (.entity (bindText entity.id) entity.confidence)
  | .saveRelation relation => some (.relation relation.confidence)
  | _ => none

theorem statements_stores {op : TransactionOp} {ws : List Write} (h : op.statements = .ok ws) :
    ws.filterMap Write.stores = op.stores.toList := by
  cases op with
  | saveSummary agentId sessionId level topic summary confidence sourceRefs =>
      obtain ⟨refsStr, -, rfl⟩ := saveSummary_statements h
      rfl
  | saveEntity entity =>
      obtain ⟨refsStr, metadataStr, -, -, rfl⟩ := saveEntity_statements h
      have hmarking : entity.duplicateMarking.filterMap Write.stores = [] :=
        List.filterMap_eq_nil_iff.mpr fun w hw => by rw [mem_duplicateMarking hw]; rfl
      have hsuper : entity.supersession.filterMap Write.stores = [] :=
        List.filterMap_eq_nil_iff.mpr fun w hw => by rw [(mem_entity_supersession hw).2]; rfl
      rw [List.filterMap_append, hmarking, List.filterMap_cons, hsuper]
      rfl
  | saveRelation relation =>
      obtain ⟨refsStr, metadataStr, -, -, rfl⟩ := saveRelation_statements h
      have hsuper : relation.supersession.filterMap Write.stores = [] :=
        List.filterMap_eq_nil_iff.mpr fun w hw => by rw [(mem_relation_supersession hw).2]; rfl
      rw [List.filterMap_cons_none rfl, List.filterMap_cons, hsuper]
      rfl
  | markEntityObsolete entityId supersededBy =>
      cases h
      rfl
  | saveConsolidationCursor agentId sessionId cursor =>
      cases h
      rfl

theorem statementsOf_stores {ops : List TransactionOp} {ws : List Write}
    (h : statementsOf ops = .ok ws) :
    ws.filterMap Write.stores = ops.filterMap TransactionOp.stores := by
  induction ops generalizing ws with
  | nil =>
      cases h
      rfl
  | cons op ops ih =>
      obtain ⟨ws₁, ws₂, hop, hrest, rfl⟩ := statementsOf_cons h
      rw [List.filterMap_append, statements_stores hop, ih hrest, List.filterMap_cons]
      cases op.stores <;> rfl

/-- Operations after which every confidence that they leave in the store is in range. -/
structure LeaveInRange (ops : List TransactionOp) : Prop where
  /-- A later save of an entity with the same stored id takes the place of an earlier one. -/
  entities : ∀ before entity after, ops = before ++ .saveEntity entity :: after →
    (∀ later, .saveEntity later ∈ after → bindText later.id ≠ bindText entity.id) →
      InRange entity.confidence
  relations : ∀ relation, .saveRelation relation ∈ ops → InRange relation.confidence

/-- The levels of summaries are fixed. -/
def FixedLevels (ops : List TransactionOp) : Prop :=
  ∀ op ∈ ops, ∀ q, op.stores = some (.summary q) → InRange q

theorem replaces_entity_iff {s : StoredConfidence} {i : SqlText} {q : ℚ} :
    s.Replaces (.entity i q) ↔ ∃ p, s = .entity i p := by
  cases s with
  | entity j p => simp [StoredConfidence.Replaces]
  | summary p => simp [StoredConfidence.Replaces]
  | relation p => simp [StoredConfidence.Replaces]

theorem stores_eq_entity_iff {op : TransactionOp} {i : SqlText} {q : ℚ} :
    op.stores = some (.entity i q) ↔
      ∃ entity, op = .saveEntity entity ∧ bindText entity.id = i ∧ entity.confidence = q := by
  cases op <;> simp [TransactionOp.stores]

theorem stores_eq_relation_iff {op : TransactionOp} {q : ℚ} :
    op.stores = some (.relation q) ↔
      ∃ relation, op = .saveRelation relation ∧ relation.confidence = q := by
  cases op <;> simp [TransactionOp.stores]

theorem leaveInRange_iff {ops : List TransactionOp} (hlevels : FixedLevels ops) :
    (∀ s, Session.Leaves Eq StoredConfidence.Replaces (ops.filterMap TransactionOp.stores) s →
      InRange s.value) ↔ LeaveInRange ops := by
  constructor
  · intro h
    constructor
    · intro before entity after hops hlast
      apply h (.entity (bindText entity.id) entity.confidence)
      rw [Session.leaves_filterMap]
      refine ⟨before, _, after, hops, ⟨_, rfl, rfl⟩, ?_⟩
      rintro op hop ⟨s', hs', hreplaces⟩
      obtain ⟨p, rfl⟩ := replaces_entity_iff.mp hreplaces
      obtain ⟨later, rfl, hid, -⟩ := stores_eq_entity_iff.mp hs'
      exact hlast later hop hid
    · intro relation hrelation
      obtain ⟨before, after, hops⟩ := List.append_of_mem hrelation
      apply h (.relation relation.confidence)
      rw [Session.leaves_filterMap]
      refine ⟨before, _, after, hops, ⟨_, rfl, rfl⟩, ?_⟩
      rintro op - ⟨s', -, hreplaces⟩
      cases s' <;> exact hreplaces
  · intro h s hs
    rw [Session.leaves_filterMap] at hs
    obtain ⟨before, op, after, hops, ⟨_, hstores, rfl⟩, hlast⟩ := hs
    have hop : op ∈ ops := by
      rw [hops]
      simp
    rename_i s
    cases s with
    | summary q => exact hlevels op hop q hstores
    | relation q =>
        obtain ⟨relation, rfl, rfl⟩ := stores_eq_relation_iff.mp hstores
        exact h.relations relation hop
    | entity i q =>
        obtain ⟨entity, rfl, rfl, rfl⟩ := stores_eq_entity_iff.mp hstores
        refine h.entities before entity after hops fun later hlater hid => ?_
        refine hlast _ hlater ⟨_, rfl, ?_⟩
        rw [hid]
        exact replaces_entity_iff.mpr ⟨_, rfl⟩

/-- Operations all of whose items are in range leave only such confidences. -/
theorem leaveInRange_of_items {ops : List TransactionOp}
    (hentities : ∀ entity, .saveEntity entity ∈ ops → InRange entity.confidence)
    (hrelations : ∀ relation, .saveRelation relation ∈ ops → InRange relation.confidence) :
    LeaveInRange ops where
  entities before entity after hops _ := hentities entity (by rw [hops]; simp)
  relations := hrelations

/-! ## Where the confidences of a call come from -/

section Call

variable {host : Host} {request : MemoryConsolidationRequest} {events : List MemoryEvent}
  {model : Option MemoryModelClient}

/-- The operations before the first that cannot be serialised. -/
def reached (ops : List TransactionOp) : List TransactionOp :=
  ops.takeWhile fun op => op.statements.toOption.isSome

/-- The saves that the model's answer leads to leave only confidences in range. -/
def AnswersInRange (host : Host) (request : MemoryConsolidationRequest)
    (events : List MemoryEvent) (model : Option MemoryModelClient) : Prop :=
  LeaveInRange (reached (persistOperations request (build request events)
    (answeredUpdate host model (build request events).batch)))

theorem statementsOf_isSome {ops : List TransactionOp} {ws : List Write}
    (h : statementsOf ops = .ok ws) : ∀ op ∈ ops, op.statements.toOption.isSome := by
  induction ops generalizing ws with
  | nil => simp
  | cons op ops ih =>
      obtain ⟨ws₁, ws₂, hop, hrest, -⟩ := statementsOf_cons h
      rw [List.forall_mem_cons]
      exact ⟨by rw [hop]; rfl, ih hrest⟩

theorem reached_of_statementsOf {ops : List TransactionOp} {ws : List Write}
    (h : statementsOf ops = .ok ws) : reached ops = ops :=
  List.takeWhile_eq_self_iff.mpr (statementsOf_isSome h)

theorem reached_of_split {before after : List TransactionOp} {op : TransactionOp} {ws : List Write}
    {e : CxxException} (h : statementsOf before = .ok ws) (hop : op.statements = .error e) :
    reached (before ++ op :: after) = before := by
  unfold reached
  rw [List.takeWhile_append_of_pos (statementsOf_isSome h), List.takeWhile_cons_of_neg]
  · simp
  · rw [hop]
    simp [Except.toOption]

theorem mem_of_mem_reached {ops : List TransactionOp} {op : TransactionOp}
    (h : op ∈ reached ops) : op ∈ ops :=
  (List.takeWhile_sublist _).subset h

/-- The places where the write phase gets its confidences from: three levels for the summaries,
the entities and the relations of the update. -/
theorem persistOperations_stores {buildResult : ConsolidationBatchBuildResult}
    {update : LongTermMemoryUpdate} {op : TransactionOp}
    (h : op ∈ persistOperations request buildResult update) :
    op.stores = none ∨ op.stores = some (.summary (1 / 2)) ∨
      op.stores = some (.summary (5033165 / 8388608)) ∨
      (∃ own ∈ update.entities, ∃ entity, op = .saveEntity entity ∧
        entity.confidence = own.confidence) ∨
      ∃ own ∈ update.relations, ∃ relation, op = .saveRelation relation ∧
        relation.confidence = own.confidence := by
  have hcursor : op ∈ cursorOperations request buildResult.nextCursor → op.stores = none := by
    intro h
    unfold cursorOperations at h
    split at h
    · cases h
    · rw [List.mem_singleton.mp h]
      rfl
  unfold persistOperations at h
  split at h
  · exact .inl (hcursor h)
  · rw [consolidationOperations, List.mem_append, List.mem_append, List.mem_singleton] at h
    rcases h with rfl | h | h
    · exact .inr (.inl rfl)
    · simp only [LongTermMemoryUpdate.operations, List.mem_append, List.mem_map,
        List.mem_flatMap] at h
      rcases h with ((⟨summary, -, rfl⟩ | ⟨summary, -, rfl⟩) | ⟨own, hown, h⟩) | ⟨own, hown, rfl⟩
      · exact .inr (.inl rfl)
      · exact .inr (.inr (.inl rfl))
      · rw [entityOperations, List.mem_cons] at h
        rcases h with rfl | h
        · exact .inr (.inr (.inr (.inl ⟨own, hown, _, rfl, rfl⟩)))
        · split at h
          · cases h
          · rw [List.mem_singleton.mp h]
            exact .inl rfl
      · exact .inr (.inr (.inr (.inr ⟨own, hown, _, rfl, rfl⟩)))
    · exact .inl (hcursor h)

theorem fixedLevels_persistOperations (buildResult : ConsolidationBatchBuildResult)
    (update : LongTermMemoryUpdate) :
    FixedLevels (reached (persistOperations request buildResult update)) := by
  intro op hop q hstores
  rcases persistOperations_stores (mem_of_mem_reached hop) with h | h | h |
    ⟨_, _, _, h, _⟩ | ⟨_, _, _, h, _⟩
  · rw [h] at hstores
    cases hstores
  · rw [h] at hstores
    cases hstores
    exact inRange_half
  · rw [h] at hstores
    cases hstores
    exact inRange_threeFifths
  · rw [h] at hstores
    cases hstores
  · rw [h] at hstores
    cases hstores

/-- All items of the update are in range. -/
structure LongTermMemoryUpdate.InRange (update : LongTermMemoryUpdate) : Prop where
  entities : ∀ entity ∈ update.entities, AgentMemory.InRange entity.confidence
  relations : ∀ relation ∈ update.relations, AgentMemory.InRange relation.confidence

theorem leaveInRange_of_update {buildResult : ConsolidationBatchBuildResult}
    {update : LongTermMemoryUpdate} (h : update.InRange) :
    LeaveInRange (reached (persistOperations request buildResult update)) := by
  apply leaveInRange_of_items
  · intro entity hentity
    rcases persistOperations_stores (mem_of_mem_reached hentity) with hnone | hsummary | hsummary |
      ⟨own, hown, _, heq, hconfidence⟩ | ⟨own, -, _, heq, -⟩
    · cases hnone
    · cases hsummary
    · cases hsummary
    · cases heq
      rw [hconfidence]
      exact h.entities own hown
    · cases heq
  · intro relation hrelation
    rcases persistOperations_stores (mem_of_mem_reached hrelation) with hnone | hsummary |
      hsummary | ⟨own, -, _, heq, -⟩ | ⟨own, hown, _, heq, hconfidence⟩
    · cases hnone
    · cases hsummary
    · cases hsummary
    · cases heq
    · cases heq
      rw [hconfidence]
      exact h.relations own hown

theorem ruleBasedProcess_inRange (batch : LongTermMemoryBatch) :
    (ruleBasedProcess batch).InRange := by
  have h := ruleBasedProcess_items (P := fun entity => InRange entity.confidence)
    (R := fun relation => InRange relation.confidence)
    (fun _ _ _ _ => inRange_half) (fun _ _ => inRange_threeFifths) (fun _ _ => inRange_half) batch
  exact ⟨h.1, h.2⟩

theorem inRange_of_not_isNonempty {update : LongTermMemoryUpdate}
    (h : update.isNonempty = false) : update.InRange := by
  simp only [LongTermMemoryUpdate.isNonempty, Bool.or_eq_false_iff, Bool.not_eq_false',
    List.isEmpty_iff] at h
  exact ⟨by simp [h.1.2], by simp [h.2]⟩

/-- The write phase has no effect, or that of the operations that it reaches. -/
theorem persist_reached (request : MemoryConsolidationRequest)
    (buildResult : ConsolidationBatchBuildResult) (update : LongTermMemoryUpdate)
    (fallbackUsed : Bool) (c : Connection) :
    let p := persist request buildResult update fallbackUsed
    (p.refuses host c = true ∧ (p.runOn host c).2.current = c.current) ∨
      (p.refuses host c = false ∧
        ∃ ws, statementsOf (reached (persistOperations request buildResult update)) = .ok ws ∧
          Session.Applied host.engine ws c.current (p.runOn host c).2.current) := by
  intro p
  rcases persist_cases host request buildResult update fallbackUsed c with
    ⟨hrefuses, -, result, clock, -, hrun⟩ | ⟨hrefuses, -, ws, c', hws, happlied, -, hrun⟩ |
    ⟨hrefuses, -, before, op, after, e, ws, hsplit, hop, hws, happlied, -, -, -⟩
  · refine .inl ⟨hrefuses, ?_⟩
    rw [hrun]
  · refine .inr ⟨hrefuses, ws, ?_, ?_⟩
    · rw [reached_of_statementsOf hws]
      exact hws
    · rw [hrun]
      exact happlied
  · refine .inr ⟨hrefuses, ws, ?_, happlied⟩
    rw [hsplit, reached_of_split hws hop]
    exact hws

/-- With all stored confidences in range before the write phase, they are afterwards exactly when
a statement is refused or what is saved is in range. -/
theorem persist_inRange_iff (request : MemoryConsolidationRequest)
    (buildResult : ConsolidationBatchBuildResult) (update : LongTermMemoryUpdate)
    (fallbackUsed : Bool) {c : Connection} (hc : c.current.ConfidencesInRange) :
    ((persist request buildResult update fallbackUsed).runOn host c).2.current.ConfidencesInRange ↔
      ((persist request buildResult update fallbackUsed).refuses host c = false →
        LeaveInRange (reached (persistOperations request buildResult update))) := by
  rcases @persist_reached host request buildResult update fallbackUsed c with
    ⟨hrefuses, hsame⟩ | ⟨hrefuses, ws, hws, happlied⟩
  · rw [hsame, hrefuses]
    simp [hc]
  · rw [applied_inRange_iff happlied hc, statementsOf_stores hws,
      leaveInRange_iff (fixedLevels_persistOperations buildResult update), hrefuses]
    simp

end Call

/-- With the rules as fallback or none, a call from a state in which all stored confidences are in
range keeps them there exactly when SQLite refuses a statement of it or the saves that the model's
answer leads to leave only confidences in range. -/
theorem consolidate_confidencesInRange_iff (host : Host)
    {fallback : Option LongTermMemoryProcessor}
    (hfallback : ∀ process, fallback = some process → process = ruleBasedProcess)
    (request : MemoryConsolidationRequest) (events : List MemoryEvent)
    (model : Option MemoryModelClient) {c : Connection} (hc : c.current.ConfidencesInRange) :
    let p := consolidate host fallback request events model
    (p.runOn host c).2.current.ConfidencesInRange ↔
      (p.refuses host c = false → AnswersInRange host request events model) := by
  intro p
  have hrun := run_consolidate host fallback request events model c
  have hrefuses := refuses_consolidate host fallback request events model c
  cases hextract : extract host fallback model (build request events) with
  | error e =>
      rw [hextract] at hrun
      have hanswered := answeredUpdate_of_error hextract
      have hafter : (p.runOn host c).2 = c := by rw [hrun]
      rw [hafter]
      refine iff_of_true hc fun _ => ?_
      unfold AnswersInRange
      rw [hanswered]
      exact leaveInRange_of_update (inRange_of_not_isNonempty rfl)
  | ok extracted =>
      obtain ⟨update, fallbackUsed⟩ := extracted
      rw [hextract] at hrun hrefuses
      have hafter : (p.runOn host c).2 =
          ((persist request (build request events) update fallbackUsed).runOn host c).2 := by
        rw [hrun]
      rw [hafter, hrefuses, persist_inRange_iff request _ update fallbackUsed hc]
      apply imp_congr_right
      intro _
      unfold AnswersInRange
      rcases extract_answered hextract with hsame | ⟨hempty, process, hprocess, hsame⟩
      · rw [← hsame]
      · obtain rfl := hfallback process hprocess
        have hrules : update = ruleBasedProcess (build request events).batch := hsame
        rw [hrules]
        exact iff_of_true (leaveInRange_of_update (ruleBasedProcess_inRange _))
          (leaveInRange_of_update (inRange_of_not_isNonempty hempty))

theorem confidencesInRange_empty : Database.empty.ConfidencesInRange where
  summaries r hr := by cases hr
  entities r hr := by cases hr
  relations r hr := by cases hr

/-- The text of an answer with one entity. -/
def answerText (confidence : ℕ) : Text :=
  ascii "\x7b\"entities\":[\x7b\"id\":\"entity:style.short\",\"confidence\":" ++
    decimal confidence ++ ascii "\x7d]\x7d"

/-- A host that refuses nothing and reads the text of that answer. -/
def readingAnswer (confidence : ℕ) : Host where
  outcome _ := {}
  parseJson text := if text = answerText confidence then
      some (.object [(ascii "entities", .array [.object
        [(ascii "confidence", .unsigned confidence),
          (ascii "id", .string (ascii "entity:style.short"))]])])
    else none

def answeringWith (confidence : ℕ) : MemoryModelClient := fun _ =>
  .ok { text := answerText confidence }

/-- The state after a consolidation of one message with that answer, on a new database. -/
def afterAnswerOf (confidence : ℕ) : Connection :=
  ((consolidate (readingAnswer confidence) (some ruleBasedProcess) (sessionRequest (ascii "s"))
    (sessionLog (ascii "s")) (some (answeringWith confidence))).runOn (readingAnswer confidence)
      { current := .empty }).2

/-- An answer that is certain of its entity. -/
theorem consolidate_confidencesInRange_certain :
    (afterAnswerOf 1).current.ConfidencesInRange := by
  have hrules : ∀ process, some ruleBasedProcess = some process → process = ruleBasedProcess := by
    rintro process heq
    cases heq
    rfl
  refine (consolidate_confidencesInRange_iff (readingAnswer 1) hrules _ _ _
    confidencesInRange_empty).mpr fun _ => ?_
  refine leaveInRange_of_update ⟨fun entity hentity => ?_, fun relation hrelation => ?_⟩
  · have hall : (answeredUpdate (readingAnswer 1) (some (answeringWith 1))
        (build (sessionRequest (ascii "s")) (sessionLog (ascii "s"))).batch).entities.all
          (fun entity => decide (InRange entity.confidence)) = true := by
      decide +kernel
    exact of_decide_eq_true (List.all_eq_true.mp hall entity hentity)
  · have hnone : (answeredUpdate (readingAnswer 1) (some (answeringWith 1))
        (build (sessionRequest (ascii "s")) (sessionLog (ascii "s"))).batch).relations = [] := rfl
    rw [hnone] at hrelation
    cases hrelation

/-- A confidence of seven is stored as the model gave it. -/
theorem consolidate_not_confidencesInRange :
    Database.empty.ConfidencesInRange ∧ ¬(afterAnswerOf 7).current.ConfidencesInRange := by
  refine ⟨confidencesInRange_empty, fun h => ?_⟩
  have hstored : (afterAnswerOf 7).current.entityRows.any
      (fun r => decide (¬InRange r.2.confidence)) = true := by
    decide +kernel
  obtain ⟨r, hr, hout⟩ := List.any_eq_true.mp hstored
  exact of_decide_eq_true hout (h.entities r hr)

end AgentMemory
