import AgentMemory.Model.Consolidation
import AgentMemory.Verification.Store.Frame
import AgentMemory.Verification.Transactions.Operations

/-! # The update writer as a list of operations

`SaveUpdate` is four loops that return at the first operation that fails. They amount to one list
of operations executed until the first failure, with the counts known beforehand. -/

namespace AgentMemory

open Foundation

/-! ## The loops of `SaveUpdate` -/

/-- The rest of a loop body or of a loop once its operations are done. -/
def counting (counted : MemoryUpdateWriteResult) :
    Option MemoryOperationResult → Work WriteStep
  | none => return .ok counted
  | some failed => return .error (failedWrite failed)

theorem save_eq (op : TransactionOp) (counted : MemoryUpdateWriteResult) :
    save op counted = saveAll [op] >>= counting counted := by
  simp only [save, saveAll, Program.bind_assoc]
  congr 1
  funext operation
  cases operation.succeeded <;> rfl

/-- A loop whose bodies each execute some operations and count once: `total n` is the result
after `n` rounds. -/
theorem forEach_eq {α : Type} (body : α → MemoryUpdateWriteResult → Work WriteStep)
    (operations : α → List TransactionOp) (total : ℕ → MemoryUpdateWriteResult)
    (hbody : ∀ item n, body item (total n) =
      saveAll (operations item) >>= counting (total (n + 1)))
    (items : List α) (n : ℕ) :
    forEach body items (total n) =
      saveAll (items.flatMap operations) >>= counting (total (n + items.length)) := by
  induction items generalizing n with
  | nil => rfl
  | cons item rest ih =>
      rw [List.flatMap_cons, saveAll_append, Program.bind_assoc, forEach, hbody,
        Program.bind_assoc]
      congr 1
      funext outcome
      cases outcome with
      | some failed => rfl
      | none =>
          have hlength : n + (item :: rest).length = n + 1 + rest.length := by
            simp only [List.length_cons]
            omega
          rw [hlength]
          exact ih (n + 1)

/-! ## The operations of an update -/

def topicOperation (agentId sessionId : Text) (sourceRefs : List Text) (topicSummary : Text) :
    TransactionOp :=
  .saveSummary agentId sessionId (ascii "topic") (ascii "auto") topicSummary (1 / 2) sourceRefs

def profileOperation (agentId sessionId : Text) (sourceRefs : List Text) (profileSummary : Text) :
    TransactionOp :=
  .saveSummary agentId sessionId (ascii "profile") (ascii "user") profileSummary
    (5033165 / 8388608) sourceRefs

/-- The entity is saved, and then the one it supersedes is retired once more. -/
def entityOperations (agentId : Text) (entity : MemoryEntity) : List TransactionOp :=
  let e := { entity with agentId := withAgent agentId entity.agentId }
  .saveEntity e ::
    if e.supersededEntityId.isEmpty then [] else [.markEntityObsolete e.supersededEntityId e.id]

def relationOperation (agentId : Text) (relation : MemoryRelation) : TransactionOp :=
  .saveRelation { relation with agentId := withAgent agentId relation.agentId }

/-- The operations of `SaveUpdate`, in order. -/
def LongTermMemoryUpdate.operations (update : LongTermMemoryUpdate) (agentId sessionId : Text)
    (sourceRefs : List Text) : List TransactionOp :=
  update.topicSummaries.map (topicOperation agentId sessionId sourceRefs) ++
    update.profileSummaries.map (profileOperation agentId sessionId sourceRefs) ++
    update.entities.flatMap (entityOperations agentId) ++
    update.relations.map (relationOperation agentId)

/-- The counts that `SaveUpdate` returns when nothing fails. -/
def LongTermMemoryUpdate.counts (update : LongTermMemoryUpdate) : MemoryUpdateWriteResult where
  savedSummaries := update.topicSummaries.length + update.profileSummaries.length
  savedEntities := update.entities.length
  savedRelations := update.relations.length

theorem saveUpdateEntity_eq (agentId : Text) (entity : MemoryEntity)
    (result : MemoryUpdateWriteResult) :
    saveUpdateEntity agentId entity result = saveAll (entityOperations agentId entity) >>=
      counting { result with savedEntities := result.savedEntities + 1 } := by
  unfold saveUpdateEntity entityOperations
  simp only [save_eq, saveAll, Program.bind_assoc]
  congr 1
  funext operation
  cases operation.succeeded with
  | false => rfl
  | true =>
      cases entity.supersededEntityId.isEmpty with
      | true => rfl
      | false =>
          simp only [if_true, Bool.false_eq_true, if_false, saveAll, Program.bind_assoc]
          rfl

/-- The two loops over summaries, of which `k` are saved already. -/
theorem summaries_eq (body : Text → MemoryUpdateWriteResult → Work WriteStep)
    (operation : Text → TransactionOp)
    (hbody : ∀ summary result, body summary result = save (operation summary)
      { result with savedSummaries := result.savedSummaries + 1 })
    (summaries : List Text) (k : ℕ) :
    forEach body summaries { savedSummaries := k } = saveAll (summaries.map operation) >>=
      counting { savedSummaries := k + summaries.length } := by
  have h := forEach_eq body (fun summary => [operation summary])
    (fun n => { savedSummaries := (k : ℤ) + n })
    (fun summary n => by
      rw [hbody, save_eq]
      simp [Int.add_assoc]) summaries 0
  rw [← List.map_eq_flatMap] at h
  simpa using h

theorem entities_eq (agentId : Text) (entities : List MemoryEntity) (k : ℤ) :
    forEach (saveUpdateEntity agentId) entities { savedSummaries := k } =
      saveAll (entities.flatMap (entityOperations agentId)) >>=
        counting { savedSummaries := k, savedEntities := entities.length } := by
  have h := forEach_eq (saveUpdateEntity agentId) (entityOperations agentId)
    (fun n => { savedSummaries := k, savedEntities := n })
    (fun entity n => by
      rw [saveUpdateEntity_eq]
      simp) entities 0
  simpa using h

theorem relations_eq (agentId : Text) (relations : List MemoryRelation) (k l : ℤ) :
    forEach (saveUpdateRelation agentId) relations { savedSummaries := k, savedEntities := l } =
      saveAll (relations.map (relationOperation agentId)) >>=
        counting { savedSummaries := k, savedEntities := l, savedRelations := relations.length } := by
  have h := forEach_eq (saveUpdateRelation agentId)
    (fun relation => [relationOperation agentId relation])
    (fun n => { savedSummaries := k, savedEntities := l, savedRelations := n })
    (fun relation n => by
      rw [saveUpdateRelation, save_eq]
      simp [relationOperation]) relations 0
  rw [← List.map_eq_flatMap] at h
  simpa using h

/-- `SaveUpdate` executes the operations of the update until one fails. -/
theorem saveUpdate_eq (agentId sessionId : Text) (update : LongTermMemoryUpdate)
    (sourceRefs : List Text) :
    saveUpdate agentId sessionId update sourceRefs = (do
      match ← saveAll (update.operations agentId sessionId sourceRefs) with
      | none => return update.counts
      | some failed => return failedWrite failed) := by
  have htopics := summaries_eq (saveTopicSummary agentId sessionId sourceRefs)
    (topicOperation agentId sessionId sourceRefs) (fun _ _ => rfl) update.topicSummaries 0
  have hprofiles := summaries_eq (saveProfileSummary agentId sessionId sourceRefs)
    (profileOperation agentId sessionId sourceRefs) (fun _ _ => rfl) update.profileSummaries
    update.topicSummaries.length
  have hentities := entities_eq agentId update.entities
    (update.topicSummaries.length + update.profileSummaries.length)
  have hrelations := relations_eq agentId update.relations
    (update.topicSummaries.length + update.profileSummaries.length) update.entities.length
  simp only [Nat.cast_zero, zero_add] at htopics
  unfold saveUpdate LongTermMemoryUpdate.operations
  rw [htopics]
  simp only [saveAll_append, Program.bind_assoc]
  congr 1
  funext outcome
  cases outcome with
  | some failed => rfl
  | none =>
  simp only [counting, Program.pure_bind, hprofiles, Program.bind_assoc]
  congr 1
  funext outcome
  cases outcome with
  | some failed => rfl
  | none =>
  simp only [counting, Program.pure_bind, hentities, Program.bind_assoc]
  congr 1
  funext outcome
  cases outcome with
  | some failed => rfl
  | none =>
  simp only [counting, Program.pure_bind, hrelations, Program.bind_assoc]
  congr 1
  funext outcome
  cases outcome <;> rfl

/-- The update itself writes summaries, entities and relations only. -/
theorem operations_tables (update : LongTermMemoryUpdate) (agentId sessionId : Text)
    (sourceRefs : List Text) :
    ∀ op ∈ update.operations agentId sessionId sourceRefs,
      ∀ table ∈ op.tables, table ∈ [TableName.summaries, .entities, .relations] := by
  intro op hop
  simp only [LongTermMemoryUpdate.operations, List.mem_append, List.mem_map,
    List.mem_flatMap] at hop
  rcases hop with ((⟨summary, -, rfl⟩ | ⟨summary, -, rfl⟩) | ⟨entity, -, hop⟩) |
    ⟨relation, -, rfl⟩
  · simp [topicOperation, TransactionOp.tables]
  · simp [profileOperation, TransactionOp.tables]
  · simp only [entityOperations, List.mem_cons] at hop
    rcases hop with rfl | hop
    · simp [TransactionOp.tables]
    · split at hop
      · cases hop
      · rw [List.mem_singleton.mp hop]
        simp [TransactionOp.tables]
  · simp [relationOperation, TransactionOp.tables]

end AgentMemory
