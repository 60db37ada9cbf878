import AgentMemory.Model.Store

/-! # The statements of each operation

Every operation of a transaction serialises its arguments and then executes a list of
statements until one is refused. The lists are computed here, so that what holds of each
statement carries over to the operations. -/

namespace AgentMemory

open Foundation

/-- The metadata `SaveEntityUnlocked` stores. -/
def MemoryEntity.storedMetadata (entity : MemoryEntity) : Json :=
  if entity.metadata.isObject then entity.metadata else .object []

/-- The statement that retires other rows under the entity's key, unless a part of it is empty. -/
def MemoryEntity.duplicateMarking (entity : MemoryEntity) : List Write :=
  if entity.id.isEmpty || entity.agentId.isEmpty || entity.entityType.isEmpty ||
      entity.name.isEmpty then []
  else [.markDuplicateEntities (bindText entity.id) (bindText entity.agentId)
    (bindText entity.entityType) (bindText entity.name)]

/-- The statement that retires the entity this one supersedes, if it names one. -/
def MemoryEntity.supersession (entity : MemoryEntity) : List Write :=
  if entity.supersededEntityId.isEmpty then []
  else [.markEntityObsolete (bindText entity.supersededEntityId) (bindText entity.id)]

/-- The statement that retires the target of a `supersedes` relation. -/
def MemoryRelation.supersession (relation : MemoryRelation) : List Write :=
  if relation.relationType = ascii "supersedes" then
    [.markEntityObsolete (bindText relation.toEntityId) (bindText relation.fromEntityId)]
  else []

/-- The statements of an operation, or the exception of its serialisation. -/
def TransactionOp.statements : TransactionOp → Except CxxException (List Write)
  | .saveSummary agentId sessionId level topic summary confidence sourceRefs => do
      let refsStr ← serializeSourceRefs sourceRefs
      return [.insertSummary {
        agentId := bindText agentId
        sessionId := bindText sessionId
        level := bindText level
        topic := bindText topic
        summary := bindText summary
        confidence
        sourceRefsJson := bindText refsStr }]
  | .saveEntity entity => do
      let refsStr ← serializeSourceRefs entity.sourceRefs
      let metadataStr ← entity.storedMetadata.dump
      return entity.duplicateMarking ++ .upsertEntity (entity.values refsStr metadataStr) ::
        entity.supersession
  | .saveRelation relation => do
      let refsStr ← serializeSourceRefs relation.sourceRefs
      let metadataStr ← relation.storedMetadata.dump
      return .deactivateRelation (bindText relation.fromEntityId) (bindText relation.relationType)
          (bindText relation.toEntityId) (bindText relation.agentId) ::
        .insertRelation (relation.values refsStr metadataStr) :: relation.supersession
  | .markEntityObsolete entityId supersededBy =>
      .ok [.markEntityObsolete (bindText entityId) (bindText supersededBy)]
  | .saveConsolidationCursor agentId sessionId cursor =>
      .ok [.upsertCursor (bindText agentId) (bindText sessionId) (cursorToInt cursor)]

/-! ## Inversion of the statement lists -/

theorem mem_duplicateMarking {entity : MemoryEntity} {w : Write} (h : w ∈ entity.duplicateMarking) :
    w = .markDuplicateEntities (bindText entity.id) (bindText entity.agentId)
      (bindText entity.entityType) (bindText entity.name) := by
  unfold MemoryEntity.duplicateMarking at h
  split at h
  · cases h
  · exact List.mem_singleton.mp h

theorem mem_entity_supersession {entity : MemoryEntity} {w : Write} (h : w ∈ entity.supersession) :
    entity.supersededEntityId ≠ [] ∧
      w = .markEntityObsolete (bindText entity.supersededEntityId) (bindText entity.id) := by
  unfold MemoryEntity.supersession at h
  split at h
  · cases h
  · next hne => exact ⟨by simpa using hne, List.mem_singleton.mp h⟩

theorem mem_relation_supersession {relation : MemoryRelation} {w : Write}
    (h : w ∈ relation.supersession) :
    relation.relationType = ascii "supersedes" ∧
      w = .markEntityObsolete (bindText relation.toEntityId) (bindText relation.fromEntityId) := by
  unfold MemoryRelation.supersession at h
  split at h
  · next htype => exact ⟨htype, List.mem_singleton.mp h⟩
  · cases h

theorem saveSummary_statements {agentId sessionId level topic summary : Text} {confidence : ℚ}
    {sourceRefs : List Text} {ws : List Write}
    (h : (TransactionOp.saveSummary agentId sessionId level topic summary confidence
      sourceRefs).statements = .ok ws) :
    ∃ refsStr, serializeSourceRefs sourceRefs = .ok refsStr ∧
      ws = [.insertSummary {
        agentId := bindText agentId
        sessionId := bindText sessionId
        level := bindText level
        topic := bindText topic
        summary := bindText summary
        confidence
        sourceRefsJson := bindText refsStr }] := by
  obtain ⟨refsStr, hrefs, h⟩ := except_bind_eq_ok h
  cases h
  exact ⟨refsStr, hrefs, rfl⟩

theorem saveEntity_statements {entity : MemoryEntity} {ws : List Write}
    (h : (TransactionOp.saveEntity entity).statements = .ok ws) :
    ∃ refsStr metadataStr, serializeSourceRefs entity.sourceRefs = .ok refsStr ∧
      entity.storedMetadata.dump = .ok metadataStr ∧
      ws = entity.duplicateMarking ++ .upsertEntity (entity.values refsStr metadataStr) ::
        entity.supersession := by
  obtain ⟨refsStr, hrefs, h⟩ := except_bind_eq_ok h
  obtain ⟨metadataStr, hmeta, h⟩ := except_bind_eq_ok h
  cases h
  exact ⟨refsStr, metadataStr, hrefs, hmeta, rfl⟩

theorem saveRelation_statements {relation : MemoryRelation} {ws : List Write}
    (h : (TransactionOp.saveRelation relation).statements = .ok ws) :
    ∃ refsStr metadataStr, serializeSourceRefs relation.sourceRefs = .ok refsStr ∧
      relation.storedMetadata.dump = .ok metadataStr ∧
      ws = .deactivateRelation (bindText relation.fromEntityId) (bindText relation.relationType)
          (bindText relation.toEntityId) (bindText relation.agentId) ::
        .insertRelation (relation.values refsStr metadataStr) :: relation.supersession := by
  obtain ⟨refsStr, hrefs, h⟩ := except_bind_eq_ok h
  obtain ⟨metadataStr, hmeta, h⟩ := except_bind_eq_ok h
  cases h
  exact ⟨refsStr, metadataStr, hrefs, hmeta, rfl⟩

/-! ## Executing the lists -/

theorem run_andThen (host : Host) (first second : SqlM SqlResult) (c : Connection) :
    (andThen first second).runOn host c =
      match first.runOn host c with
      | (.ok (.ok ()), c') => second.runOn host c'
      | (.ok (.error message), c') => (.ok (.error message), c')
      | (.error e, c') => (.error e, c') := by
  unfold andThen SqlM.runOn
  rw [Program.run_bind]
  rcases first.run host.execute c with ⟨e | message | _, c'⟩ <;> rfl

/-- One statement: refused without effect, or executed. -/
theorem run_step (host : Host) (w : Write) (c : Connection) :
    (∃ db, host.engine.effect c.clock w c.current = some db ∧
      (step w).runOn host c = (.ok (.ok ()), { c with current := db, clock := c.clock + 1 })) ∨
    ∃ message, (step w).runOn host c =
      (.ok (.error message), { c with clock := c.clock + 1 }) := by
  have hrun : (step w).runOn host c = (.ok (host.execute (.write w) c).1,
      (host.execute (.write w) c).2) := rfl
  rw [hrun, Host.execute]
  rcases Session.execute_write_cases host.engine w c with ⟨db, -, heffect, h⟩ | h
  · rw [h]
    exact .inl ⟨db, heffect, rfl⟩
  · rw [h]
    exact .inr ⟨_, rfl⟩

/-- The statements of an operation until one is refused. -/
def executeAll (ws : List Write) : SqlM SqlResult :=
  Session.writeAll ws

theorem run_executeAll (host : Host) (ws : List Write) (c : Connection) :
    ∃ c' : Connection, c'.saved = c.saved ∧
      (((executeAll ws).runOn host c = (.ok (.ok ()), c') ∧
          Session.Applied host.engine ws c.current c'.current) ∨
        ∃ message, (executeAll ws).runOn host c = (.ok (.error message), c')) := by
  obtain ⟨c', hsaved, hrun⟩ := Session.run_writeAll (ε := CxxException) host.engine ws c
  rcases hrun with hrun | ⟨message, hrun⟩
  · exact ⟨c', hsaved, .inl hrun⟩
  · exact ⟨{ c' with clock := c'.clock + 1 }, hsaved, .inr ⟨message, hrun⟩⟩

theorem andThen_executeAll (ws ws' : List Write) :
    andThen (executeAll ws) (executeAll ws') = executeAll (ws ++ ws') := by
  induction ws with
  | nil => rfl
  | cons w ws ih =>
      change Program.call _ _ = _
      unfold executeAll at ih ⊢
      simp only [List.cons_append, Session.writeAll]
      congr 1
      funext r
      cases r with
      | error message => rfl
      | ok _ => exact ih

theorem step_eq (w : Write) : step w = executeAll [w] := by
  change Program.call _ _ = _
  congr 1
  funext r
  cases r <;> rfl

theorem andThen_step (w : Write) (ws : List Write) :
    andThen (step w) (executeAll ws) = executeAll (w :: ws) := by
  rw [step_eq, andThen_executeAll]
  rfl

theorem markDuplicateEntitiesObsoleteUnlocked_eq (entity : MemoryEntity) :
    markDuplicateEntitiesObsoleteUnlocked entity = executeAll entity.duplicateMarking := by
  unfold markDuplicateEntitiesObsoleteUnlocked MemoryEntity.duplicateMarking
  split
  · rfl
  · exact step_eq _

theorem saveEntityUnlocked_eq (entity : MemoryEntity) :
    saveEntityUnlocked entity = (do
      let refsStr ← .ofExcept (serializeSourceRefs entity.sourceRefs)
      let metadataStr ← .ofExcept entity.storedMetadata.dump
      executeAll (entity.duplicateMarking ++ .upsertEntity (entity.values refsStr metadataStr) ::
        entity.supersession)) := by
  have hsupersession : (if entity.supersededEntityId.isEmpty then return .ok ()
      else markEntityObsoleteUnlocked entity.supersededEntityId entity.id) =
        executeAll entity.supersession := by
    unfold MemoryEntity.supersession
    split
    · rfl
    · exact step_eq _
  unfold saveEntityUnlocked
  simp only [markDuplicateEntitiesObsoleteUnlocked_eq, hsupersession, andThen_step,
    andThen_executeAll]
  rfl

theorem saveRelationUnlocked_eq (relation : MemoryRelation) :
    saveRelationUnlocked relation = (do
      let refsStr ← .ofExcept (serializeSourceRefs relation.sourceRefs)
      let metadataStr ← .ofExcept relation.storedMetadata.dump
      executeAll (.deactivateRelation (bindText relation.fromEntityId)
          (bindText relation.relationType) (bindText relation.toEntityId)
          (bindText relation.agentId) ::
        .insertRelation (relation.values refsStr metadataStr) :: relation.supersession)) := by
  have hsupersession : (if relation.relationType = ascii "supersedes" then
        markEntityObsoleteUnlocked relation.toEntityId relation.fromEntityId
      else return .ok ()) = executeAll relation.supersession := by
    unfold MemoryRelation.supersession
    split
    · exact step_eq _
    · rfl
  unfold saveRelationUnlocked
  simp only [hsupersession, andThen_step]

/-- Every operation serialises first and then executes its statements. -/
theorem TransactionOp.unlocked_eq (op : TransactionOp) :
    op.unlocked = (do
      let ws ← .ofExcept op.statements
      executeAll ws) := by
  cases op with
  | saveSummary agentId sessionId level topic summary confidence sourceRefs =>
      simp only [unlocked, saveSummaryUnlocked, statements, step_eq]
      cases serializeSourceRefs sourceRefs <;> rfl
  | saveEntity entity =>
      simp only [unlocked, saveEntityUnlocked_eq, statements]
      cases serializeSourceRefs entity.sourceRefs with
      | error e => rfl
      | ok refsStr => cases entity.storedMetadata.dump <;> rfl
  | saveRelation relation =>
      simp only [unlocked, saveRelationUnlocked_eq, statements]
      cases serializeSourceRefs relation.sourceRefs with
      | error e => rfl
      | ok refsStr => cases relation.storedMetadata.dump <;> rfl
  | markEntityObsolete entityId supersededBy => exact step_eq _
  | saveConsolidationCursor agentId sessionId cursor => exact step_eq _

/-- What one operation does to a connection: its serialisation throws and nothing happens, or all
its statements are applied, or one of them is refused. -/
theorem TransactionOp.run_unlocked (host : Host) (op : TransactionOp) (c : Connection) :
    (∃ e, op.statements = .error e ∧ op.unlocked.runOn host c = (.error e, c)) ∨
    ∃ ws c', op.statements = .ok ws ∧ c'.saved = c.saved ∧
      ((op.unlocked.runOn host c = (.ok (.ok ()), c') ∧
          Session.Applied host.engine ws c.current c'.current) ∨
        ∃ message, op.unlocked.runOn host c = (.ok (.error message), c')) := by
  rw [unlocked_eq]
  cases h : op.statements with
  | error e => exact .inl ⟨e, rfl, rfl⟩
  | ok ws =>
      obtain ⟨c', hsaved, hrun⟩ := run_executeAll host ws c
      exact .inr ⟨ws, c', rfl, hsaved, hrun⟩

/-- A reported operation reaches the same state, and succeeds exactly when the operation did. -/
theorem run_reporting_under (h : Handler (Command.signature Write Text) Connection)
    (context : String) (p : SqlM SqlResult) (c : Connection) :
    (reporting context p).run h c =
      match p.run h c with
      | (.ok (.ok ()), c') => (.ok memorySuccess, c')
      | (.ok (.error message), c') => (.ok (sqliteFailure message context), c')
      | (.error e, c') => (.error e, c') := by
  unfold reporting
  rw [Program.run_bind]
  rcases p.run h c with ⟨e | message | _, c'⟩ <;> rfl

theorem run_reporting (host : Host) (context : String) (p : SqlM SqlResult) (c : Connection) :
    (reporting context p).runOn host c =
      match p.runOn host c with
      | (.ok (.ok ()), c') => (.ok memorySuccess, c')
      | (.ok (.error message), c') => (.ok (sqliteFailure message context), c')
      | (.error e, c') => (.error e, c') :=
  run_reporting_under host.execute context p c

/-- Only an operation that succeeded is reported as a success. -/
theorem run_of_reporting_succeeded {host : Host} {context : String} {p : SqlM SqlResult}
    {c c' : Connection} (h : (reporting context p).runOn host c = (.ok memorySuccess, c')) :
    p.runOn host c = (.ok (.ok ()), c') := by
  rw [run_reporting] at h
  split at h
  · next hrun =>
      cases h
      exact hrun
  · cases h
  · cases h

theorem sqliteFailure_not_succeeded (message : Text) (context : String) :
    (sqliteFailure message context).succeeded = false := rfl

/-- An operation of a transaction: its serialisation throws, all its statements are applied, or
it fails with an error. -/
theorem TransactionOp.run_body (host : Host) (op : TransactionOp) (c : Connection) :
    (∃ e, op.statements = .error e ∧ op.body.runOn host c = (.error e, c)) ∨
    ∃ ws c', op.statements = .ok ws ∧ c'.saved = c.saved ∧
      ((op.unlocked.runOn host c = (.ok (.ok ()), c') ∧
          op.body.runOn host c = (.ok memorySuccess, c') ∧
          Session.Applied host.engine ws c.current c'.current) ∨
        ∃ message, op.body.runOn host c =
          (.ok (sqliteFailure message ("Transaction::" ++ op.method)), c')) := by
  unfold body
  rw [run_reporting]
  rcases op.run_unlocked host c with ⟨e, hws, hrun⟩ | ⟨ws, c', hws, hsaved, hrun⟩
  · rw [hrun]
    exact .inl ⟨e, hws, rfl⟩
  · refine .inr ⟨ws, c', hws, hsaved, ?_⟩
    rcases hrun with ⟨hrun, happlied⟩ | ⟨message, hrun⟩
    · rw [hrun]
      exact .inl ⟨rfl, rfl, happlied⟩
    · rw [hrun]
      exact .inr ⟨message, rfl⟩

end AgentMemory
