import AgentMemory.Model.Store

/-! # The full-text indexes follow their tables

The triggers of each base table enter a new row in its index and replace the entry of a changed
one. So each statement keeps every index in step with its table, and so does every program of
statements, in every state of every sequence of store calls, inside a transaction or after a
rollback. -/

namespace AgentMemory

open Foundation

/-! ## The triggers -/

theorem summaryTriggers_maintains :
    IndexedTable.Maintains summaryTriggers SummaryRow.ftsColumns where
  afterInsert _ := rfl
  afterUpdate _ _ := rfl

theorem entityTriggers_maintains :
    IndexedTable.Maintains entityTriggers EntityRow.ftsColumns where
  afterInsert _ := rfl
  afterUpdate _ _ := rfl

theorem relationTriggers_maintains :
    IndexedTable.Maintains relationTriggers RelationRow.ftsColumns where
  afterInsert _ := rfl
  afterUpdate _ _ := rfl

/-- The three full-text indexes hold exactly what their tables hold. -/
structure Database.IndexesSynced (db : Database) : Prop where
  summaries : db.summaries.Synced SummaryRow.ftsColumns
  entities : db.entities.Synced EntityRow.ftsColumns
  relations : db.relations.Synced RelationRow.ftsColumns

structure Database.IndexesExact (db : Database) : Prop where
  summaries : db.summaries.Exact SummaryRow.ftsColumns
  entities : db.entities.Exact EntityRow.ftsColumns
  relations : db.relations.Exact RelationRow.ftsColumns

theorem Database.IndexesSynced.exact {db : Database} (h : db.IndexesSynced) : db.IndexesExact where
  summaries := h.summaries.exact
  entities := h.entities.exact
  relations := h.relations.exact

theorem Database.indexesSynced_empty : Database.empty.IndexesSynced where
  summaries := IndexedTable.synced_empty _
  entities := IndexedTable.synced_empty _
  relations := IndexedTable.synced_empty _

/-! ## One statement -/

theorem Write.effect_indexesSynced {now : Text} {w : Write} {db db' : Database}
    (h : w.effect now db = some db') (hs : db.IndexesSynced) : db'.IndexesSynced := by
  cases w with
  | prepare =>
      cases h
      exact hs
  | insertEvent v =>
      obtain ⟨events, -, h⟩ := Option.bind_eq_some_iff.mp h
      cases h
      exact ⟨hs.summaries, hs.entities, hs.relations⟩
  | upsertPayload v =>
      simp only [Write.effect] at h
      split at h
      · cases h
        exact ⟨hs.summaries, hs.entities, hs.relations⟩
      · obtain ⟨payloads, -, h⟩ := Option.bind_eq_some_iff.mp h
        cases h
        exact ⟨hs.summaries, hs.entities, hs.relations⟩
  | insertSummary v =>
      obtain ⟨summaries, hins, h⟩ := Option.bind_eq_some_iff.mp h
      cases h
      exact ⟨hs.summaries.insert summaryTriggers_maintains hins, hs.entities, hs.relations⟩
  | markDuplicateEntities id agentId entityType name =>
      cases h
      exact ⟨hs.summaries, hs.entities.update entityTriggers_maintains, hs.relations⟩
  | upsertEntity v =>
      simp only [Write.effect] at h
      split at h
      · cases h
        exact ⟨hs.summaries, hs.entities.update entityTriggers_maintains, hs.relations⟩
      · obtain ⟨entities, hins, h⟩ := Option.bind_eq_some_iff.mp h
        cases h
        exact ⟨hs.summaries, hs.entities.insert entityTriggers_maintains hins, hs.relations⟩
  | markEntityObsolete entityId supersededBy =>
      cases h
      exact ⟨hs.summaries, hs.entities.update entityTriggers_maintains, hs.relations⟩
  | deactivateRelation fromEntity relation toEntity agentId =>
      cases h
      exact ⟨hs.summaries, hs.entities, hs.relations.update relationTriggers_maintains⟩
  | insertRelation v =>
      obtain ⟨relations, hins, h⟩ := Option.bind_eq_some_iff.mp h
      cases h
      exact ⟨hs.summaries, hs.entities, hs.relations.insert relationTriggers_maintains hins⟩
  | upsertCursor agentId sessionId cursor =>
      simp only [Write.effect] at h
      split at h
      · cases h
        exact ⟨hs.summaries, hs.entities, hs.relations⟩
      · cases h
        exact ⟨hs.summaries, hs.entities, hs.relations⟩

/-! ## Whole runs -/

/-- The view of a connection and the state a rollback restores are both in step. -/
def IndexesInStep (c : Connection) : Prop :=
  c.current.IndexesSynced ∧ ∀ db, c.saved = some db → db.IndexesSynced

theorem IndexesInStep.durable {c : Connection} (h : IndexesInStep c) :
    c.durable.IndexesSynced := by
  unfold Session.durable
  cases hsaved : c.saved with
  | none => exact h.1
  | some db => exact h.2 db hsaved

theorem execute_indexesInStep (host : Host) (command : Command Write) (c : Connection)
    (h : IndexesInStep c) : IndexesInStep (host.execute command c).2 := by
  refine Session.execute_invariant (P := fun _ => True) (I := Database.IndexesSynced) ?_ command
    (fun _ _ => trivial) c h
  intro n w db db' _ heffect hs
  exact Write.effect_indexesSynced heffect hs

theorem states_indexesInStep {α : Type} (host : Host) (p : SqlM α) {c : Connection}
    (h : IndexesInStep c) : ∀ c' ∈ p.states host.execute c, IndexesInStep c' :=
  p.all_true.states_invariant (fun command c _ hc => execute_indexesInStep host command c hc) h

theorem runCalls_indexesInStep (host : Host) (calls : List StoreCall) {c : Connection}
    (h : IndexesInStep c) : IndexesInStep (runCalls host calls c) := by
  induction calls generalizing c with
  | nil => exact h
  | cons call rest ih =>
      exact ih (states_indexesInStep host call.body h _ (Program.run_mem_states _ _ _))

/-- In every state of every sequence of store calls on a new database, before, within and after
each call, the full-text indexes hold exactly what their tables hold, both in the connection's
view and in what survives a crash. -/
theorem calls_indexesExact (host : Host) (calls : List StoreCall) (call : StoreCall) :
    ∀ c ∈ call.body.states host.execute (runCalls host calls { current := .empty }),
      c.current.IndexesExact ∧ c.durable.IndexesExact := by
  intro c hc
  have hinit : IndexesInStep { current := .empty } :=
    ⟨Database.indexesSynced_empty, fun db h => by cases h⟩
  have h := states_indexesInStep host call.body (runCalls_indexesInStep host calls hinit) c hc
  exact ⟨h.1.exact, h.durable.exact⟩

/-- The save of an entity under a fixed id. -/
def saveNote (summary : Text) : StoreCall :=
  .operation (.saveEntity { id := ascii "note", summary })

/-- A second save under the same id replaces the row, and the indexes follow. -/
theorem calls_indexesExact_saved_twice :
    let c := ((saveNote (ascii "new")).body.runOn .obliging
      (runCalls .obliging [saveNote (ascii "old")] { current := .empty })).2
    c.current.entities.rows.map (fun row => row.2.summary) = [bindText (ascii "new")] ∧
      c.current.IndexesExact ∧ c.durable.IndexesExact := by
  intro c
  refine ⟨by decide +kernel, ?_⟩
  exact calls_indexesExact .obliging [saveNote (ascii "old")] (saveNote (ascii "new")) c
    (Program.run_mem_states _ _ _)

end AgentMemory
