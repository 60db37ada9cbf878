import AgentMemory.Foundation.Replay
import AgentMemory.Verification.Consolidation.Writer
import AgentMemory.Verification.Entities.Uniqueness

/-! # Saving an update twice

Whatever the statements of an update are, executing them again changes no entity row but for its
timestamps, and no active relation. -/

namespace AgentMemory

open Foundation

/-! ## Statements as changes of entity rows -/

/-- `active = 0, superseded_by = ?`. -/
def EntityValues.retired (supersededBy : SqlText) (v : EntityValues) : EntityValues :=
  { v with active := false, supersededBy := some supersededBy }

/-- What a statement does to the entity rows, leaving out their timestamps. -/
def Write.change : Write → Change EntityValues
  | .markDuplicateEntities id agentId entityType name => .modify fun v =>
      if v.key = (agentId, entityType, name) ∧ v.id ≠ id ∧ v.active = true then v.retired id else v
  | .upsertEntity v => .upsert v
  | .markEntityObsolete entityId supersededBy => .modify fun v =>
      if v.id = entityId then v.retired supersededBy else v
  | _ => .modify fun v => v

/-- The rows with every column but the timestamps. -/
def Database.entityValues (db : Database) : List (Rowid × EntityValues) :=
  db.entityRows.map fun r => (r.1, r.2.toEntityValues)

theorem keepsKeys_changes (ws : List Write) :
    KeepsKeys EntityValues.id (ws.map Write.change) := by
  intro f hf v
  obtain ⟨w, -, hw⟩ := List.mem_map.mp hf
  cases w with
  | markDuplicateEntities id agentId entityType name =>
      cases hw
      dsimp only
      split <;> rfl
  | markEntityObsolete entityId supersededBy =>
      cases hw
      dsimp only
      split <;> rfl
  | upsertEntity v => cases hw
  | _ =>
      cases hw
      rfl

section Effects

variable {now : Text} {db db' : Database}

theorem entityValues_retire (p : EntityRow → Bool) (supersededBy : SqlText)
    (f : EntityValues → EntityValues)
    (hf : ∀ r : EntityRow, (if p r then r.obsolete now supersededBy else r).toEntityValues =
      f r.toEntityValues) :
    (db.updateEntities p (EntityRow.obsolete now supersededBy)).entityValues =
      actOnRows f db.entityValues := by
  simp only [Database.entityValues, Database.entityRows, Database.updateEntities,
    IndexedTable.update_rows, actOnRows, List.map_map, Function.comp_def, hf]

theorem entityValues_of_not_upsert {w : Write} (h : w.effect now db = some db')
    (hw : ∀ v, w ≠ .upsertEntity v) :
    db'.entityValues = actOnRows (w.change.act EntityValues.id) db.entityValues := by
  by_cases htable : w.table = some .entities
  · cases w with
    | markDuplicateEntities id agentId entityType name =>
        cases h
        refine entityValues_retire _ _ _ ?_
        intro r
        by_cases hr : r.isDuplicateOf id agentId entityType name = true
        · rw [if_pos hr]
          rw [isDuplicateOf_iff] at hr
          simp only [Write.change, Change.act, if_pos hr]
          rfl
        · rw [if_neg hr]
          rw [isDuplicateOf_iff] at hr
          simp only [Write.change, Change.act, if_neg hr]
    | markEntityObsolete entityId supersededBy =>
        cases h
        refine entityValues_retire _ _ _ ?_
        intro r
        by_cases hr : r.id = entityId
        · simp only [hr, beq_self_eq_true, if_true, Write.change, Change.act]
          rfl
        · simp only [beq_eq_false_iff_ne.mpr hr, Bool.false_eq_true, if_false, Write.change,
            Change.act, hr]
    | upsertEntity v => exact absurd rfl (hw v)
    | _ => cases htable
  · have hentities := (Write.effect_sameExcept h).entities htable
    have hchange : w.change.act EntityValues.id = fun v => v := by
      cases w with
      | markDuplicateEntities id agentId entityType name => exact absurd rfl htable
      | markEntityObsolete entityId supersededBy => exact absurd rfl htable
      | upsertEntity v => exact absurd rfl htable
      | _ => rfl
    rw [hchange]
    unfold Database.entityValues Database.entityRows actOnRows
    rw [hentities, List.map_map]
    rfl

/-- One statement is one change of the entity rows. -/
theorem effect_replayed {w : Write} (h : w.effect now db = some db')
    {cs : List (Change EntityValues)} {rows : List (Rowid × EntityValues)}
    (hrest : Replayed EntityValues.id cs db'.entityValues rows) :
    Replayed EntityValues.id (w.change :: cs) db.entityValues rows := by
  by_cases hupsert : ∃ v, w = .upsertEntity v
  · obtain ⟨v, rfl⟩ := hupsert
    rcases upsertEntity_rows h with ⟨⟨q, hq, hid⟩, hrows⟩ | ⟨hfresh, i, hrows⟩
    · have hvalues : db'.entityValues =
          actOnRows ((Write.upsertEntity v).change.act EntityValues.id) db.entityValues := by
        unfold Database.entityValues actOnRows
        rw [hrows, List.map_map, List.map_map]
        refine List.map_congr_left ?_
        intro r _
        simp only [Function.comp_apply, Write.change, Change.act]
        split <;> rfl
      rw [hvalues] at hrest
      refine .act ?_ hrest
      intro a ha
      cases ha
      exact ⟨_, List.mem_map.mpr ⟨q, hq, rfl⟩, hid⟩
    · have hvalues : db'.entityValues = db.entityValues ++ [(i, v)] := by
        unfold Database.entityValues
        rw [hrows, List.map_append]
        rfl
      rw [hvalues] at hrest
      refine .insert ?_ hrest
      intro r hr
      obtain ⟨q, hq, rfl⟩ := List.mem_map.mp hr
      exact hfresh q hq
  · rw [entityValues_of_not_upsert h fun v hv => hupsert ⟨v, hv⟩] at hrest
    refine .act ?_ hrest
    intro a ha
    cases w with
    | upsertEntity v => exact absurd ⟨v, rfl⟩ hupsert
    | _ => cases ha

theorem applied_replayed {host : Host} {ws : List Write} {db db' : Database}
    (h : Session.Applied host.engine ws db db') :
    Replayed EntityValues.id (ws.map Write.change) db.entityValues db'.entityValues := by
  induction h with
  | nil db => exact .nil _
  | cons heffect _ ih => exact effect_replayed heffect ih

end Effects

/-! ## Rows that are only retired -/

section Retired

variable {i : SqlText}

/-- What the changes of some statements make of one row. -/
def retireAll (ws : List Write) (v : EntityValues) : EntityValues :=
  actAll EntityValues.id (ws.map Write.change) v

/-- No statement upserts the id. -/
def NeverSaves (i : SqlText) (ws : List Write) : Prop :=
  ∀ v, .upsertEntity v ∈ ws → v.id ≠ i

/-- No statement marks the id unconditionally. -/
def NeverMarks (i : SqlText) (ws : List Write) : Prop :=
  ∀ supersededBy, .markEntityObsolete i supersededBy ∉ ws

theorem retireAll_cons (w : Write) (ws : List Write) (v : EntityValues) :
    retireAll (w :: ws) v = retireAll ws (w.change.act EntityValues.id v) := rfl

theorem NeverSaves.tail {w : Write} {ws : List Write} (h : NeverSaves i (w :: ws)) :
    NeverSaves i ws :=
  fun v hv => h v (List.mem_cons_of_mem _ hv)

theorem NeverMarks.tail {w : Write} {ws : List Write} (h : NeverMarks i (w :: ws)) :
    NeverMarks i ws :=
  fun supersededBy hmem => h supersededBy (List.mem_cons_of_mem _ hmem)

/-- A statement that does not save the row leaves it or retires it. -/
theorem change_act_cases {w : Write} {ws : List Write} {v : EntityValues}
    (hsaves : NeverSaves v.id (w :: ws)) :
    w.change.act EntityValues.id v = v ∨
      ∃ supersededBy, w.change.act EntityValues.id v = v.retired supersededBy := by
  cases w with
  | markDuplicateEntities id agentId entityType name =>
      simp only [Write.change, Change.act]
      split
      · exact .inr ⟨id, rfl⟩
      · exact .inl rfl
  | markEntityObsolete entityId supersededBy =>
      simp only [Write.change, Change.act]
      split
      · exact .inr ⟨supersededBy, rfl⟩
      · exact .inl rfl
  | upsertEntity v' =>
      simp only [Write.change, Change.act]
      rw [if_neg fun heq => hsaves v' List.mem_cons_self heq.symm]
      exact .inl rfl
  | _ => exact .inl rfl

/-- A retired row stays as it is until it is saved or marked. -/
theorem change_act_of_inactive {w : Write} {ws : List Write} {v : EntityValues}
    (hsaves : NeverSaves v.id (w :: ws)) (hmarks : NeverMarks v.id (w :: ws))
    (hv : v.active = false) : w.change.act EntityValues.id v = v := by
  cases w with
  | markDuplicateEntities id agentId entityType name => simp [Write.change, Change.act, hv]
  | markEntityObsolete entityId supersededBy =>
      simp only [Write.change, Change.act]
      rw [if_neg]
      rintro rfl
      exact hmarks supersededBy List.mem_cons_self
  | upsertEntity v' =>
      simp only [Write.change, Change.act]
      rw [if_neg fun heq => hsaves v' List.mem_cons_self heq.symm]
  | _ => rfl

theorem retireAll_of_inactive {ws : List Write} {v : EntityValues} (hsaves : NeverSaves v.id ws)
    (hmarks : NeverMarks v.id ws) (hv : v.active = false) : retireAll ws v = v := by
  induction ws with
  | nil => rfl
  | cons w ws ih =>
      rw [retireAll_cons, change_act_of_inactive hsaves hmarks hv]
      exact ih hsaves.tail hmarks.tail

/-- Without an unconditional mark a row stays as it is or ends retired. -/
theorem retireAll_of_neverMarks {ws : List Write} {v : EntityValues}
    (hsaves : NeverSaves v.id ws) (hmarks : NeverMarks v.id ws) :
    retireAll ws v = v ∨ (retireAll ws v).active = false := by
  induction ws with
  | nil => exact .inl rfl
  | cons w ws ih =>
      rw [retireAll_cons]
      rcases change_act_cases hsaves with heq | ⟨supersededBy, heq⟩
      · rw [heq]
        exact ih hsaves.tail hmarks.tail
      · rw [heq, retireAll_of_inactive (v := v.retired supersededBy) hsaves.tail hmarks.tail rfl]
        exact .inr rfl

/-- The last unconditional mark decides how a row ends. -/
theorem retireAll_of_marked {ws : List Write} (hsaves : NeverSaves i ws)
    (hmarked : ¬NeverMarks i ws) :
    ∃ supersededBy, ∀ v : EntityValues, v.id = i → retireAll ws v = v.retired supersededBy := by
  induction ws with
  | nil => exact absurd (fun _ => List.not_mem_nil) hmarked
  | cons w ws ih =>
      by_cases htail : NeverMarks i ws
      · obtain ⟨supersededBy, hmem⟩ := not_forall_not.mp hmarked
        rcases List.mem_cons.mp hmem with rfl | hmem
        · refine ⟨supersededBy, ?_⟩
          rintro v rfl
          have hact : (Write.markEntityObsolete v.id supersededBy).change.act EntityValues.id v =
              v.retired supersededBy := if_pos rfl
          rw [retireAll_cons, hact]
          exact retireAll_of_inactive (v := v.retired supersededBy) hsaves.tail htail rfl
        · exact absurd hmem (htail supersededBy)
      · obtain ⟨supersededBy, hretired⟩ := ih hsaves.tail htail
        refine ⟨supersededBy, ?_⟩
        rintro v rfl
        rw [retireAll_cons]
        rcases change_act_cases hsaves with heq | ⟨other, heq⟩
        · rw [heq]
          exact hretired v rfl
        · rw [heq]
          exact hretired (v.retired other) rfl

theorem retireAll_twice {ws : List Write} {v : EntityValues} (hsaves : NeverSaves v.id ws) :
    retireAll ws (retireAll ws v) = retireAll ws v := by
  by_cases hmarks : NeverMarks v.id ws
  · rcases retireAll_of_neverMarks hsaves hmarks with heq | hinactive
    · rw [heq, heq]
    · have hid : (retireAll ws v).id = v.id := key_actAll (keepsKeys_changes ws) v
      refine retireAll_of_inactive ?_ ?_ hinactive
      · rw [hid]
        exact hsaves
      · rw [hid]
        exact hmarks
  · obtain ⟨supersededBy, hretired⟩ := retireAll_of_marked hsaves hmarks
    rw [hretired v rfl]
    exact hretired (v.retired supersededBy) rfl

end Retired

/-- The statements of an update, executed again, change no entity row but for its timestamps. -/
theorem applied_twice_entityValues {host : Host} {ws : List Write} {db db₁ db₂ : Database}
    (h₁ : Session.Applied host.engine ws db db₁) (h₂ : Session.Applied host.engine ws db₁ db₂) :
    db₂.entityValues = db₁.entityValues := by
  refine (applied_replayed h₁).twice (keepsKeys_changes ws) ?_ (applied_replayed h₂)
  intro v hv
  refine retireAll_twice ?_
  intro v' hmem heq
  exact hv v' (List.mem_map.mpr ⟨_, hmem, rfl⟩) heq.symm

/-! ## Active relations -/

/-- The active relations, with every column but the timestamps. -/
def Database.activeRelations (db : Database) : Set RelationValues :=
  { v | ∃ r ∈ db.relations.rows, r.2.active = true ∧ r.2.toRelationValues = v }

/-- The statement retires relations with these endpoints. -/
def Write.Deactivates (v : RelationValues) (w : Write) : Prop :=
  w = .deactivateRelation v.fromEntity v.relation v.toEntity v.agentId

/-- A relation is active after a statement that inserts it, or if it was before and the statement
does not retire it. -/
theorem effect_activeRelations {now : Text} {w : Write} {db db' : Database}
    (h : w.effect now db = some db') (v : RelationValues) :
    v ∈ db'.activeRelations ↔
      w = .insertRelation v ∨ (v ∈ db.activeRelations ∧ ¬w.Deactivates v) := by
  by_cases htable : w.table = some .relations
  · cases w with
    | deactivateRelation fromEntity relation toEntity agentId =>
        cases h
        simp only [Database.activeRelations, Database.updateRelations, IndexedTable.update_rows,
          Set.mem_ofPred_eq, List.mem_map, Write.Deactivates]
        constructor
        · rintro ⟨_, ⟨r, hr, rfl⟩, hactive, hv⟩
          cases hlive : r.2.isLive fromEntity relation toEntity agentId with
          | true =>
              simp [hlive] at hactive
          | false =>
              simp only [hlive, Bool.false_eq_true, if_false] at hactive hv
              subst hv
              refine .inr ⟨⟨r, hr, hactive, rfl⟩, ?_⟩
              intro heq
              cases heq
              simp [RelationRow.isLive, hactive] at hlive
        · rintro (heq | ⟨⟨r, hr, hactive, rfl⟩, hne⟩)
          · cases heq
          · have hlive : r.2.isLive fromEntity relation toEntity agentId = false := by
              rw [Bool.eq_false_iff]
              intro hlive
              simp only [RelationRow.isLive, Bool.and_eq_true, beq_iff_eq] at hlive
              obtain ⟨⟨⟨⟨rfl, rfl⟩, rfl⟩, -⟩, rfl⟩ := hlive
              exact hne rfl
            exact ⟨_, ⟨r, hr, rfl⟩, by simp [hlive, hactive], by simp [hlive]⟩
    | insertRelation v' =>
        obtain ⟨relations, hins, h⟩ := Option.bind_eq_some_iff.mp h
        cases h
        obtain ⟨i, -, hrows, -⟩ := IndexedTable.insert_eq_some _ hins
        simp only [Database.activeRelations, Set.mem_ofPred_eq, hrows, List.mem_append,
          List.mem_singleton, Write.Deactivates, Write.insertRelation.injEq]
        constructor
        · rintro ⟨r, hr | rfl, hactive, rfl⟩
          · exact .inr ⟨⟨r, hr, hactive, rfl⟩, by simp⟩
          · exact .inl rfl
        · rintro (rfl | ⟨⟨r, hr, hactive, rfl⟩, -⟩)
          · exact ⟨_, .inr rfl, rfl, rfl⟩
          · exact ⟨r, .inl hr, hactive, rfl⟩
    | _ => cases htable
  · have hrelations := (Write.effect_sameExcept h).relations htable
    have hsame : db'.activeRelations = db.activeRelations := by
      unfold Database.activeRelations
      rw [hrelations]
    rw [hsame]
    constructor
    · intro hv
      refine .inr ⟨hv, ?_⟩
      rintro rfl
      exact htable rfl
    · rintro (rfl | ⟨hv, -⟩)
      · exact absurd rfl htable
      · exact hv

/-- The statements insert the relation and do not retire it afterwards. -/
def LeavesActive (ws : List Write) (v : RelationValues) : Prop :=
  ∃ before after, ws = before ++ .insertRelation v :: after ∧ ∀ w ∈ after, ¬w.Deactivates v

theorem applied_activeRelations {host : Host} {ws : List Write} {db db' : Database}
    (h : Session.Applied host.engine ws db db') (v : RelationValues) :
    v ∈ db'.activeRelations ↔
      LeavesActive ws v ∨ (v ∈ db.activeRelations ∧ ∀ w ∈ ws, ¬w.Deactivates v) := by
  have hleaves : LeavesActive ws v ↔
      Session.Leaves (fun w v => w = .insertRelation v) (fun w v => w.Deactivates v) ws v := by
    constructor
    · rintro ⟨before, after, hws, hafter⟩
      exact ⟨before, _, after, hws, rfl, hafter⟩
    · rintro ⟨before, w, after, hws, rfl, hafter⟩
      exact ⟨before, after, hws, hafter⟩
  rw [hleaves]
  apply h.facts (F := fun d v => v ∈ d.activeRelations)
  intro n w d d' heffect v
  exact effect_activeRelations heffect v

/-- The statements of an update, executed again, leave the same relations active. -/
theorem applied_twice_activeRelations {host : Host} {ws : List Write} {db db₁ db₂ : Database}
    (h₁ : Session.Applied host.engine ws db db₁) (h₂ : Session.Applied host.engine ws db₁ db₂) :
    db₂.activeRelations = db₁.activeRelations := by
  ext v
  rw [applied_activeRelations h₂]
  constructor
  · rintro (hleaves | ⟨hv, -⟩)
    · exact (applied_activeRelations h₁ v).mpr (.inl hleaves)
    · exact hv
  · intro hv
    rcases (applied_activeRelations h₁ v).mp hv with hleaves | ⟨-, hws⟩
    · exact .inl hleaves
    · exact .inr ⟨hv, hws⟩

/-! ## `SaveUpdate` twice -/

/-- A successful `SaveUpdate` has applied all statements of the update. -/
theorem run_saveUpdate_succeeded {host : Host} {agentId sessionId : Text}
    {update : LongTermMemoryUpdate} {sourceRefs : List Text} {c c' : Connection}
    {result : MemoryUpdateWriteResult}
    (h : (saveUpdate agentId sessionId update sourceRefs).runOn host c = (.ok result, c'))
    (hresult : result.succeeded = true) :
    ∃ ws, statementsOf (update.operations agentId sessionId sourceRefs) = .ok ws ∧
      Session.Applied host.engine ws c.current c'.current := by
  rw [saveUpdate_eq, Work.run_bind] at h
  rcases run_saveAll_cases host (update.operations agentId sessionId sourceRefs) c with
    ⟨ws, c₁, hws, hrun, happlied⟩ | ⟨failure, c₁, hrun, -⟩ |
    ⟨before, op, after, e, ws, c₁, -, -, -, hrun, -⟩
  · rw [hrun] at h
    cases h
    exact ⟨ws, hws, happlied⟩
  · rw [hrun] at h
    cases h
    cases hresult
  · rw [hrun] at h
    cases h

/-- `SaveUpdate` is idempotent: when it succeeds twice in a row, the second time changes no entity
row but for its timestamps, and leaves the same relations active. -/
theorem saveUpdate_twice (host : Host) (agentId sessionId : Text) (update : LongTermMemoryUpdate)
    (sourceRefs : List Text) (c c₁ c₂ : Connection) (result₁ result₂ : MemoryUpdateWriteResult)
    (h₁ : (saveUpdate agentId sessionId update sourceRefs).runOn host c = (.ok result₁, c₁))
    (hresult₁ : result₁.succeeded = true)
    (h₂ : (saveUpdate agentId sessionId update sourceRefs).runOn host c₁ = (.ok result₂, c₂))
    (hresult₂ : result₂.succeeded = true) :
    c₂.current.entityValues = c₁.current.entityValues ∧
      c₂.current.activeRelations = c₁.current.activeRelations := by
  obtain ⟨ws, hws, happlied₁⟩ := run_saveUpdate_succeeded h₁ hresult₁
  obtain ⟨ws', hws', happlied₂⟩ := run_saveUpdate_succeeded h₂ hresult₂
  rw [hws] at hws'
  cases hws'
  exact ⟨applied_twice_entityValues happlied₁ happlied₂,
    applied_twice_activeRelations happlied₁ happlied₂⟩

/-- Two entities that supersede each other, and a relation by which the first supersedes the
second once more. -/
def mutualUpdate : LongTermMemoryUpdate where
  entities :=
    [{ id := ascii "e1", entityType := ascii "topic", name := ascii "api",
       supersededEntityId := ascii "e2" },
     { id := ascii "e2", entityType := ascii "topic", name := ascii "api",
       supersededEntityId := ascii "e1" }]
  relations :=
    [{ fromEntityId := ascii "e1", relationType := ascii "supersedes", toEntityId := ascii "e2" }]

theorem saveUpdate_twice_mutual :
    let save := (saveUpdate (ascii "alice") (ascii "s") mutualUpdate []).runOn .obliging
    let c₁ := (save { current := .empty }).2
    let c₂ := (save c₁).2
    c₂.current.entityValues = c₁.current.entityValues ∧
      c₂.current.activeRelations = c₁.current.activeRelations :=
  saveUpdate_twice .obliging (ascii "alice") (ascii "s") mutualUpdate [] { current := .empty } _ _
    mutualUpdate.counts mutualUpdate.counts rfl rfl rfl rfl

end AgentMemory
