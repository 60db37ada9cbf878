import AgentMemory.Foundation.Acyclic
import AgentMemory.Verification.Entities.Rows
import AgentMemory.Verification.Transactions.Runs

/-! # Supersession and its cycles

The duplicate marking of a save spares the saved row. The other ways to set `superseded_by` do not
look at the links that are there already, so two entities can supersede each other, and an entity
itself. -/

namespace AgentMemory

open Foundation Relation

/-- A row with id `x` names `y` as its successor. -/
def Database.SupersededBy (db : Database) (x y : SqlText) : Prop :=
  ∃ r ∈ db.entityRows, r.2.id = x ∧ r.2.supersededBy = some y

instance (db : Database) (x y : SqlText) : Decidable (db.SupersededBy x y) :=
  inferInstanceAs (Decidable (∃ r ∈ db.entityRows, _))

def Database.HasEntity (db : Database) (x : SqlText) : Prop :=
  ∃ r ∈ db.entityRows, r.2.id = x

/-- Following `superseded_by` never leads back. -/
def Database.SupersessionAcyclic (db : Database) : Prop :=
  Acyclic db.SupersededBy

/-- An operation as `SaveUpdate` issues it: a saved entity names no successor, and an entity is
not marked as superseded by itself. -/
def TransactionOp.IsIssued : TransactionOp → Prop
  | .saveEntity entity => entity.supersededByEntityId = []
  | .markEntityObsolete entityId supersededBy => entityId ≠ supersededBy
  | _ => True

/-- A successor for an entity that is there does not lead back to it. -/
def Database.LinkIsOpen (db : Database) (x y : SqlText) : Prop :=
  db.HasEntity x → ¬ReflTransGen db.SupersededBy y x

/-- The operation names no entity as superseded whose successor leads back to it. -/
def TransactionOp.LinksForward (db : Database) : TransactionOp → Prop
  | .saveEntity entity =>
      entity.supersededEntityId ≠ [] → bindText entity.supersededEntityId ≠ bindText entity.id
  | .saveRelation relation => relation.relationType = ascii "supersedes" →
      db.LinkIsOpen (bindText relation.toEntityId) (bindText relation.fromEntityId)
  | .markEntityObsolete entityId supersededBy =>
      db.LinkIsOpen (bindText entityId) (bindText supersededBy)
  | _ => True

/-! ## One statement -/

section Statements

variable {p : EntityRow → Bool} {now : Text} {s x y : SqlText} {v : EntityValues}
  {db db' : Database}

/-- A retired row names the given successor, and the other rows theirs. -/
theorem supersededBy_retire :
    (db.updateEntities p (EntityRow.obsolete now s)).SupersededBy x y ↔
      (∃ r ∈ db.entityRows, r.2.id = x ∧ p r.2 = true ∧ y = s) ∨
        ∃ r ∈ db.entityRows, r.2.id = x ∧ p r.2 = false ∧ r.2.supersededBy = some y := by
  constructor
  · rintro ⟨r, hr, hid, hlink⟩
    obtain ⟨q, hq, rfl⟩ := List.mem_map.mp hr
    cases hp : p q.2 with
    | true =>
        simp only [hp, if_true, EntityRow.obsolete, Option.some.injEq] at hid hlink
        exact .inl ⟨q, hq, hid, hp, hlink.symm⟩
    | false =>
        simp only [hp, Bool.false_eq_true, if_false] at hid hlink
        exact .inr ⟨q, hq, hid, hp, hlink⟩
  · rintro (⟨r, hr, hid, hp, rfl⟩ | ⟨r, hr, hid, hp, hlink⟩)
    · refine ⟨_, List.mem_map_of_mem hr, ?_, by simp [hp, EntityRow.obsolete]⟩
      simpa [hp, EntityRow.obsolete] using hid
    · exact ⟨r, mem_retire_of_mem hr hp, hid, hlink⟩

theorem supersededBy_markEntityObsolete
    (heffect : (Write.markEntityObsolete x y).effect now db = some db') {a b : SqlText} :
    db'.SupersededBy a b ↔
      (a = x ∧ b = y ∧ db.HasEntity x) ∨ (a ≠ x ∧ db.SupersededBy a b) := by
  cases heffect
  rw [supersededBy_retire]
  simp only [beq_iff_eq, beq_eq_false_iff_ne]
  constructor
  · rintro (⟨r, hr, rfl, rfl, rfl⟩ | ⟨r, hr, rfl, hne, hlink⟩)
    · exact .inl ⟨rfl, rfl, r, hr, rfl⟩
    · exact .inr ⟨hne, r, hr, rfl, hlink⟩
  · rintro (⟨rfl, rfl, r, hr, rfl⟩ | ⟨hne, r, hr, rfl, hlink⟩)
    · exact .inl ⟨r, hr, rfl, rfl, rfl⟩
    · exact .inr ⟨r, hr, rfl, hne, hlink⟩

/-- An entity saved without a successor has none. -/
theorem supersededBy_upsertEntity (heffect : (Write.upsertEntity v).effect now db = some db')
    (hv : v.supersededBy = none) {a b : SqlText} :
    db'.SupersededBy a b ↔ a ≠ v.id ∧ db.SupersededBy a b := by
  constructor
  · rintro ⟨r, hr, rfl, hlink⟩
    rcases mem_upsert_cases heffect hr with ⟨hmem, hne⟩ | hrv
    · exact ⟨hne, r, hmem, rfl, hlink⟩
    · subst hrv
      rw [hv] at hlink
      cases hlink
  · rintro ⟨hne, r, hr, rfl, hlink⟩
    exact ⟨r, mem_upsert_of_mem heffect hr hne, rfl, hlink⟩

theorem hasEntity_upsertEntity (heffect : (Write.upsertEntity v).effect now db = some db') :
    db'.HasEntity v.id := by
  obtain ⟨r, hr, rfl⟩ := exists_mem_upsert heffect
  exact ⟨r, hr, rfl⟩

/-- Marking an entity as superseded closes a cycle exactly when its successor leads to it. -/
theorem acyclic_markEntityObsolete
    (heffect : (Write.markEntityObsolete x y).effect now db = some db')
    (h : db.SupersessionAcyclic) : db'.SupersessionAcyclic ↔ db.LinkIsOpen x y := by
  constructor
  · intro hacyclic hentity hreaches
    refine not_acyclic_of_reaches ?_ (fun a b hne hlink => ?_) hreaches hacyclic
    · exact (supersededBy_markEntityObsolete heffect).mpr (.inl ⟨rfl, rfl, hentity⟩)
    · exact (supersededBy_markEntityObsolete heffect).mpr (.inr ⟨hne, hlink⟩)
  · intro hopen
    have hredirects : Redirects (fun a => a = x ∧ db.HasEntity x) y db.SupersededBy
        db'.SupersededBy := by
      intro a b hlink
      rcases (supersededBy_markEntityObsolete heffect).mp hlink with ⟨ha, hb, hx⟩ | ⟨-, hold⟩
      · exact .inl ⟨⟨ha, hx⟩, hb⟩
      · exact .inr hold
    refine hredirects.acyclic h ?_
    rintro a ⟨rfl, hentity⟩
    exact hopen hentity

end Statements

/-! ## Operations -/

section Operations

variable {host : Host} {db db' : Database}

/-- The links after the duplicate marking: the duplicates name the saved entity. -/
theorem supersededBy_duplicateMarking {entity : MemoryEntity} {a b : SqlText}
    (happlied : Session.Applied host.engine entity.duplicateMarking db db')
    (hlink : db'.SupersededBy a b) :
    (a ≠ bindText entity.id ∧ b = bindText entity.id) ∨ db.SupersededBy a b := by
  unfold MemoryEntity.duplicateMarking at happlied
  split at happlied
  · cases happlied
    exact .inr hlink
  · obtain ⟨n, d, heffect, hrest⟩ := Session.applied_cons happlied
    cases hrest
    cases heffect
    rcases supersededBy_retire.mp hlink with ⟨r, -, rfl, hdup, rfl⟩ | ⟨r, hr, rfl, -, hold⟩
    · simp only [EntityRow.isDuplicateOf, Bool.and_eq_true, bne_iff_ne] at hdup
      exact .inl ⟨hdup.1.2, rfl⟩
    · exact .inr ⟨r, hr, rfl, hold⟩

/-- The marking and the upsert together keep the links acyclic, whatever was there: the saved
entity has no successor any more. -/
theorem acyclic_saveEntity_upsert {entity : MemoryEntity} {refsStr metadataStr : Text}
    {d₁ d₂ : Database} {n : ℕ} (hissued : entity.supersededByEntityId = [])
    (hdup : Session.Applied host.engine entity.duplicateMarking db d₁)
    (hupsert : host.engine.effect n (.upsertEntity (entity.values refsStr metadataStr)) d₁ =
      some d₂) (h : db.SupersessionAcyclic) :
    d₂.SupersessionAcyclic ∧ ∀ b, ¬d₂.SupersededBy (bindText entity.id) b := by
  have hnone : (entity.values refsStr metadataStr).supersededBy = none := by
    simp [MemoryEntity.values, hissued]
  rw [engine_effect] at hupsert
  have hlinks := fun a b => supersededBy_upsertEntity (a := a) (b := b) hupsert hnone
  refine ⟨?_, fun b hlink => ((hlinks _ b).mp hlink).1 rfl⟩
  have hkept : Acyclic fun a b => a ≠ bindText entity.id ∧ db.SupersededBy a b :=
    h.mono fun a b hab => hab.2
  have hredirects : Redirects (fun a => a ≠ bindText entity.id) (bindText entity.id)
      (fun a b => a ≠ bindText entity.id ∧ db.SupersededBy a b) d₂.SupersededBy := by
    intro a b hlink
    obtain ⟨hne, hlink⟩ := (hlinks a b).mp hlink
    rcases supersededBy_duplicateMarking hdup hlink with hdup | hold
    · exact .inl hdup
    · exact .inr ⟨hne, hold⟩
  refine hredirects.acyclic hkept fun a hne hreaches => ?_
  exact hne (reflTransGen_of_sink (fun z hz => hz.1 rfl) hreaches)

/-- Statements that write no entity leave the links alone. -/
theorem supersededBy_of_entities_eq (heq : db'.entities = db.entities) :
    db'.SupersededBy = db.SupersededBy ∧ db'.HasEntity = db.HasEntity := by
  unfold Database.SupersededBy Database.HasEntity Database.entityRows
  rw [heq]
  exact ⟨rfl, rfl⟩

theorem acyclic_saveEntity {entity : MemoryEntity} {ws : List Write}
    (hissued : entity.supersededByEntityId = [])
    (hws : (TransactionOp.saveEntity entity).statements = .ok ws)
    (happlied : Session.Applied host.engine ws db db') (h : db.SupersessionAcyclic) :
    db'.SupersessionAcyclic ↔ (TransactionOp.saveEntity entity).LinksForward db := by
  obtain ⟨refsStr, metadataStr, -, -, rfl⟩ := saveEntity_statements hws
  obtain ⟨d₁, hdup, hrest⟩ := Session.applied_append happlied
  obtain ⟨n, d₂, hupsert, hsuper⟩ := Session.applied_cons hrest
  obtain ⟨hacyclic, hsink⟩ := acyclic_saveEntity_upsert hissued hdup hupsert h
  have hentity : d₂.HasEntity (bindText entity.id) := by
    rw [engine_effect] at hupsert
    exact hasEntity_upsertEntity hupsert
  unfold MemoryEntity.supersession at hsuper
  split at hsuper
  · next hempty =>
      cases hsuper
      rw [List.isEmpty_iff] at hempty
      exact iff_of_true hacyclic fun hne => absurd hempty hne
  · next hnonempty =>
      rw [List.isEmpty_iff] at hnonempty
      obtain ⟨m, d₃, heffect, hnil⟩ := Session.applied_cons hsuper
      cases hnil
      rw [engine_effect] at heffect
      rw [acyclic_markEntityObsolete heffect hacyclic]
      constructor
      · intro hopen _ heq
        rw [heq] at hopen
        exact hopen hentity .refl
      · intro hforward _ hreaches
        exact hforward hnonempty (reflTransGen_of_sink hsink hreaches)

theorem acyclic_saveRelation {relation : MemoryRelation} {ws : List Write}
    (hws : (TransactionOp.saveRelation relation).statements = .ok ws)
    (happlied : Session.Applied host.engine ws db db') (h : db.SupersessionAcyclic) :
    db'.SupersessionAcyclic ↔ (TransactionOp.saveRelation relation).LinksForward db := by
  obtain ⟨refsStr, metadataStr, -, -, rfl⟩ := saveRelation_statements hws
  obtain ⟨n₁, d₁, hdeactivate, hrest⟩ := Session.applied_cons happlied
  obtain ⟨n₂, d₂, hinsert, hsuper⟩ := Session.applied_cons hrest
  rw [engine_effect] at hdeactivate hinsert
  have heq : d₂.entities = db.entities :=
    ((Write.effect_sameExcept hinsert).entities (by simp [Write.table])).trans
      ((Write.effect_sameExcept hdeactivate).entities (by simp [Write.table]))
  obtain ⟨hlinks, hentity⟩ := supersededBy_of_entities_eq heq
  have hacyclic : d₂.SupersessionAcyclic := by
    unfold Database.SupersessionAcyclic
    rw [hlinks]
    exact h
  unfold MemoryRelation.supersession at hsuper
  split at hsuper
  · next htype =>
      obtain ⟨m, d₃, heffect, hnil⟩ := Session.applied_cons hsuper
      cases hnil
      rw [engine_effect] at heffect
      rw [acyclic_markEntityObsolete heffect hacyclic]
      unfold Database.LinkIsOpen
      rw [hlinks, hentity]
      exact ⟨fun hopen _ => hopen, fun hforward => hforward htype⟩
  · next htype =>
      cases hsuper
      exact iff_of_true hacyclic fun htype' => absurd htype' htype

/-- A successful operation keeps supersession acyclic exactly when it links forward. -/
theorem acyclic_operation {op : TransactionOp} (hissued : op.IsIssued) {ws : List Write}
    (hws : op.statements = .ok ws) (happlied : Session.Applied host.engine ws db db')
    (h : db.SupersessionAcyclic) : db'.SupersessionAcyclic ↔ op.LinksForward db := by
  have hframe : (∀ w ∈ ws, w.table ≠ some .entities) → db'.SupersessionAcyclic := by
    intro htables
    refine happlied.invariant (P := fun w => w.table ≠ some .entities)
      (I := Database.SupersessionAcyclic) (fun n w d d' hw heffect hd => ?_) htables h
    have hlinks := (supersededBy_of_entities_eq
      ((Write.effect_sameExcept heffect).entities hw)).1
    unfold Database.SupersessionAcyclic at hd ⊢
    rw [hlinks]
    exact hd
  cases op with
  | saveSummary agentId sessionId level topic summary confidence sourceRefs =>
      obtain ⟨refsStr, -, rfl⟩ := saveSummary_statements hws
      exact iff_of_true (hframe (by simp [Write.table])) trivial
  | saveEntity entity => exact acyclic_saveEntity hissued hws happlied h
  | saveRelation relation => exact acyclic_saveRelation hws happlied h
  | markEntityObsolete entityId supersededBy =>
      cases hws
      obtain ⟨n, d, heffect, hrest⟩ := Session.applied_cons happlied
      cases hrest
      rw [engine_effect] at heffect
      exact acyclic_markEntityObsolete heffect h
  | saveConsolidationCursor agentId sessionId cursor =>
      cases hws
      exact iff_of_true (hframe (by simp [Write.table])) trivial

end Operations

/-! ## Whole runs -/

/-- Along every run whose operations link forward, following `superseded_by` never leads back; and
in every state of it, an operation that does not link forward closes a cycle. -/
theorem run_supersessionAcyclic (host : Host) (l : Ledger)
    (h : ReflTransGen (OperationStep host fun db op => op.IsIssued ∧ op.LinksForward db) .start l) :
    l.connection.current.SupersessionAcyclic ∧
      ∀ (op : TransactionOp) ws db', op.IsIssued → op.statements = .ok ws →
        Session.Applied host.engine ws l.connection.current db' →
          (db'.SupersessionAcyclic ↔ op.LinksForward l.connection.current) := by
  have hempty : Database.empty.SupersessionAcyclic := by
    intro x hcycle
    obtain ⟨y, ⟨r, hr, -⟩, -⟩ := TransGen.head'_iff.mp hcycle
    cases hr
  have hkeeps := Ledger.keeps_of_run (I := fun _ db => db.SupersessionAcyclic)
    (fun _ _ _ _ _ hadmits hdb hws happlied =>
      (acyclic_operation hadmits.1 hws happlied hdb).mpr hadmits.2) hempty h
  refine ⟨hkeeps.current, fun op ws db' hissued hws happlied => ?_⟩
  exact acyclic_operation hissued hws happlied hkeeps.current

/-- An entity replaced by another. -/
theorem run_supersessionAcyclic_replacement :
    let saves : List TransactionOp :=
      [.saveEntity { id := ascii "e1", name := ascii "old" },
        .saveEntity { id := ascii "e2", name := ascii "new", supersededEntityId := ascii "e1" }]
    ∃ l, ReflTransGen (OperationStep .obliging fun db op => op.IsIssued ∧ op.LinksForward db)
        .start l ∧ l.saves = saves ∧ l.connection.current.SupersessionAcyclic := by
  intro saves
  have hfirst : OperationStep .obliging (fun db op => op.IsIssued ∧ op.LinksForward db) .start _ :=
    .operation .start saves[0] ⟨rfl, by simp [saves, TransactionOp.LinksForward]⟩ rfl
  have hrun := (ReflTransGen.single hfirst).tail
    (.operation _ saves[1] ⟨rfl, fun _ => by decide⟩ rfl)
  exact ⟨_, hrun, rfl, (run_supersessionAcyclic .obliging _ hrun).1⟩

/-- Two entities, each superseding the other. -/
theorem supersession_cycle :
    let supersedes (x y : String) : TransactionOp :=
      .saveRelation {
        fromEntityId := ascii x
        relationType := ascii "supersedes"
        toEntityId := ascii y }
    ∃ l, ReflTransGen (OperationStep .obliging fun _ op => op.IsIssued) .start l ∧
      l.saves = [.saveEntity { id := ascii "e1", name := ascii "old" },
        .saveEntity { id := ascii "e2", name := ascii "new" }, supersedes "e1" "e2",
        supersedes "e2" "e1"] ∧
      ¬l.connection.current.SupersessionAcyclic := by
  intro supersedes
  have h₁ : OperationStep .obliging (fun _ op => op.IsIssued) .start _ :=
    .operation .start (.saveEntity { id := ascii "e1", name := ascii "old" }) rfl rfl
  have h₂ := (ReflTransGen.single h₁).tail
    (.operation _ (.saveEntity { id := ascii "e2", name := ascii "new" }) rfl rfl)
  have h₃ := h₂.tail (.operation _ (supersedes "e1" "e2") trivial rfl)
  have h₄ := h₃.tail (.operation _ (supersedes "e2" "e1") trivial rfl)
  refine ⟨_, h₄, rfl, fun hacyclic => hacyclic (bindText (ascii "e1")) ?_⟩
  exact .head (b := bindText (ascii "e2")) (by decide +kernel) (.single (by decide +kernel))

end AgentMemory
