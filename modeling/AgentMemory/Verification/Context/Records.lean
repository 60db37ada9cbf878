import AgentMemory.Verification.Context.Messages

/-! # The structured records of a context

With a query, the hits of a search are rendered as text, and the records beside them are picked
out of a snapshot of the newest ones. -/

namespace AgentMemory

open Foundation

/-! ## Reading changes no table -/

section Current

variable (host : QueryHost)

theorem runFtsQueries_current (queries : List (String × (Database → List MemorySearchHit)))
    (results : List MemorySearchHit) (c : Connection) :
    (runFtsQueries host queries results c).2.current = c.current := by
  induction queries generalizing results c with
  | nil => rfl
  | cons query rest ih =>
    rw [runFtsQueries]
    rcases selectRows_cases host.toHost query.2 c with ⟨-, hselect⟩ | ⟨-, hselect⟩
    · rw [hselect]
      exact ih _ _
    · rw [hselect]
      cases (host.outcome c.clock).atPrepare <;> rfl

theorem runLikeQueries_current (queries : List (String × (Database → List MemorySearchHit)))
    (results : List MemorySearchHit) (c : Connection) :
    (runLikeQueries host queries results c).2.current = c.current := by
  induction queries generalizing results c with
  | nil => rfl
  | cons query rest ih =>
    rw [runLikeQueries]
    rcases selectRows_cases host.toHost query.2 c with ⟨-, hselect⟩ | ⟨-, hselect⟩
    · rw [hselect]
      exact ih _ _
    · rw [hselect]

theorem findHits_current (request : MemorySearchRequest) (limit : ℕ) (c : Connection) :
    (findHits host request limit c).2.current = c.current := by
  unfold findHits
  dsimp only
  generalize hfirst : (if (fts5EscapeQuery request.query).isEmpty = true then _ else _ :
    Found × Connection) = first
  have hcurrent : first.2.current = c.current := by
    rw [← hfirst]
    split
    · rfl
    · exact runFtsQueries_current host _ _ c
  obtain ⟨found, c₁⟩ := first
  cases found with
  | error failed => exact hcurrent
  | ok results =>
    dsimp only
    split
    · rw [runLikeQueries_current]
      exact hcurrent
    · exact hcurrent

theorem searchLongTermMemory_current (request : MemorySearchRequest) (c : Connection) :
    (searchLongTermMemory host request c).2.current = c.current := by
  have hcurrent := findHits_current host request (effectiveLimit request.limit 10) c
  unfold searchLongTermMemory
  split
  · rfl
  · dsimp only
    generalize findHits host request (effectiveLimit request.limit 10) c = found at hcurrent ⊢
    obtain ⟨found, c'⟩ := found
    cases found <;> exact hcurrent

theorem contextMessages_current (builder : ContextBuilder) (request : MemoryContextRequest)
    (c : Connection) : (contextMessages host.toHost builder request c).2.current = c.current := by
  unfold contextMessages loadMessagesForContext
  dsimp only
  split_ifs <;> rfl

end Current

/-! ## What every hit of a search has -/

section Hits

variable {host : QueryHost} {P : MemorySearchHit → Prop}

theorem runFtsQueries_forall {queries : List (String × (Database → List MemorySearchHit))}
    {c c' : Connection} (hqueries : ∀ q ∈ queries, ∀ hit ∈ q.2 c.current, P hit)
    {results hits : List MemorySearchHit} (hresults : ∀ hit ∈ results, P hit)
    (hrun : runFtsQueries host queries results c = (.ok hits, c')) : ∀ hit ∈ hits, P hit := by
  induction queries generalizing results c with
  | nil =>
    cases hrun
    exact hresults
  | cons query rest ih =>
    rw [runFtsQueries] at hrun
    rcases selectRows_cases host.toHost query.2 c with ⟨-, hselect⟩ | ⟨-, hselect⟩
    · rw [hselect] at hrun
      refine @ih { c with clock := c.clock + 1 }
        (fun q hq => hqueries q (List.mem_cons_of_mem _ hq)) _ ?_ hrun
      exact List.forall_mem_append.mpr ⟨hresults, hqueries query List.mem_cons_self⟩
    · rw [hselect] at hrun
      cases hprepare : (host.outcome c.clock).atPrepare with
      | true =>
        rw [hprepare] at hrun
        cases hrun
      | false =>
        rw [hprepare] at hrun
        cases hrun
        simp

theorem runLikeQueries_forall {queries : List (String × (Database → List MemorySearchHit))}
    {c c' : Connection} (hqueries : ∀ q ∈ queries, ∀ hit ∈ q.2 c.current, P hit)
    {results hits : List MemorySearchHit} (hresults : ∀ hit ∈ results, P hit)
    (hrun : runLikeQueries host queries results c = (.ok hits, c')) : ∀ hit ∈ hits, P hit := by
  induction queries generalizing results c with
  | nil =>
    cases hrun
    exact hresults
  | cons query rest ih =>
    rw [runLikeQueries] at hrun
    rcases selectRows_cases host.toHost query.2 c with ⟨-, hselect⟩ | ⟨-, hselect⟩
    · rw [hselect] at hrun
      refine @ih { c with clock := c.clock + 1 }
        (fun q hq => hqueries q (List.mem_cons_of_mem _ hq)) _ ?_ hrun
      exact List.forall_mem_append.mpr ⟨hresults, hqueries query List.mem_cons_self⟩
    · rw [hselect] at hrun
      cases hrun

theorem mem_of_mem_sortAndLimitSearchResults {hits : List MemorySearchHit} {limit : ℕ}
    {hit : MemorySearchHit} (h : hit ∈ sortAndLimitSearchResults host hits limit) : hit ∈ hits := by
  refine (host.hitOrder.perm hits).mem_iff.mp ?_
  unfold sortAndLimitSearchResults at h
  dsimp only at h
  split at h
  · exact List.mem_of_mem_take h
  · exact h

variable {request : MemorySearchRequest}

theorem findHits_forall {limit : ℕ} {c c' : Connection} {hits : List MemorySearchHit}
    (hfts : ∀ ftsQuery, ∀ q ∈ ftsQueries host request ftsQuery limit,
      ∀ hit ∈ q.2 c.current, P hit)
    (hlike : ∀ q ∈ likeQueries host request limit, ∀ hit ∈ q.2 c.current, P hit)
    (hrun : findHits host request limit c = (.ok hits, c')) : ∀ hit ∈ hits, P hit := by
  unfold findHits at hrun
  dsimp only at hrun
  generalize hfirst : (if (fts5EscapeQuery request.query).isEmpty = true then _ else _ :
    Found × Connection) = first at hrun
  have hcurrent : first.2.current = c.current := by
    rw [← hfirst]
    split
    · rfl
    · exact runFtsQueries_current host _ _ c
  obtain ⟨found, c₁⟩ := first
  cases found with
  | error failed => cases hrun
  | ok results =>
    have hresults : ∀ hit ∈ results, P hit := by
      split at hfirst
      · cases hfirst
        simp
      · exact runFtsQueries_forall (hfts _) (by simp) hfirst
    dsimp only at hrun hcurrent
    split at hrun
    · rw [← hcurrent] at hlike
      exact runLikeQueries_forall hlike (by simp) hrun
    · cases hrun
      exact hresults

/-- What the hits of every query have, the hits of a search have. -/
theorem searchLongTermMemory_forall {c : Connection}
    (hfts : ∀ ftsQuery limit, ∀ q ∈ ftsQueries host request ftsQuery limit,
      ∀ hit ∈ q.2 c.current, P hit)
    (hlike : ∀ limit, ∀ q ∈ likeQueries host request limit, ∀ hit ∈ q.2 c.current, P hit)
    (hok : (searchLongTermMemory host request c).1.succeeded = true) :
    ∀ hit ∈ (searchLongTermMemory host request c).1.results, P hit := by
  unfold searchLongTermMemory at hok ⊢
  by_cases hquery : request.query.isEmpty = true
  · simp [hquery]
  · simp only [hquery, Bool.false_eq_true, if_false] at hok ⊢
    generalize hfind : findHits host request (effectiveLimit request.limit 10) c = found at hok ⊢
    obtain ⟨found, c'⟩ := found
    cases found with
    | error failed => cases hok
    | ok results =>
      intro hit hhit
      exact findHits_forall (fun ftsQuery => hfts ftsQuery _) (hlike _) hfind hit
        (mem_of_mem_sortAndLimitSearchResults hhit)

theorem mem_of_mem_ftsMatches {ρ : Type} {table : FtsTable} {ftsQuery : Text} {db : Database}
    {rows : List (Rowid × ρ)} {r : (Rowid × ρ) × ℚ}
    (h : r ∈ ftsMatches host table ftsQuery db rows) : r.1 ∈ rows := by
  obtain ⟨row, hrow, hrank⟩ := List.mem_filterMap.mp h
  obtain ⟨rank, -, rfl⟩ := Option.map_eq_some_iff.mp hrank
  exact hrow

/-- The hit is this one with the score of the full-text search or of the fallback. -/
def IsScored (host : QueryHost) (unscored hit : MemorySearchHit) : Prop :=
  (∃ rank, hit = applyFtsScore host unscored rank) ∨ hit = applyFallbackScore unscored

theorem IsScored.id {unscored hit : MemorySearchHit} (h : IsScored host unscored hit) :
    hit.id = unscored.id := by
  rcases h with ⟨rank, rfl⟩ | rfl <;> rfl

theorem IsScored.sourceRefs {unscored hit : MemorySearchHit} (h : IsScored host unscored hit) :
    hit.sourceRefs = unscored.sourceRefs := by
  rcases h with ⟨rank, rfl⟩ | rfl <;> rfl

/-- The hit was made from this active entity of the agent. -/
structure IsEntityHit (host : QueryHost) (agentId : Text) (db : Database) (hit : MemorySearchHit)
    (r : Rowid × EntityRow) : Prop where
  active : r ∈ activeEntities agentId db
  scored : IsScored host (entityHit host.toHost r) hit

/-- The hit was made from this active relation of the agent. -/
structure IsRelationHit (host : QueryHost) (agentId : Text) (db : Database)
    (hit : MemorySearchHit) (r : Rowid × RelationRow) : Prop where
  active : r ∈ activeRelations agentId db
  scored : IsScored host (relationHit host.toHost r) hit

/-- The hit of an entity or of a relation is made from an active row of the agent. -/
structure MadeFromRow (host : QueryHost) (agentId : Text) (db : Database) (hit : MemorySearchHit) :
    Prop where
  entity : hit.type = ascii "entity" → ∃ r, IsEntityHit host agentId db hit r
  relation : hit.type = ascii "relation" → ∃ r, IsRelationHit host agentId db hit r

theorem searchLongTermMemory_madeFromRow {c : Connection}
    (hok : (searchLongTermMemory host request c).1.succeeded = true) :
    ∀ hit ∈ (searchLongTermMemory host request c).1.results,
      MadeFromRow host request.agentId c.current hit := by
  have hsummary : ascii "summary" ≠ ascii "entity" ∧ ascii "summary" ≠ ascii "relation" := by
    decide
  have hentity : ascii "entity" ≠ ascii "relation" := by decide
  refine searchLongTermMemory_forall ?_ ?_ hok
  · intro ftsQuery limit q hq hit hhit
    simp only [ftsQueries, List.mem_cons, List.not_mem_nil, or_false] at hq
    rcases hq with rfl | rfl | rfl
    · obtain ⟨r, -, rfl⟩ := List.mem_map.mp hhit
      exact ⟨fun h => absurd h hsummary.1, fun h => absurd h hsummary.2⟩
    · obtain ⟨r, hr, rfl⟩ := List.mem_map.mp hhit
      have hrow := mem_of_mem_ftsMatches (Arrangement.mem_of_mem_top hr)
      exact ⟨fun _ => ⟨r.1, hrow, .inl ⟨r.2, rfl⟩⟩, fun h => absurd h hentity⟩
    · obtain ⟨r, hr, rfl⟩ := List.mem_map.mp hhit
      have hrow := mem_of_mem_ftsMatches (Arrangement.mem_of_mem_top hr)
      exact ⟨fun h => absurd h hentity.symm, fun _ => ⟨r.1, hrow, .inl ⟨r.2, rfl⟩⟩⟩
  · intro limit q hq hit hhit
    simp only [likeQueries, List.mem_cons, List.not_mem_nil, or_false] at hq
    rcases hq with rfl | rfl | rfl
    · obtain ⟨r, -, rfl⟩ := List.mem_map.mp hhit
      exact ⟨fun h => absurd h hsummary.1, fun h => absurd h hsummary.2⟩
    · obtain ⟨r, hr, rfl⟩ := List.mem_map.mp hhit
      have hrow := List.mem_of_mem_filter (Arrangement.mem_of_mem_top hr)
      exact ⟨fun _ => ⟨r, hrow, .inr rfl⟩, fun h => absurd h hentity⟩
    · obtain ⟨r, hr, rfl⟩ := List.mem_map.mp hhit
      have hrow := List.mem_of_mem_filter (Arrangement.mem_of_mem_top hr)
      exact ⟨fun h => absurd h hentity.symm, fun _ => ⟨r, hrow, .inr rfl⟩⟩

/-- The hit of a relation names it by its rowid. -/
def NamesRelation (hit : MemorySearchHit) : Prop :=
  hit.type = ascii "relation" → ∃ n, hit.id = ascii "relation:" ++ decimal n

theorem MadeFromRow.namesRelation {agentId : Text} {db : Database} {hit : MemorySearchHit}
    (h : MadeFromRow host agentId db hit) : NamesRelation hit := by
  intro htype
  obtain ⟨r, -, hscored⟩ := h.relation htype
  exact ⟨_, hscored.id⟩

theorem searchLongTermMemory_namesRelation {c : Connection}
    (hok : (searchLongTermMemory host request c).1.succeeded = true) :
    ∀ hit ∈ (searchLongTermMemory host request c).1.results, NamesRelation hit :=
  fun hit hhit => (searchLongTermMemory_madeFromRow hok hit hhit).namesRelation

end Hits

/-- A number does not begin like the id of a hit. -/
theorem decimal_ne_relation_id (z : ℤ) (rest : Text) : decimal z ≠ ascii "relation:" ++ rest := by
  intro heq
  have hmem : (114 : UInt8) ∈ decimal z := by
    rw [heq]
    exact List.mem_append_left _ (by decide)
  unfold decimal at hmem
  split at hmem
  · rcases List.mem_cons.mp hmem with h | h
    · exact absurd h (by decide)
    · exact absurd (decimalNat_digits _ _ h) (by decide)
  · exact absurd (decimalNat_digits _ _ hmem) (by decide)

/-! ## Records and hits -/

/-- The hits of the search that `BuildContext` makes. -/
def contextHits (host : ContextHost) (builder : ContextBuilder) (request : MemoryContextRequest)
    (c : Connection) : List MemorySearchHit :=
  (searchLongTermMemory host.toQueryHost
    (contextSearchRequest request (longTermMemoryLimit builder request))
    (contextMessages host.toHost builder request c).2).1.results

/-- The hits of one type. -/
def hitsOfType (type : String) (hits : List MemorySearchHit) : List MemorySearchHit :=
  hits.filter fun hit => hit.type == ascii type

/-- The rows from which the hits of entities and of relations were made, hit by hit. -/
structure HitsMadeFrom (host : QueryHost) (agentId : Text) (db : Database)
    (hits : List MemorySearchHit) (entityRows : List (Rowid × EntityRow))
    (relationRows : List (Rowid × RelationRow)) : Prop where
  entities : List.Forall₂ (IsEntityHit host agentId db) (hitsOfType "entity" hits) entityRows
  relations : List.Forall₂ (IsRelationHit host agentId db) (hitsOfType "relation" hits) relationRows

/-- The package has the ids of the hits, and its records are those of the rows of the hits: none
is missing and none is unrelated. -/
structure RecordsAgree (host : Host) (pkg : MemoryContextPackage) (hits : List MemorySearchHit)
    (entityRows : List (Rowid × EntityRow)) (relationRows : List (Rowid × RelationRow)) :
    Prop where
  entityIds : ∀ id, (∃ entity ∈ pkg.entities, entity.id = id) ↔ id ∈ hitIds "entity" hits
  relationIds : ∀ id, (∃ relation ∈ pkg.relations, ascii "relation:" ++ relation.id = id) ↔
    id ∈ hitIds "relation" hits
  entities : ∀ entity, entity ∈ pkg.entities ↔ entity ∈ entityRows.map (readEntityRow host)
  relations : ∀ relation,
    relation ∈ pkg.relations ↔ relation ∈ relationRows.map (readRelationRow host)

/-- The record of every hit is among the newest `n` active records of its kind, and none of these
is taken for the record of a hit by its id alone. -/
structure HitsAreNewest (host : QueryHost) (agentId : Text) (n : ℕ) (db : Database)
    (hits : List MemorySearchHit) (entityRows : List (Rowid × EntityRow))
    (relationRows : List (Rowid × RelationRow)) : Prop where
  entities : ∀ r ∈ entityRows, readEntityRow host.toHost r ∈
    (host.entityOrder.top n (activeEntities agentId db)).map (readEntityRow host.toHost)
  relations : ∀ r ∈ relationRows, readRelationRow host.toHost r ∈
    (host.relationOrder.top n (activeRelations agentId db)).map (readRelationRow host.toHost)
  entitiesTold : ∀ r ∈ host.entityOrder.top n (activeEntities agentId db),
    columnText r.2.id ∈ hitIds "entity" hits →
      readEntityRow host.toHost r ∈ entityRows.map (readEntityRow host.toHost)
  relationsTold : ∀ r ∈ host.relationOrder.top n (activeRelations agentId db),
    ascii "relation:" ++ decimal (columnInt r.1.val) ∈ hitIds "relation" hits →
      readRelationRow host.toHost r ∈ relationRows.map (readRelationRow host.toHost)

theorem exists_forall₂ {α β : Type} {R : α → β → Prop} {l : List α} (h : ∀ a ∈ l, ∃ b, R a b) :
    ∃ bs, List.Forall₂ R l bs := by
  induction l with
  | nil => exact ⟨[], .nil⟩
  | cons a l ih =>
    obtain ⟨b, hb⟩ := h a List.mem_cons_self
    obtain ⟨bs, hbs⟩ := ih fun a' ha' => h a' (List.mem_cons_of_mem _ ha')
    exact ⟨b :: bs, .cons hb hbs⟩

theorem exists_hitsMadeFrom {host : QueryHost} {agentId : Text} {db : Database}
    {hits : List MemorySearchHit} (hmade : ∀ hit ∈ hits, MadeFromRow host agentId db hit) :
    ∃ entityRows relationRows, HitsMadeFrom host agentId db hits entityRows relationRows := by
  obtain ⟨entityRows, hentities⟩ := exists_forall₂ (l := hitsOfType "entity" hits)
    (R := IsEntityHit host agentId db) (by
      intro hit hhit
      obtain ⟨hmem, htype⟩ := List.mem_filter.mp hhit
      exact (hmade hit hmem).entity (by simpa using htype))
  obtain ⟨relationRows, hrelations⟩ := exists_forall₂ (l := hitsOfType "relation" hits)
    (R := IsRelationHit host agentId db) (by
      intro hit hhit
      obtain ⟨hmem, htype⟩ := List.mem_filter.mp hhit
      exact (hmade hit hmem).relation (by simpa using htype))
  exact ⟨entityRows, relationRows, hentities, hrelations⟩

theorem map_eq_of_forall₂ {α β γ : Type} {f : α → γ} {g : β → γ} {l : List α} {l' : List β}
    (h : List.Forall₂ (fun a b => f a = g b) l l') : l.map f = l'.map g := by
  rw [← List.forall₂_eq_eq_eq, List.forall₂_map_left_iff, List.forall₂_map_right_iff]
  exact h

section MadeFrom

variable {host : QueryHost} {agentId : Text} {db : Database} {hits : List MemorySearchHit}
  {entityRows : List (Rowid × EntityRow)} {relationRows : List (Rowid × RelationRow)}

/-- The ids of the hits are those of their rows. -/
theorem HitsMadeFrom.entityIds (h : HitsMadeFrom host agentId db hits entityRows relationRows) :
    hitIds "entity" hits = entityRows.map fun r => columnText r.2.id :=
  map_eq_of_forall₂ (h.entities.imp fun _ _ hmade => hmade.scored.id)

theorem HitsMadeFrom.relationIds (h : HitsMadeFrom host agentId db hits entityRows relationRows) :
    hitIds "relation" hits =
      relationRows.map fun r => ascii "relation:" ++ decimal (columnInt r.1.val) :=
  map_eq_of_forall₂ (h.relations.imp fun _ _ hmade => hmade.scored.id)

end MadeFrom

theorem isInt_longTermMemoryLimit (builder : ContextBuilder) (request : MemoryContextRequest) :
    isInt (longTermMemoryLimit builder request) = true := by
  unfold longTermMemoryLimit
  dsimp only
  split_ifs
  · exact isInt_metadataInt (by decide) _ _
  · decide
  · rw [isInt_iff]
    refine ⟨le_max_of_le_left (by norm_num), max_lt (by norm_num) (min_lt_of_left_lt (by norm_num))⟩

/-- The records of a snapshot that hits name. -/
def namedRecords (hits : List MemorySearchHit) (snapshot : LongTermMemorySnapshot) :
    LongTermMemorySnapshot where
  entities := snapshot.entities.filter fun entity => (hitIds "entity" hits).contains entity.id
  relations := snapshot.relations.filter fun relation =>
    (hitIds "relation" hits).any (relationIdMatches relation)

/-- With a query, the long-term section is made of the hits and of the records they name among
the newest ones. -/
theorem contextLongTerm_of_query {host : QueryHost} {builder : ContextBuilder}
    {request : MemoryContextRequest} {c : Connection} (hlongTerm : builder.longTermStore = true)
    (hsearch : builder.searchStore = true)
    (hinclude : shouldInclude request ContextSections.longTerm = true)
    (hlimit : 0 < longTermMemoryLimit builder request) (hquery : request.query ≠ [])
    (hok : (contextLongTerm host builder request c).1.succeeded = true) :
    let search := (searchLongTermMemory host
      (contextSearchRequest request (longTermMemoryLimit builder request)) c).1
    search.succeeded = true ∧ (contextLongTerm host builder request c).1 = {
      searchResults := search.results
      usedSearch := true
      snapshot := namedRecords search.results (snapshotOf host request.agentId request.sessionId
        (longTermMemoryLimit builder request).toNat c.current) } := by
  have hcurrent := searchLongTermMemory_current host
    (contextSearchRequest request (longTermMemoryLimit builder request)) c
  have hnot : ¬longTermMemoryLimit builder request ≤ 0 := by omega
  revert hok
  simp only [contextLongTerm, selectLongTermMemory, hlongTerm, hsearch, hinclude, hlimit, hnot,
    List.isEmpty_iff, hquery, Bool.and_self, decide_true, if_true, Bool.not_true,
    Bool.or_self, decide_false, Bool.false_eq_true, if_false]
  generalize searchLongTermMemory host
    (contextSearchRequest request (longTermMemoryLimit builder request)) c = search at hcurrent ⊢
  by_cases hfound : search.1.succeeded = true
  · simp only [hfound, Bool.not_true, Bool.false_eq_true, if_false]
    by_cases hloaded : (loadLongTermMemory host request.agentId
        (.ofInt (longTermMemoryLimit builder request)) request.sessionId search.2).1.succeeded = true
    · have hsnapshot := loadLongTermMemory_succeeded hloaded
      rw [effectiveLimit_ofInt hlimit (isInt_longTermMemoryLimit builder request), hcurrent]
        at hsnapshot
      simp [hloaded, hsnapshot, namedRecords]
    · simp [hloaded]
  · simp [hfound]

theorem readEntityRow_id (host : Host) (r : Rowid × EntityRow) :
    (readEntityRow host r).id = columnText r.2.id :=
  rfl

theorem readRelationRow_id (host : Host) (r : Rowid × RelationRow) :
    (readRelationRow host r).id = decimal (columnInt r.1.val) := by
  simp only [readRelationRow]

theorem mem_hitIds_relation {hits : List MemorySearchHit} (hnames : ∀ hit ∈ hits, NamesRelation hit)
    {id : Text} (h : id ∈ hitIds "relation" hits) : ∃ n, id = ascii "relation:" ++ decimal n := by
  obtain ⟨hit, hhit, rfl⟩ := List.mem_map.mp h
  obtain ⟨hmem, htype⟩ := List.mem_filter.mp hhit
  exact hnames hit hmem (by simpa using htype)

/-- A relation of a snapshot matches a hit only by the prefixed id. -/
theorem relationIdMatches_iff {hits : List MemorySearchHit}
    (hnames : ∀ hit ∈ hits, NamesRelation hit) {id : Text} (hid : id ∈ hitIds "relation" hits)
    (host : Host) (r : Rowid × RelationRow) : relationIdMatches (readRelationRow host r) id = true ↔
      ascii "relation:" ++ (readRelationRow host r).id = id := by
  obtain ⟨n, rfl⟩ := mem_hitIds_relation hnames hid
  have hne := decimal_ne_relation_id (columnInt r.1.val) (decimal n)
  simp [relationIdMatches, readRelationRow, hne]

/-- The relations that the hits name among the newest ones are those with the id of a hit. -/
theorem mem_namedRelations {host : QueryHost} {agentId sessionId : Text} {n : ℕ} {db : Database}
    {hits : List MemorySearchHit} (hnames : ∀ hit ∈ hits, NamesRelation hit)
    {relation : MemoryRelation} :
    relation ∈ (namedRecords hits (snapshotOf host agentId sessionId n db)).relations ↔
      ∃ r ∈ host.relationOrder.top n (activeRelations agentId db),
        ascii "relation:" ++ decimal (columnInt r.1.val) ∈ hitIds "relation" hits ∧
          readRelationRow host.toHost r = relation := by
  constructor
  · intro h
    obtain ⟨hsnapshot, hany⟩ := List.mem_filter.mp h
    obtain ⟨r, hr, rfl⟩ := List.mem_map.mp hsnapshot
    obtain ⟨id, hid, hmatches⟩ := List.any_eq_true.mp hany
    refine ⟨r, hr, ?_, rfl⟩
    rw [← readRelationRow_id host.toHost,
      (relationIdMatches_iff hnames hid host.toHost r).mp hmatches]
    exact hid
  · rintro ⟨r, hr, hid, rfl⟩
    refine List.mem_filter.mpr ⟨List.mem_map_of_mem hr, List.any_eq_true.mpr ⟨_, hid, ?_⟩⟩
    rw [relationIdMatches_iff hnames hid, readRelationRow_id]

theorem mem_namedEntities {host : QueryHost} {agentId sessionId : Text} {n : ℕ} {db : Database}
    {hits : List MemorySearchHit} {entity : MemoryEntity} :
    entity ∈ (namedRecords hits (snapshotOf host agentId sessionId n db)).entities ↔
      ∃ r ∈ host.entityOrder.top n (activeEntities agentId db),
        columnText r.2.id ∈ hitIds "entity" hits ∧ readEntityRow host.toHost r = entity := by
  constructor
  · intro h
    obtain ⟨hsnapshot, hid⟩ := List.mem_filter.mp h
    obtain ⟨r, hr, rfl⟩ := List.mem_map.mp hsnapshot
    exact ⟨r, hr, by simpa [readEntityRow_id] using hid, rfl⟩
  · rintro ⟨r, hr, hid, rfl⟩
    exact List.mem_filter.mpr ⟨List.mem_map_of_mem hr, by simpa [readEntityRow_id] using hid⟩

/-! ### Records that are picked out by their ids -/

section Named

variable {ρ μ ι : Type} {read : ρ → μ} {idOf : ρ → ι} {ids : List ι} {rows newest : List ρ}

/-- The records of the newest rows that have one of the ids are those of the rows with these ids,
just when these rows are among the newest and no other of the newest has such an id. -/
theorem named_iff {named : List μ}
    (hnamed : ∀ record, record ∈ named ↔ ∃ r ∈ newest, idOf r ∈ ids ∧ read r = record)
    (hids : ids = rows.map idOf) (hread : ∀ r r', read r = read r' → idOf r = idOf r') :
    (∀ record, record ∈ named ↔ record ∈ rows.map read) ↔
      (∀ r ∈ rows, read r ∈ newest.map read) ∧
        ∀ r ∈ newest, idOf r ∈ ids → read r ∈ rows.map read := by
  simp only [hnamed]
  constructor
  · intro h
    refine ⟨fun r hr => ?_, fun r hr hid => (h _).mp ⟨r, hr, hid, rfl⟩⟩
    obtain ⟨r', hr', -, hsame⟩ := (h _).mpr (List.mem_map_of_mem hr)
    rw [← hsame]
    exact List.mem_map_of_mem hr'
  · rintro ⟨hnewest, htold⟩ record
    constructor
    · rintro ⟨r, hr, hid, rfl⟩
      exact htold r hr hid
    · intro hrecord
      obtain ⟨r, hr, rfl⟩ := List.mem_map.mp hrecord
      obtain ⟨r', hr', hsame⟩ := List.mem_map.mp (hnewest r hr)
      refine ⟨r', hr', ?_, hsame⟩
      rw [hread r' r hsame, hids]
      exact List.mem_map_of_mem hr

/-- Records that are those of some rows have their ids. -/
theorem ids_of_records {idOfRecord : μ → ι} {records : List μ}
    (hid : ∀ r, idOfRecord (read r) = idOf r)
    (h : ∀ record, record ∈ records ↔ record ∈ rows.map read) (id : ι) :
    (∃ record ∈ records, idOfRecord record = id) ↔ id ∈ rows.map idOf := by
  simp only [h, List.mem_map]
  constructor
  · rintro ⟨_, ⟨r, hr, rfl⟩, rfl⟩
    exact ⟨r, hr, (hid r).symm⟩
  · rintro ⟨r, hr, rfl⟩
    exact ⟨_, ⟨r, hr, rfl⟩, hid r⟩

end Named

section Agree

variable {host : QueryHost} {agentId sessionId : Text} {n : ℕ} {db : Database}
  {hits : List MemorySearchHit} {entityRows : List (Rowid × EntityRow)}
  {relationRows : List (Rowid × RelationRow)}

theorem recordsAgree_iff (hnames : ∀ hit ∈ hits, NamesRelation hit)
    (hmade : HitsMadeFrom host agentId db hits entityRows relationRows)
    {pkg : MemoryContextPackage}
    (hentities : pkg.entities =
      (namedRecords hits (snapshotOf host agentId sessionId n db)).entities)
    (hrelations : pkg.relations =
      (namedRecords hits (snapshotOf host agentId sessionId n db)).relations) :
    RecordsAgree host.toHost pkg hits entityRows relationRows ↔
      HitsAreNewest host agentId n db hits entityRows relationRows := by
  have hentitiesNamed (entity : MemoryEntity) : entity ∈ pkg.entities ↔
      ∃ r ∈ host.entityOrder.top n (activeEntities agentId db),
        columnText r.2.id ∈ hitIds "entity" hits ∧ readEntityRow host.toHost r = entity := by
    rw [hentities]
    exact mem_namedEntities
  have hrelationsNamed (relation : MemoryRelation) : relation ∈ pkg.relations ↔
      ∃ r ∈ host.relationOrder.top n (activeRelations agentId db),
        ascii "relation:" ++ decimal (columnInt r.1.val) ∈ hitIds "relation" hits ∧
          readRelationRow host.toHost r = relation := by
    rw [hrelations]
    exact mem_namedRelations hnames
  have hentitiesIff := named_iff hentitiesNamed hmade.entityIds fun r r' hread => by
    rw [← readEntityRow_id host.toHost, hread, readEntityRow_id]
  have hrelationsIff := named_iff hrelationsNamed hmade.relationIds fun r r' hread => by
    rw [← readRelationRow_id host.toHost, hread, readRelationRow_id]
  constructor
  · intro hagree
    obtain ⟨hnewest, htold⟩ := hentitiesIff.mp hagree.entities
    obtain ⟨hnewest', htold'⟩ := hrelationsIff.mp hagree.relations
    exact ⟨hnewest, hnewest', htold, htold'⟩
  · intro hnewest
    have hrecords := hentitiesIff.mpr ⟨hnewest.entities, hnewest.entitiesTold⟩
    have hrecords' := hrelationsIff.mpr ⟨hnewest.relations, hnewest.relationsTold⟩
    refine ⟨?_, ?_, hrecords, hrecords'⟩
    · rw [hmade.entityIds]
      exact ids_of_records (readEntityRow_id host.toHost) hrecords
    · rw [hmade.relationIds]
      refine ids_of_records (fun r => ?_) hrecords'
      rw [readRelationRow_id]

end Agree

theorem appendSection_extends (text heading : Text) (lines : List Text) :
    text <+: appendSection text heading lines := by
  unfold appendSection
  split
  · exact List.prefix_rfl
  · rw [List.append_assoc, List.append_assoc]
    exact List.prefix_append _ _

theorem withPayloads_memoryText_extends (payloads : List MemoryPayloadRef)
    (pkg : MemoryContextPackage) : pkg.memoryText <+: (withPayloads payloads pkg).memoryText := by
  unfold withPayloads
  split
  · exact List.prefix_rfl
  · exact appendSection_extends _ _ _

/-- With a query, the hits of the search are rendered, and the records beside them agree with
the rows of these hits just when all of them are among the newest records of their kinds and told
from the others by their ids. -/
theorem buildContext_records_iff (host : ContextHost) (builder : ContextBuilder)
    (request : MemoryContextRequest) (c : Connection) (hlongTerm : builder.longTermStore = true)
    (hsearch : builder.searchStore = true)
    (hinclude : shouldInclude request ContextSections.longTerm = true)
    (hlimit : 0 < longTermMemoryLimit builder request) (hquery : request.query ≠ [])
    (hok : (buildContext host builder request c).1.succeeded = true) :
    formatSearchResults (contextHits host builder request c) <+:
        (buildContext host builder request c).1.context.memoryText ∧
      (∃ entityRows relationRows, HitsMadeFrom host.toQueryHost request.agentId c.current
        (contextHits host builder request c) entityRows relationRows) ∧
      ∀ entityRows relationRows, HitsMadeFrom host.toQueryHost request.agentId c.current
          (contextHits host builder request c) entityRows relationRows →
        (RecordsAgree host.toHost (buildContext host builder request c).1.context
            (contextHits host builder request c) entityRows relationRows ↔
          HitsAreNewest host.toQueryHost request.agentId
            (longTermMemoryLimit builder request).toNat c.current
            (contextHits host builder request c) entityRows relationRows) := by
  rcases buildContext_cases host builder request c with ⟨hfailed, -⟩ | ⟨-, hbuilt⟩
  · rw [hfailed] at hok
    cases hok
  · obtain ⟨hfound, hselected⟩ :=
      contextLongTerm_of_query hlongTerm hsearch hinclude hlimit hquery hbuilt.longTerm
    have hnames := searchLongTermMemory_namesRelation hfound
    have hcurrent := contextMessages_current host.toQueryHost builder request c
    have hmade := exists_hitsMadeFrom (searchLongTermMemory_madeFromRow hfound)
    rw [hcurrent] at hmade
    have hpackage : packageWithoutPayloads host builder request c =
        contextPackage host.streamFloat builder request
          (contextMessages host.toHost builder request c).1.events {
            searchResults := contextHits host builder request c
            usedSearch := true
            snapshot := namedRecords (contextHits host builder request c)
              (snapshotOf host.toQueryHost request.agentId request.sessionId
                (longTermMemoryLimit builder request).toNat c.current) } := by
      unfold packageWithoutPayloads
      dsimp only
      rw [hselected, hcurrent]
      rfl
    have htext : (packageWithoutPayloads host builder request c).memoryText =
        formatSearchResults (contextHits host builder request c) := by
      rw [hpackage]
      rfl
    have hentities : (packageWithoutPayloads host builder request c).entities =
        (namedRecords (contextHits host builder request c)
          (snapshotOf host.toQueryHost request.agentId request.sessionId
            (longTermMemoryLimit builder request).toNat c.current)).entities := by
      rw [hpackage]
      rfl
    have hrelations : (packageWithoutPayloads host builder request c).relations =
        (namedRecords (contextHits host builder request c)
          (snapshotOf host.toQueryHost request.agentId request.sessionId
            (longTermMemoryLimit builder request).toNat c.current)).relations := by
      rw [hpackage]
      rfl
    rcases hbuilt.payloads with hpkg | ⟨c', hpkg⟩
    · rw [hpkg, ← htext]
      exact ⟨List.prefix_rfl, hmade, fun _ _ hrows =>
        recordsAgree_iff hnames hrows hentities hrelations⟩
    · rw [hpkg, ← htext]
      exact ⟨withPayloads_memoryText_extends _ _, hmade, fun _ _ hrows =>
        recordsAgree_iff hnames hrows ((withPayloads_entities _ _).trans hentities)
          ((withPayloads_relations _ _).trans hrelations)⟩

/-! ### Two entities and room for one -/

section TwoEntities

def entityNamed (id name updatedAt : Text) : EntityRow where
  id := bindText id
  agentId := bindText (ascii "alice")
  entityType := bindText (ascii "topic")
  name := bindText name
  summary := bindText []
  confidence := 1 / 2
  sourceRefsJson := bindText (ascii "[]")
  metadataJson := bindText (ascii "\x7b\x7d")
  active := true
  supersededBy := none
  createdAt := ascii "2024-01-01 00:00:00"
  updatedAt := updatedAt

/-- The entities `e1`, named `tea`, and `e2`, named `code`. -/
def twoEntities (updatedAt₁ updatedAt₂ : Text) : Connection where
  current := { Database.empty with
    entities := {
      table := {
        rows := [(1, entityNamed (ascii "e1") (ascii "tea") updatedAt₁),
          (2, entityNamed (ascii "e2") (ascii "code") updatedAt₂)]
        sorted := by simp
        positive := by simp }
      index := {
        entries := [(1, (bindText (ascii "topic"), bindText (ascii "tea"), bindText [])),
          (2, (bindText (ascii "topic"), bindText (ascii "code"), bindText []))]
        intact := true } } }
  saved := none
  clock := 0

/-- A host that refuses no statement and finds `tea` in the first entity. -/
def ContextHost.findingTea : ContextHost where
  toQueryHost := Host.obliging.sorting
    (fun table ftsQuery _ rowid =>
      if table = .entities ∧ ftsQuery = ascii "tea" ∧ rowid = 1 then some (-1) else none)
    (fun _ _ => false) fun _ => .empty
  streamFloat _ := []

def teaRequest : MemoryContextRequest where
  agentId := ascii "alice"
  query := ascii "tea"
  includeSections := [ascii "long_term"]
  metadata := .object [(ascii "long_term_limit", .integer 1)]

/-- A search that finds `e1` and no relation was made from its row. -/
theorem hitsMadeFrom_tea {updatedAt₁ updatedAt₂ : Text} {hits : List MemorySearchHit}
    (h : ∃ entityRows relationRows, HitsMadeFrom ContextHost.findingTea.toQueryHost
      teaRequest.agentId (twoEntities updatedAt₁ updatedAt₂).current hits entityRows relationRows)
    (hentity : hitIds "entity" hits = [ascii "e1"]) (hrelation : hitIds "relation" hits = []) :
    HitsMadeFrom ContextHost.findingTea.toQueryHost teaRequest.agentId
      (twoEntities updatedAt₁ updatedAt₂).current hits
      [(1, entityNamed (ascii "e1") (ascii "tea") updatedAt₁)] [] := by
  obtain ⟨entityRows, relationRows, hmade⟩ := h
  have hids := hmade.entityIds
  have hrelations := hmade.relationIds
  rw [hentity] at hids
  rw [hrelation, eq_comm, List.map_eq_nil_iff] at hrelations
  obtain ⟨r, hr, hid⟩ := List.map_eq_singleton_iff.mp hids.symm
  subst hr hrelations
  have hactive : r ∈ activeEntities teaRequest.agentId
      (twoEntities updatedAt₁ updatedAt₂).current := by
    cases hhits : hitsOfType "entity" hits with
    | nil => simpa [hhits] using hmade.entities
    | cons hit rest =>
      have hrows := hmade.entities
      rw [hhits] at hrows
      cases hrows with
      | cons hfirst _ => exact hfirst.active
  have hrow : r = (1, entityNamed (ascii "e1") (ascii "tea") updatedAt₁) := by
    rcases List.mem_cons.mp (List.mem_of_mem_filter hactive) with rfl | hrest
    · rfl
    · rw [List.mem_singleton.mp hrest] at hid
      exact absurd hid (by decide : columnText (bindText (ascii "e2")) ≠ ascii "e1")
  rw [← hrow]
  exact hmade

/-- The hit is the entity that was updated last. -/
theorem buildContext_records_newest :
    let c := twoEntities (ascii "2024-01-02 00:00:00") (ascii "2024-01-01 00:00:00")
    RecordsAgree Host.obliging (buildContext .findingTea {} teaRequest c).1.context
      (contextHits .findingTea {} teaRequest c)
      [(1, entityNamed (ascii "e1") (ascii "tea") (ascii "2024-01-02 00:00:00"))] [] := by
  intro c
  obtain ⟨-, hexists, hiff⟩ := buildContext_records_iff .findingTea {} teaRequest c rfl rfl
    (by decide +kernel) (by decide +kernel) (by decide +kernel) (by decide +kernel)
  have hmade := hitsMadeFrom_tea hexists (by decide +kernel) (by decide +kernel)
  have hnewest : (1, entityNamed (ascii "e1") (ascii "tea") (ascii "2024-01-02 00:00:00")) ∈
      ContextHost.findingTea.entityOrder.top (longTermMemoryLimit {} teaRequest).toNat
        (activeEntities teaRequest.agentId c.current) := by
    decide +kernel
  have honly : ∀ r ∈ ContextHost.findingTea.entityOrder.top
      (longTermMemoryLimit {} teaRequest).toNat (activeEntities teaRequest.agentId c.current),
      r = (1, entityNamed (ascii "e1") (ascii "tea") (ascii "2024-01-02 00:00:00")) := by
    decide +kernel
  refine (hiff _ _ hmade).mpr {
    entities := ?_, relations := by simp, entitiesTold := ?_, relationsTold := ?_ }
  · intro r hr
    rw [List.mem_singleton.mp hr]
    exact List.mem_map_of_mem hnewest
  · intro r hr _
    rw [honly r hr]
    exact List.mem_map_of_mem List.mem_cons_self
  · intro r hr
    have hnone : r ∈ activeRelations teaRequest.agentId c.current := Arrangement.mem_of_mem_top hr
    cases hnone

/-- The hit was updated first, and its record is missing. -/
theorem buildContext_record_missing :
    ∃ (builder : ContextBuilder) (request : MemoryContextRequest) (c : Connection)
      (entityRows : List (Rowid × EntityRow)),
      builder.longTermStore = true ∧ builder.searchStore = true ∧
      shouldInclude request ContextSections.longTerm = true ∧
      0 < longTermMemoryLimit builder request ∧ request.query ≠ [] ∧
      (buildContext .findingTea builder request c).1.succeeded = true ∧
      HitsMadeFrom ContextHost.findingTea.toQueryHost request.agentId c.current
        (contextHits .findingTea builder request c) entityRows [] ∧
      ¬RecordsAgree Host.obliging (buildContext .findingTea builder request c).1.context
        (contextHits .findingTea builder request c) entityRows [] := by
  have hmade := @hitsMadeFrom_tea _ _ (contextHits .findingTea {} teaRequest
      (twoEntities (ascii "2024-01-01 00:00:00") (ascii "2024-01-02 00:00:00")))
    (exists_hitsMadeFrom (searchLongTermMemory_madeFromRow (by decide +kernel)))
    (by decide +kernel) (by decide +kernel)
  refine ⟨{}, teaRequest,
    twoEntities (ascii "2024-01-01 00:00:00") (ascii "2024-01-02 00:00:00"), _, rfl, rfl,
    by decide +kernel, by decide +kernel, by decide +kernel, by decide +kernel, hmade,
    fun hagree => ?_⟩
  have hentity := (hagree.entities _).mpr List.mem_cons_self
  have hnone : (buildContext .findingTea {} teaRequest (twoEntities (ascii "2024-01-01 00:00:00")
      (ascii "2024-01-02 00:00:00"))).1.context.entities.length = 0 := by
    decide +kernel
  exact absurd (List.length_pos_of_mem hentity) (by omega)

end TwoEntities

end AgentMemory
