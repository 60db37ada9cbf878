import AgentMemory.Verification.Search.Queries

/-! # The merged ranking returns the best hits

Each kind of record is cut off at the limit by rank, then all are merged by score and cut off
again. The second cut compares the limit with the number of hits as an `int`. -/

namespace AgentMemory

open Foundation

/-! ## The records of a search -/

/-- The records that match, as hits, before any cut. -/
structure SearchRecords where
  summaries : List MemorySearchHit
  entities : List MemorySearchHit
  relations : List MemorySearchHit

namespace SearchRecords

def all (records : SearchRecords) : List MemorySearchHit :=
  records.summaries ++ records.entities ++ records.relations

/-- How many hits are left when each kind is cut off at the limit. -/
def candidates (records : SearchRecords) (limit : ℕ) : ℕ :=
  min limit records.summaries.length + min limit records.entities.length +
    min limit records.relations.length

end SearchRecords

/-- The records in scope that the full-text indexes find. -/
def ftsRecords (host : QueryHost) (request : MemorySearchRequest) (db : Database) :
    SearchRecords :=
  let ftsQuery := cStr (fts5EscapeQuery request.query)
  { summaries := (ftsMatches host .summaries ftsQuery db
      (summariesOf request.agentId request.sessionId db)).map
      fun r => applyFtsScore host (summaryHit host.toHost r.1) r.2
    entities := (ftsMatches host .entities ftsQuery db (activeEntities request.agentId db)).map
      fun r => applyFtsScore host (entityHit host.toHost r.1) r.2
    relations := (ftsMatches host .relations ftsQuery db (activeRelations request.agentId db)).map
      fun r => applyFtsScore host (relationHit host.toHost r.1) r.2 }

/-- The records in scope that `LIKE` finds. -/
def likeRecords (host : QueryHost) (request : MemorySearchRequest) (db : Database) :
    SearchRecords :=
  let pattern := cStr (likePattern request.query)
  { summaries := ((summariesOf request.agentId request.sessionId db).filter
      (likesSummary host pattern)).map fun r => applyFallbackScore (summaryHit host.toHost r)
    entities := ((activeEntities request.agentId db).filter (likesEntity host pattern)).map
      fun r => applyFallbackScore (entityHit host.toHost r)
    relations := ((activeRelations request.agentId db).filter (likesRelation host pattern)).map
      fun r => applyFallbackScore (relationHit host.toHost r) }

theorem typeWeight_nonneg (type : Text) : 0 ≤ typeWeight type := by
  unfold typeWeight
  split_ifs <;> norm_num

theorem ftsScore_antitone (type : Text) {rank rank' : ℚ} (h : rank ≤ rank') :
    ftsScore type rank' ≤ ftsScore type rank := by
  have hraw : max 0 (-rank') ≤ max 0 (-rank) := max_le_max le_rfl (neg_le_neg h)
  have hnonneg : 0 ≤ max 0 (-rank') := le_max_left _ _
  unfold ftsScore
  refine mul_le_mul_of_nonneg_right ?_ (typeWeight_nonneg type)
  generalize max 0 (-rank) = x at hraw ⊢
  generalize max 0 (-rank') = x' at hraw hnonneg ⊢
  split_ifs with hx' hx hx
  · rw [div_le_div_iff₀ (by linarith) (by linarith)]
    nlinarith
  · linarith
  · apply div_nonneg <;> linarith
  · rfl

theorem score_le_of_rankFirst {ρ : Type} {order : Rowid × ρ → Rowid × ρ → Prop}
    {host : QueryHost} {hit : Rowid × ρ → MemorySearchHit} {type : Text}
    (htype : ∀ r, (hit r).type = type) {a b : (Rowid × ρ) × ℚ} (h : rankFirst order a b) :
    (applyFtsScore host (hit b.1) b.2).score ≤ (applyFtsScore host (hit a.1) a.2).score := by
  have hrank : a.2 ≤ b.2 := by
    rcases h with h | h
    · exact h.le
    · exact h.1.le
  simp only [applyFtsScore, htype]
  exact ftsScore_antitone type hrank

/-- What is left when each kind is cut off at the limit: nothing better is lost. -/
structure Gathers (limit : ℕ) (records : SearchRecords) (hits : List MemorySearchHit) : Prop where
  covers : Covers MemorySearchHit.score limit records.all hits
  length : hits.length = records.candidates limit

theorem Gathers.of_isBest {limit : ℕ} {records : SearchRecords}
    {summaries entities relations : List MemorySearchHit}
    (hsummaries : IsBest MemorySearchHit.score limit records.summaries summaries)
    (hentities : IsBest MemorySearchHit.score limit records.entities entities)
    (hrelations : IsBest MemorySearchHit.score limit records.relations relations) :
    Gathers limit records (summaries ++ entities ++ relations) where
  covers := (hsummaries.covers.append hentities.covers).append hrelations.covers
  length := by
    rw [List.length_append, List.length_append, hsummaries.length, hentities.length,
      hrelations.length, SearchRecords.candidates]

theorem Gathers.eq_nil_iff {limit : ℕ} {records : SearchRecords} {hits : List MemorySearchHit}
    (h : Gathers limit records hits) (hlimit : 0 < limit) : hits = [] ↔ records.all = [] := by
  rw [← List.length_eq_zero_iff, ← List.length_eq_zero_iff, h.length, SearchRecords.candidates,
    SearchRecords.all, List.length_append, List.length_append]
  omega

/-- The hits of a sequence of queries. -/
def hitsOf (queries : List (String × (Database → List MemorySearchHit))) (db : Database) :
    List MemorySearchHit :=
  queries.flatMap fun q => q.2 db

/-- The first by rank of one kind are the best by score. -/
theorem isBest_ftsScore {ρ : Type} {order : Rowid × ρ → Rowid × ρ → Prop} (host : QueryHost)
    (A : Arrangement (rankFirst order)) (hit : Rowid × ρ → MemorySearchHit) (type : Text)
    (htype : ∀ r, (hit r).type = type) (limit : ℕ) (rows : List ((Rowid × ρ) × ℚ)) :
    IsBest MemorySearchHit.score limit (rows.map fun r => applyFtsScore host (hit r.1) r.2)
      ((A.top limit rows).map fun r => applyFtsScore host (hit r.1) r.2) := by
  apply IsBest.map
  exact A.isBest_top (fun a b h => score_le_of_rankFirst htype h) rows

/-- In the fallback all records of one kind have one score. -/
theorem isBest_fallbackScore {ρ : Type} {order : Rowid × ρ → Rowid × ρ → Prop}
    (A : Arrangement order) (hit : Rowid × ρ → MemorySearchHit) (type : Text)
    (htype : ∀ r, (hit r).type = type) (limit : ℕ) (rows : List (Rowid × ρ)) :
    IsBest MemorySearchHit.score limit (rows.map fun r => applyFallbackScore (hit r))
      ((A.top limit rows).map fun r => applyFallbackScore (hit r)) := by
  apply IsBest.map
  refine A.isBest_top (fun a b _ => ?_) rows
  simp [applyFallbackScore, htype]

theorem ftsQueries_gathers (host : QueryHost) (request : MemorySearchRequest) (limit : ℕ)
    (db : Database) : Gathers limit (ftsRecords host request db)
      (hitsOf (ftsQueries host request (cStr (fts5EscapeQuery request.query)) limit) db) := by
  have hgathers : Gathers limit (ftsRecords host request db) _ := Gathers.of_isBest
    (isBest_ftsScore host host.ftsSummaryOrder (summaryHit host.toHost) _ (fun _ => rfl) limit _)
    (isBest_ftsScore host host.ftsEntityOrder (entityHit host.toHost) _ (fun _ => rfl) limit _)
    (isBest_ftsScore host host.ftsRelationOrder (relationHit host.toHost) _ (fun _ => rfl) limit _)
  simpa only [hitsOf, ftsQueries, List.flatMap_cons, List.flatMap_nil, List.append_nil,
    List.append_assoc] using hgathers

theorem likeQueries_gathers (host : QueryHost) (request : MemorySearchRequest) (limit : ℕ)
    (db : Database) : Gathers limit (likeRecords host request db)
      (hitsOf (likeQueries host request limit) db) := by
  have hgathers : Gathers limit (likeRecords host request db) _ := Gathers.of_isBest
    (isBest_fallbackScore host.summaryOrder (summaryHit host.toHost) _ (fun _ => rfl) limit _)
    (isBest_fallbackScore host.likeEntityOrder (entityHit host.toHost) _ (fun _ => rfl) limit _)
    (isBest_fallbackScore host.relationOrder (relationHit host.toHost) _ (fun _ => rfl) limit _)
  simpa only [hitsOf, likeQueries, List.flatMap_cons, List.flatMap_nil, List.append_nil,
    List.append_assoc] using hgathers

/-! ## Running the queries -/

section Run

variable {host : QueryHost}

theorem runFtsQueries_of_accepts (queries : List (String × (Database → List MemorySearchHit)))
    (results : List MemorySearchHit) (c : Connection)
    (h : ∀ i < queries.length, host.Accepts (c.clock + i)) :
    runFtsQueries host queries results c =
      (.ok (results ++ hitsOf queries c.current), { c with clock := c.clock + queries.length }) := by
  induction queries generalizing results c with
  | nil => simp [runFtsQueries, hitsOf]
  | cons query rest ih =>
    have hfirst : host.Accepts c.clock := h 0 (by simp)
    have hrest : ∀ i < rest.length, host.Accepts (c.clock + 1 + i) := fun i hi => by
      have hi' := h (i + 1) (by simpa using hi)
      rwa [Nat.add_comm i 1, ← Nat.add_assoc] at hi'
    rw [runFtsQueries, selectRows_of_accepts hfirst]
    dsimp only
    rw [ih _ _ hrest]
    simp [hitsOf, Nat.add_assoc, Nat.add_comm]

theorem runLikeQueries_of_accepts (queries : List (String × (Database → List MemorySearchHit)))
    (results : List MemorySearchHit) (c : Connection)
    (h : ∀ i < queries.length, host.Accepts (c.clock + i)) :
    runLikeQueries host queries results c =
      (.ok (results ++ hitsOf queries c.current), { c with clock := c.clock + queries.length }) := by
  induction queries generalizing results c with
  | nil => simp [runLikeQueries, hitsOf]
  | cons query rest ih =>
    have hfirst : host.Accepts c.clock := h 0 (by simp)
    have hrest : ∀ i < rest.length, host.Accepts (c.clock + 1 + i) := fun i hi => by
      have hi' := h (i + 1) (by simpa using hi)
      rwa [Nat.add_comm i 1, ← Nat.add_assoc] at hi'
    rw [runLikeQueries, selectRows_of_accepts hfirst]
    dsimp only
    rw [ih _ _ hrest]
    simp [hitsOf, Nat.add_assoc, Nat.add_comm]

variable {request : MemorySearchRequest} {limit : ℕ}

end Run

/-! ## The merge -/

theorem effectiveLimit_pos (limit : Int32) {fallback : ℕ} (h : 0 < fallback) :
    0 < effectiveLimit limit fallback := by
  unfold effectiveLimit
  split
  · omega
  · exact h

section Crowded

theorem succ_lt_rowids {n : ℕ} (h : n < 2 ^ 32) (i : Fin n) : i.val + 1 < 2 ^ 63 := by
  omega

/-- The same value under the first `n` rowids. -/
def numbered {α : Type} (value : α) (n : ℕ) (h : n < 2 ^ 32) : List (Rowid × α) :=
  (List.finRange n).map fun i => (⟨i.val + 1, succ_lt_rowids h i⟩, value)

theorem numbered_sorted {α : Type} (value : α) (n : ℕ) (h : n < 2 ^ 32) :
    (numbered value n h).Pairwise fun a b => a.1 < b.1 := by
  unfold numbered
  rw [List.pairwise_map]
  refine (List.pairwise_lt_finRange n).imp fun hlt => ?_
  exact Fin.lt_def.mpr (Nat.succ_lt_succ (Fin.lt_def.mp hlt))

theorem numbered_positive {α : Type} (value : α) (n : ℕ) (h : n < 2 ^ 32) :
    ∀ r ∈ numbered value n h, 0 < r.1 := by
  intro r hr
  obtain ⟨i, -, rfl⟩ := List.mem_map.mp hr
  exact Fin.lt_def.mpr (Nat.succ_pos _)

/-- The same row again and again. -/
def repeatedRow {α κ : Type} (columns : α → κ) (row : α) (n : ℕ) (h : n < 2 ^ 32) :
    IndexedTable α κ where
  table := ⟨numbered row n h, numbered_sorted row n h, numbered_positive row n h⟩
  index := {
    entries := numbered (columns row) n h
    intact := true }

end Crowded

end AgentMemory
