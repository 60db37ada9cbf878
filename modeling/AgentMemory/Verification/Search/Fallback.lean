import AgentMemory.Verification.Search.Characters

/-! # The fallback of a search is a search for a literal

A query without full-text hits gives the records that contain it. -/

namespace AgentMemory

open Foundation

/-! ## Containment -/

/-- The characters of `q` occur in `t`, up to ASCII case. -/
def ContainsLiteral (q t : Text) : Prop :=
  (characters q).map foldCase <:+: (characters t).map foldCase

instance (q t : Text) : Decidable (ContainsLiteral q t) :=
  inferInstanceAs (Decidable (_ <:+: _))

/-- The records in scope that contain the query in a searched column. -/
def literalRecords (host : Host) (request : MemorySearchRequest) (db : Database) :
    SearchRecords :=
  let contains (t : SqlText) : Bool := ContainsLiteral request.query (columnText t)
  { summaries := ((summariesOf request.agentId request.sessionId db).filter fun r =>
      contains r.2.topic || contains r.2.summary).map
      fun r => applyFallbackScore (summaryHit host r)
    entities := ((activeEntities request.agentId db).filter fun r =>
      contains r.2.id || contains r.2.entityType || contains r.2.name || contains r.2.summary).map
      fun r => applyFallbackScore (entityHit host r)
    relations := ((activeRelations request.agentId db).filter fun r =>
      contains r.2.fromEntity || contains r.2.relation || contains r.2.toEntity).map
      fun r => applyFallbackScore (relationHit host r) }

/-- The queries of the fallback compare with `likeFunc`. -/
def QueryHost.UsesLike (host : QueryHost) : Prop :=
  ∀ zB zA result, likeFunc zB (columnText zA) = .ok result → host.like zB zA = result

/-- No record in scope matches the full-text query, if one is made. -/
def NoFtsHit (host : QueryHost) (request : MemorySearchRequest) (c : Connection) : Prop :=
  fts5EscapeQuery request.query ≠ [] → (ftsRecords host request c.current).all = []

/-- A query that `LIKE` accepts. -/
structure LikeQuery (q : Text) : Prop where
  noNul : 0 ∉ q
  length : (likePattern q).length ≤ maxLikePatternLength

theorem likeFunc_likePattern {q : Text} (hq : LikeQuery q) (t : Text) :
    likeFunc (likePattern q) t = .ok (ContainsLiteral q t : Bool) := by
  rw [likeFunc, if_neg (Nat.not_lt.mpr hq.length)]
  refine congrArg Except.ok ?_
  rw [Bool.eq_iff_iff, beq_iff_eq, decide_eq_true_eq, patternCompare_likePattern hq.noNul]
  rfl

/-- In encoded texts a literal is a substring. -/
theorem containsLiteral_iff {q t : Text} {qs ts : List ℕ} (hq : IsUtf8 q qs) (ht : IsUtf8 t ts) :
    ContainsLiteral q t ↔ toLower q <:+: toLower t := by
  rw [ContainsLiteral, hq.characters_eq, ht.characters_eq, hq.infix_toLower_iff ht]

theorem cStr_likePattern {q : Text} (hq : 0 ∉ q) : cStr (likePattern q) = likePattern q := by
  refine cStr_eq_self fun h => ?_
  simp only [likePattern, escapeLikePattern, List.mem_append, List.mem_flatMap] at h
  rcases h with (h | ⟨b, hb, h⟩) | h
  · exact absurd h (by decide)
  · split at h
    · next hspecial =>
      simp only [List.mem_cons, List.not_mem_nil, or_false] at h
      rcases h with h | h
      · cases h
      · exact hq (h ▸ hb)
    · exact hq (List.mem_singleton.mp h ▸ hb)
  · exact absurd h (by decide)

/-- The fallback selects the records that contain the query. -/
theorem likeRecords_eq {host : QueryHost} (hlike : host.UsesLike) {request : MemorySearchRequest}
    (hq : LikeQuery request.query) (db : Database) :
    likeRecords host request db = literalRecords host.toHost request db := by
  have hcontains : ∀ t, host.like (likePattern request.query) t =
      (ContainsLiteral request.query (columnText t) : Bool) :=
    fun t => hlike _ _ _ (likeFunc_likePattern hq (columnText t))
  have hsummary : likesSummary host (likePattern request.query) = _ :=
    funext fun r => by rw [likesSummary, hcontains, hcontains]
  have hentity : likesEntity host (likePattern request.query) = _ :=
    funext fun r => by rw [likesEntity, hcontains, hcontains, hcontains, hcontains]
  have hrelation : likesRelation host (likePattern request.query) = _ :=
    funext fun r => by rw [likesRelation, hcontains, hcontains, hcontains]
  rw [likeRecords, cStr_likePattern hq.noNul, hsummary, hentity, hrelation]
  rfl

/-! ## The queries, whether or not they succeed -/

section Run

variable {host : QueryHost}

/-- Full-text queries that find nothing leave no hit. -/
theorem runFtsQueries_of_nil (queries : List (String × (Database → List MemorySearchHit)))
    (c : Connection) (h : ∀ query ∈ queries, query.2 c.current = []) :
    ∃ c', c'.current = c.current ∧ (runFtsQueries host queries [] c = (.ok [], c') ∨
      ∃ error, runFtsQueries host queries [] c = (.error ([], error), c')) := by
  induction queries generalizing c with
  | nil => exact ⟨c, rfl, .inl rfl⟩
  | cons query rest ih =>
    rw [runFtsQueries]
    rcases selectRows_cases host.toHost query.2 c with ⟨-, hrun⟩ | ⟨-, hrun⟩
    · rw [hrun, h query List.mem_cons_self]
      exact ih { c with clock := c.clock + 1 } fun q hq => h q (List.mem_cons_of_mem query hq)
    · rw [hrun]
      refine ⟨{ c with clock := c.clock + 1 }, rfl, ?_⟩
      cases (host.outcome c.clock).atPrepare with
      | true => exact .inr ⟨_, rfl⟩
      | false => exact .inl rfl

/-- The fallback finds all hits, or those of the queries before the one that fails. -/
theorem runLikeQueries_cases (queries : List (String × (Database → List MemorySearchHit)))
    (results : List MemorySearchHit) (c : Connection) :
    ∃ c', runLikeQueries host queries results c = (.ok (results ++ hitsOf queries c.current), c') ∨
      ∃ found error, found <+: hitsOf queries c.current ∧
        runLikeQueries host queries results c = (.error (results ++ found, error), c') := by
  induction queries generalizing results c with
  | nil => exact ⟨c, .inl (by simp [runLikeQueries, hitsOf])⟩
  | cons query rest ih =>
    rw [runLikeQueries]
    rcases selectRows_cases host.toHost query.2 c with ⟨-, hrun⟩ | ⟨-, hrun⟩
    · obtain ⟨c', hok | ⟨found, error, hfound, herror⟩⟩ :=
        ih (results ++ query.2 c.current) { c with clock := c.clock + 1 }
      · refine ⟨c', .inl ?_⟩
        rw [hrun]
        dsimp only
        rw [hok, List.append_assoc]
        rfl
      · refine ⟨c', .inr ⟨query.2 c.current ++ found, error, ?_, ?_⟩⟩
        · exact (List.prefix_append_right_inj _).mpr hfound
        · rw [hrun]
          dsimp only
          rw [herror, List.append_assoc]
    · rw [hrun]
      refine ⟨{ c with clock := c.clock + 1 }, .inr ⟨[], ?_⟩⟩
      rw [List.append_nil]
      exact ⟨_, List.nil_prefix, rfl⟩

variable {request : MemorySearchRequest} {limit : ℕ}

/-- Without full-text hits a search ends with those of the fallback, or with a failure. -/
theorem findHits_of_noFtsHit {c : Connection} (hfts : NoFtsHit host request c)
    (hlimit : 0 < limit) :
    ∃ c', findHits host request limit c =
        (.ok (hitsOf (likeQueries host request limit) c.current), c') ∨
      ∃ found error, found ⊆ hitsOf (likeQueries host request limit) c.current ∧
        findHits host request limit c = (.error (found, error), c') := by
  have hfallback : ∀ c₁, c₁.current = c.current → ∃ c',
      runLikeQueries host (likeQueries host request limit) [] c₁ =
        (.ok (hitsOf (likeQueries host request limit) c.current), c') ∨
      ∃ found error, found ⊆ hitsOf (likeQueries host request limit) c.current ∧
        runLikeQueries host (likeQueries host request limit) [] c₁ =
          (.error (found, error), c') := by
    intro c₁ hc₁
    obtain ⟨c', hok | ⟨found, error, hfound, herror⟩⟩ :=
      @runLikeQueries_cases host (likeQueries host request limit) [] c₁
    · exact ⟨c', .inl (by rwa [List.nil_append, hc₁] at hok)⟩
    · rw [hc₁] at hfound
      exact ⟨c', .inr ⟨found, error, hfound.subset, herror⟩⟩
  by_cases hquery : fts5EscapeQuery request.query = []
  · simpa [findHits, hquery] using hfallback c rfl
  · have hnone := ((ftsQueries_gathers host request limit c.current).eq_nil_iff hlimit).mpr
      (hfts hquery)
    obtain ⟨c₁, hc₁, hok | ⟨error, herror⟩⟩ := @runFtsQueries_of_nil host
      (ftsQueries host request (cStr (fts5EscapeQuery request.query)) limit) c
      (List.flatMap_eq_nil_iff.mp hnone)
    · simpa [findHits, hquery, hok] using hfallback c₁ hc₁
    · exact ⟨c₁, .inr ⟨[], error, List.nil_subset _, by simp [findHits, hquery, herror]⟩⟩

theorem mem_sortAndLimitSearchResults {hits : List MemorySearchHit} {hit : MemorySearchHit}
    (h : hit ∈ sortAndLimitSearchResults host hits limit) : hit ∈ hits := by
  unfold sortAndLimitSearchResults at h
  dsimp only at h
  split at h
  · exact (host.hitOrder.perm hits).mem_iff.mp (List.mem_of_mem_take h)
  · exact (host.hitOrder.perm hits).mem_iff.mp h

theorem sortAndLimitSearchResults_ne_nil {hits : List MemorySearchHit} (hhits : hits ≠ []) :
    sortAndLimitSearchResults host hits limit ≠ [] := by
  have harranged : host.hitOrder.arrange hits ≠ [] := fun h =>
    hhits (h ▸ host.hitOrder.perm hits).nil_eq.symm
  unfold sortAndLimitSearchResults
  dsimp only
  split
  · next hcut => simp [List.take_eq_nil_iff, harranged, hcut.1.ne']
  · exact harranged

end Run

/-! ## The hits of the fallback -/

theorem mem_likeRecords_of_mem_hitsOf {host : QueryHost} {request : MemorySearchRequest}
    {limit : ℕ} {db : Database} {hit : MemorySearchHit}
    (h : hit ∈ hitsOf (likeQueries host request limit) db) :
    hit ∈ (likeRecords host request db).all := by
  obtain ⟨omitted, hperm, -⟩ := (likeQueries_gathers host request limit db).covers
  exact hperm.mem_iff.mp (List.mem_append_left omitted h)

/-- What a search returns when the literal decides. -/
structure FindsLiteral (host : QueryHost) (request : MemorySearchRequest) (c : Connection) :
    Prop where
  sound : ∀ hit ∈ (searchLongTermMemory host request c).1.results,
    hit ∈ (literalRecords host.toHost request c.current).all
  complete : (searchLongTermMemory host request c).1.succeeded = true →
    (literalRecords host.toHost request c.current).all ≠ [] →
    (searchLongTermMemory host request c).1.results ≠ []

theorem searchLongTermMemory_findsLiteral {host : QueryHost} (hlike : host.UsesLike)
    {request : MemorySearchRequest} {c : Connection} (hne : request.query ≠ [])
    (hq : LikeQuery request.query) (hfts : NoFtsHit host request c) :
    FindsLiteral host request c := by
  have hlimit : 0 < effectiveLimit request.limit 10 := effectiveLimit_pos _ (by decide)
  have hrecords := likeRecords_eq hlike hq c.current
  have hgathers := likeQueries_gathers host request (effectiveLimit request.limit 10) c.current
  obtain ⟨c', hok | ⟨found, error, hfound, herror⟩⟩ := findHits_of_noFtsHit hfts hlimit
  · have hrun : (searchLongTermMemory host request c).1 = {
        succeeded := true
        results := sortAndLimitSearchResults host
          (hitsOf (likeQueries host request (effectiveLimit request.limit 10)) c.current)
          (effectiveLimit request.limit 10) } := by
      simp [searchLongTermMemory, hne, hok]
    refine ⟨fun hit hhit => ?_, fun _ hsome => ?_⟩
    · rw [hrun] at hhit
      rw [← hrecords]
      exact mem_likeRecords_of_mem_hitsOf (mem_sortAndLimitSearchResults hhit)
    · rw [hrun]
      refine sortAndLimitSearchResults_ne_nil fun hnil => hsome ?_
      rw [← hrecords]
      exact (hgathers.eq_nil_iff hlimit).mp hnil
  · have hrun : (searchLongTermMemory host request c).1 = { results := found, error } := by
      simp [searchLongTermMemory, hne, herror]
    refine ⟨fun hit hhit => ?_, fun hsucceeded => ?_⟩
    · rw [hrun] at hhit
      rw [← hrecords]
      exact mem_likeRecords_of_mem_hitsOf (hfound hhit)
    · rw [hrun] at hsucceeded
      cases hsucceeded

/-- The fallback is a search for a literal: `LIKE` with the escaped query holds of the texts that
contain its characters, which are substrings in encoded texts, and so a search without full-text
hits returns records that contain the query, and some if there are any. -/
theorem searchLongTermMemory_literal {host : QueryHost} (hlike : host.UsesLike) :
    (∀ q t, LikeQuery q → likeFunc (likePattern q) t = .ok (ContainsLiteral q t : Bool)) ∧
    (∀ q t qs ts, IsUtf8 q qs → IsUtf8 t ts →
      (ContainsLiteral q t ↔ toLower q <:+: toLower t)) ∧
    ∀ request c, request.query ≠ [] → LikeQuery request.query → NoFtsHit host request c →
      FindsLiteral host request c :=
  ⟨fun _ t hq => likeFunc_likePattern hq t, fun _ _ _ _ => containsLiteral_iff,
    fun _ _ => searchLongTermMemory_findsLiteral hlike⟩

/-! ### A percent sign -/

section Percent

def percentSummary : SummaryRow where
  agentId := bindText (ascii "agent-1")
  sessionId := bindText (ascii "session-1")
  level := bindText (ascii "topic")
  topic := bindText (ascii "literal_percent")
  summary := bindText (ascii "contains 100% marker")
  confidence := 4 / 5
  sourceRefsJson := bindText (ascii "[\"event://percent\"]")
  createdAt := ascii "2024-01-01 00:00:00"
  updatedAt := ascii "2024-01-01 00:00:00"

theorem one_lt_rowids : 1 < 2 ^ 32 := by
  decide

def percentMarker : Connection where
  current := { Database.empty with
    summaries := repeatedRow SummaryRow.ftsColumns percentSummary 1 one_lt_rowids }
  saved := none
  clock := 0

def searchPercent : MemorySearchRequest :=
  { agentId := ascii "agent-1", sessionId := ascii "session-1", query := ascii "%" }

/-- The full-text indexes find nothing. -/
def QueryHost.likeOnly : QueryHost :=
  Host.obliging.sorting (fun _ _ _ _ => none)
    (fun zB zA => (likeFunc zB (columnText zA)).toOption == some true) fun _ => .empty

theorem QueryHost.likeOnly_usesLike : QueryHost.likeOnly.UsesLike := by
  intro zB zA result h
  have hlike : QueryHost.likeOnly.like zB zA =
      ((likeFunc zB (columnText zA)).toOption == some true) := rfl
  rw [hlike, h]
  cases result <;> rfl

/-- A percent sign is found as a character. -/
theorem searchLongTermMemory_literal_percent :
    likeFunc (likePattern (ascii "%")) (ascii "contains 100% marker") = .ok true ∧
      (searchLongTermMemory .likeOnly searchPercent percentMarker).1.results ≠ [] := by
  have hspec := searchLongTermMemory_literal QueryHost.likeOnly_usesLike
  have hquery : LikeQuery (ascii "%") := ⟨by decide, by decide⟩
  have hfinds := hspec.2.2 searchPercent percentMarker (by decide) hquery fun h => absurd rfl h
  refine ⟨?_, hfinds.complete (by decide +kernel) (by decide +kernel)⟩
  rw [hspec.1 _ _ hquery]
  decide +kernel

theorem length_likePattern_replicate (n : ℕ) :
    (likePattern (List.replicate n 0x25)).length = n + n + 2 := by
  have hescape : (escapeLikePattern (List.replicate n 0x25)).length = n + n := by
    induction n with
    | zero => rfl
    | succ n ih =>
      rw [List.replicate_succ, escapeLikePattern_cons, List.length_append, ih]
      simp [IsSpecial]
      omega
  have hends : (ascii "%").length = 1 := rfl
  rw [likePattern, List.length_append, List.length_append, hescape, hends]
  omega

/-- A byte in the middle of a character is not found, a noncharacter is found where there is none,
and the escaped query may be too long when the query is not. -/
theorem likeFunc_not_substring :
    (likeFunc (likePattern [0xA9]) [0xC3, 0xA9] = .ok false ∧
      toLower [0xA9] <:+: toLower [0xC3, 0xA9]) ∧
    (likeFunc (likePattern [0xEF, 0xBF, 0xBE]) [0xEF, 0xBF, 0xBD] = .ok true ∧
      ¬toLower [0xEF, 0xBF, 0xBE] <:+: toLower [0xEF, 0xBF, 0xBD]) ∧
    ((List.replicate 25000 (0x25 : UInt8)).length < maxLikePatternLength ∧
      likeFunc (likePattern (List.replicate 25000 0x25)) (List.replicate 25000 0x25) =
        .error (ascii "LIKE or GLOB pattern too complex")) := by
  refine ⟨⟨?_, by decide⟩, ⟨?_, by decide⟩, ?_, ?_⟩
  · rw [likeFunc_likePattern ⟨by decide, by decide⟩]
    decide +kernel
  · rw [likeFunc_likePattern ⟨by decide, by decide⟩]
    decide +kernel
  · rw [List.length_replicate]
    decide
  · rw [likeFunc, length_likePattern_replicate, if_pos (by decide)]

end Percent

end AgentMemory
