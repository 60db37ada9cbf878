import AgentMemory.Foundation.Selection
import AgentMemory.Model.Store
import Mathlib.Algebra.Order.Field.Rat

/-! # Reading long-term memory and searching it -/

namespace AgentMemory

open Foundation

/-! ## Results -/

structure MemoryPayloadRefsResult where
  succeeded : Bool := false
  payloads : List MemoryPayloadRef := []
  error : MemoryError := {}

structure LongTermSummaryRecord where
  level : Text := []
  topic : Text := []
  summary : Text := []
  confidence : ℚ := 0
  sourceRefs : List Text := []

structure LongTermMemorySnapshot where
  summaries : List LongTermSummaryRecord := []
  entities : List MemoryEntity := []
  relations : List MemoryRelation := []

structure LongTermMemorySnapshotResult where
  succeeded : Bool := false
  snapshot : LongTermMemorySnapshot := {}
  error : MemoryError := {}

structure MemorySearchHit where
  id : Text := []
  type : Text := []
  content : Text := []
  score : ℚ := 0
  sourceRefs : List Text := []
  metadata : Json := .object []

structure MemorySearchRequest where
  agentId : Text := []
  sessionId : Text := []
  query : Text := []
  limit : Int32 := 10
  includeSections : List Text := []
  metadata : Json := .object []

structure MemorySearchStoreResult where
  succeeded : Bool := false
  results : List MemorySearchHit := []
  error : MemoryError := {}

/-! ## The orders of the queries -/

/-- `ORDER BY column DESC, id DESC`. -/
def newestFirst {ρ : Type} (column : ρ → Text) (a b : Rowid × ρ) : Prop :=
  LexBy (· > ·) (fun r : Rowid × ρ => column r.2) (fun a b => b.1 ≤ a.1) a b

/-- `ORDER BY updated_at DESC`; entities of one second are in no particular order. -/
def EntityRow.newestFirst (a b : Rowid × EntityRow) : Prop :=
  b.2.updatedAt ≤ a.2.updatedAt

/-- `ORDER BY rank ASC, ...`. -/
def rankFirst {ρ : Type} (order : Rowid × ρ → Rowid × ρ → Prop) (a b : (Rowid × ρ) × ℚ) : Prop :=
  LexBy (· < ·) Prod.snd (fun a b => order a.1 b.1) a b

/-- The comparison of `SortAndLimitSearchResults`. -/
def MemorySearchHit.before (lhs rhs : MemorySearchHit) : Prop :=
  LexBy (· > ·) MemorySearchHit.score (fun lhs rhs => lhs.id ≤ rhs.id) lhs rhs

inductive FtsTable where
  | summaries
  | entities
  | relations
deriving DecidableEq

/-- The code outside the repository that queries rest on: which rows of a full-text index match a
query and with which `bm25` rank, `LIKE` with its escape character, how a number is printed, and
how `ORDER BY` and `std::sort` arrange ties. -/
structure QueryHost extends Host where
  bm25 : FtsTable → Text → Database → Rowid → Option ℚ
  like : Text → SqlText → Bool
  printFloat : ℚ → FloatText
  payloadOrder : Arrangement (newestFirst PayloadRow.createdAt)
  summaryOrder : Arrangement (newestFirst SummaryRow.updatedAt)
  entityOrder : Arrangement EntityRow.newestFirst
  relationOrder : Arrangement (newestFirst RelationRow.updatedAt)
  ftsSummaryOrder : Arrangement (rankFirst (newestFirst SummaryRow.updatedAt))
  ftsEntityOrder : Arrangement (rankFirst EntityRow.newestFirst)
  ftsRelationOrder : Arrangement (rankFirst (newestFirst RelationRow.updatedAt))
  likeEntityOrder : Arrangement EntityRow.newestFirst
  hitOrder : Arrangement MemorySearchHit.before

/-! ### Arrangements by insertion -/

section Insertion

theorem text_trichotomy (s t : Text) : s < t ∨ s = t ∨ t < s := by
  by_cases hst : s < t
  · exact .inl hst
  · by_cases hts : t < s
    · exact .inr (.inr hts)
    · exact .inr (.inl (List.le_antisymm (List.not_lt.mp hts) (List.not_lt.mp hst)))

variable {ρ : Type}

instance (column : ρ → Text) : DecidableRel (newestFirst column) := fun a b =>
  inferInstanceAs (Decidable (column b.2 < column a.2 ∨ (column a.2 = column b.2 ∧ b.1 ≤ a.1)))

instance : DecidableRel EntityRow.newestFirst := fun a b =>
  inferInstanceAs (Decidable (b.2.updatedAt ≤ a.2.updatedAt))

instance (order : Rowid × ρ → Rowid × ρ → Prop) [DecidableRel order] :
    DecidableRel (rankFirst order) := fun a b =>
  inferInstanceAs (Decidable (a.2 < b.2 ∨ (a.2 = b.2 ∧ order a.1 b.1)))

instance : DecidableRel MemorySearchHit.before := fun lhs rhs =>
  inferInstanceAs (Decidable (rhs.score < lhs.score ∨ (lhs.score = rhs.score ∧ lhs.id ≤ rhs.id)))

theorem newestFirst_total (column : ρ → Text) (a b : Rowid × ρ) :
    newestFirst column a b ∨ newestFirst column b a := by
  refine LexBy.total (fun x y => ?_) (fun a b => le_total b.1 a.1) a b
  rcases text_trichotomy y x with h | h | h
  · exact .inl h
  · exact .inr (.inl h.symm)
  · exact .inr (.inr h)

theorem newestFirst_trans (column : ρ → Text) (a b c : Rowid × ρ)
    (hab : newestFirst column a b) (hbc : newestFirst column b c) : newestFirst column a c := by
  refine LexBy.trans (fun x y z hxy hyz => ?_) (fun a b c hab hbc => ?_) a b c hab hbc
  · exact List.lt_trans hyz hxy
  · exact le_trans hbc hab

theorem EntityRow.newestFirst_trans (a b c : Rowid × EntityRow) (hab : EntityRow.newestFirst a b)
    (hbc : EntityRow.newestFirst b c) : EntityRow.newestFirst a c :=
  List.le_trans hbc hab

theorem EntityRow.newestFirst_total (a b : Rowid × EntityRow) :
    EntityRow.newestFirst a b ∨ EntityRow.newestFirst b a :=
  List.le_total _ _

theorem rankFirst_total {order : Rowid × ρ → Rowid × ρ → Prop}
    (h : ∀ a b, order a b ∨ order b a) (a b : (Rowid × ρ) × ℚ) :
    rankFirst order a b ∨ rankFirst order b a :=
  LexBy.total lt_trichotomy (fun a b => h a.1 b.1) a b

theorem rankFirst_trans {order : Rowid × ρ → Rowid × ρ → Prop}
    (h : ∀ a b c, order a b → order b c → order a c) (a b c : (Rowid × ρ) × ℚ)
    (hab : rankFirst order a b) (hbc : rankFirst order b c) : rankFirst order a c := by
  refine LexBy.trans (fun x y z hxy hyz => ?_) (fun a b c => h a.1 b.1 c.1) a b c hab hbc
  exact lt_trans hxy hyz

theorem MemorySearchHit.before_total (a b : MemorySearchHit) : a.before b ∨ b.before a := by
  refine LexBy.total (fun x y => ?_) (fun a b => List.le_total a.id b.id) a b
  rcases lt_trichotomy y x with h | h | h
  · exact .inl h
  · exact .inr (.inl h.symm)
  · exact .inr (.inr h)

theorem MemorySearchHit.before_trans (a b c : MemorySearchHit) (hab : a.before b)
    (hbc : b.before c) : a.before c := by
  refine LexBy.trans (fun x y z hxy hyz => ?_) (fun a b c hab hbc => ?_) a b c hab hbc
  · exact lt_trans hyz hxy
  · exact List.le_trans hab hbc

/-- A host that sorts by insertion. -/
def Host.sorting (host : Host) (bm25 : FtsTable → Text → Database → Rowid → Option ℚ)
    (like : Text → SqlText → Bool) (printFloat : ℚ → FloatText) : QueryHost where
  toHost := host
  bm25 := bm25
  like := like
  printFloat := printFloat
  payloadOrder := .insertion _ (newestFirst_total _) (newestFirst_trans _)
  summaryOrder := .insertion _ (newestFirst_total _) (newestFirst_trans _)
  entityOrder := .insertion _ EntityRow.newestFirst_total EntityRow.newestFirst_trans
  relationOrder := .insertion _ (newestFirst_total _) (newestFirst_trans _)
  ftsSummaryOrder := .insertion _ (rankFirst_total (newestFirst_total _))
    (rankFirst_trans (newestFirst_trans _))
  ftsEntityOrder := .insertion _ (rankFirst_total EntityRow.newestFirst_total)
    (rankFirst_trans EntityRow.newestFirst_trans)
  ftsRelationOrder := .insertion _ (rankFirst_total (newestFirst_total _))
    (rankFirst_trans (newestFirst_trans _))
  likeEntityOrder := .insertion _ EntityRow.newestFirst_total EntityRow.newestFirst_trans
  hitOrder := .insertion _ MemorySearchHit.before_total MemorySearchHit.before_trans

end Insertion

/-! ## Columns -/

/-- `sqlite3_column_int`: the low 32 bits of the value. -/
def columnInt (n : ℤ) : ℤ :=
  n.bmod (2 ^ 32)

def extractSourceRefsFromJson (json : Json) : List Text :=
  let source := if json.isObject then (json.member? (ascii "sourceRefs")).getD json else json
  match source with
  | .array elements => elements.filterMap fun
      | .string s => some s
      | _ => none
  | _ => []

/-- A discarded value is no array. -/
def parseSourceRefsColumn (host : Host) (column : SqlText) : List Text :=
  let text := columnText column
  if text.isEmpty then []
  else
    match host.parseJson text with
    | some json => extractSourceRefsFromJson json
    | none => []

/-! ## Queries -/

/-- How a `SELECT` ends. The rows of one that fails at a later step are dropped: no caller looks
at them. -/
inductive Selected (α : Type) where
  | rows (rows : List α)
  | refused (atPrepare : Bool) (errmsg : Text)

def selectRows {α : Type} (host : Host) (query : Database → List α) (c : Connection) :
    Selected α × Connection :=
  let outcome := host.outcome c.clock
  (if outcome.accepted then .rows (query c.current)
    else .refused outcome.atPrepare outcome.errmsg, { c with clock := c.clock + 1 })

/-- The clause `agent_id = ? AND (? = '' OR session_id = ?)`. -/
def inScope (agentId sessionId : Text) (rowAgent rowSession : SqlText) : Bool :=
  rowAgent == bindText agentId &&
    (bindText sessionId == bindText [] || rowSession == bindText sessionId)

/-- The same clause for the event log. -/
def EventRow.inScope (agentId sessionId : Text) (row : EventRow) : Bool :=
  row.agentId.is (bindText agentId) &&
    (bindText sessionId == bindText [] || row.sessionId.is (bindText sessionId))

/-- The error of a refused statement of the given context. -/
def refusedError (context : String) (atPrepare : Bool) (errmsg : Text) : MemoryError :=
  (sqliteFailure errmsg (context ++ if atPrepare then "_prepare" else "_step")).error

/-- `limit > 0 ? limit : fallback`. -/
def effectiveLimit (limit : Int32) (fallback : ℕ) : ℕ :=
  if 0 < limit.toInt then limit.toInt.toNat else fallback

/-- `ORDER BY id DESC LIMIT ?`, and then the reversal. -/
def lastRows {α : Type} (n : ℕ) (rows : List α) : List α :=
  (rows.reverse.take n).reverse

def loadRecentEvents (host : Host) (agentId sessionId : Text) (limit : Int32) (c : Connection) :
    MemoryEventsResult × Connection :=
  select host "LoadRecentEvents" (fun error => { error })
    (fun db => {
      succeeded := true
      events := (lastRows (effectiveLimit limit 20) (db.events.rows.filter fun r =>
        r.2.inScope agentId sessionId)).map (readEventRow host) }) c

def readPayloadRow (row : Rowid × PayloadRow) : MemoryPayloadRef where
  agentId := columnText row.2.agentId
  sessionId := columnText row.2.sessionId
  uri := columnText row.2.ref
  contentType := columnText row.2.contentType
  toolName := columnText row.2.toolName
  summary := columnText row.2.summary
  originalChars := columnInt row.2.originalChars
  createdAt := row.2.createdAt

def loadRecentPayloads (host : QueryHost) (agentId sessionId : Text) (limit : Int32)
    (c : Connection) : MemoryPayloadRefsResult × Connection :=
  select host.toHost "LoadRecentPayloads" (fun error => { error })
    (fun db => {
      succeeded := true
      payloads := (host.payloadOrder.top (effectiveLimit limit 20) (db.payloads.rows.filter
        fun r => inScope agentId sessionId r.2.agentId r.2.sessionId)).map readPayloadRow }) c

/-! ## `LoadLongTermMemory` -/

def readSummaryRow (host : Host) (row : Rowid × SummaryRow) : LongTermSummaryRecord where
  level := columnText row.2.level
  topic := columnText row.2.topic
  summary := columnText row.2.summary
  confidence := row.2.confidence
  sourceRefs := parseSourceRefsColumn host row.2.sourceRefsJson

def readEntityRow (host : Host) (row : Rowid × EntityRow) : MemoryEntity where
  id := columnText row.2.id
  agentId := columnText row.2.agentId
  entityType := columnText row.2.entityType
  name := columnText row.2.name
  summary := columnText row.2.summary
  confidence := row.2.confidence
  sourceRefs := parseSourceRefsColumn host row.2.sourceRefsJson
  metadata := parseJsonSafely host (columnText row.2.metadataJson)

def readRelationRow (host : Host) (row : Rowid × RelationRow) : MemoryRelation where
  id := decimal (columnInt row.1.val)
  agentId := columnText row.2.agentId
  fromEntityId := columnText row.2.fromEntity
  relationType := columnText row.2.relation
  toEntityId := columnText row.2.toEntity
  confidence := row.2.confidence
  sourceRefs := parseSourceRefsColumn host row.2.sourceRefsJson
  metadata := parseJsonSafely host (columnText row.2.metadataJson)

def summariesOf (agentId sessionId : Text) (db : Database) : List (Rowid × SummaryRow) :=
  db.summaries.rows.filter fun r => inScope agentId sessionId r.2.agentId r.2.sessionId

/-- `WHERE active = 1 AND agent_id = ?`. -/
def activeEntities (agentId : Text) (db : Database) : List (Rowid × EntityRow) :=
  db.entities.rows.filter fun r => r.2.active && r.2.agentId == bindText agentId

/-- `WHERE active = 1 AND agent_id = ?`. -/
def activeRelations (agentId : Text) (db : Database) : List (Rowid × RelationRow) :=
  db.relations.rows.filter fun r => r.2.active && r.2.agentId == bindText agentId

def loadLongTermMemory (host : QueryHost) (agentId : Text) (limit : Int32) (sessionId : Text)
    (c : Connection) : LongTermMemorySnapshotResult × Connection :=
  let n := effectiveLimit limit 100
  match selectRows host.toHost (fun db => (host.summaryOrder.top n
      (summariesOf agentId sessionId db)).map (readSummaryRow host.toHost)) c with
  | (.refused atPrepare errmsg, c) =>
      ({ error := refusedError "LoadLongTermMemory::summaries" atPrepare errmsg }, c)
  | (.rows summaries, c) =>
      match selectRows host.toHost (fun db => (host.entityOrder.top n
          (activeEntities agentId db)).map (readEntityRow host.toHost)) c with
      | (.refused atPrepare errmsg, c) =>
          ({ snapshot := { summaries }
             error := refusedError "LoadLongTermMemory::entities" atPrepare errmsg }, c)
      | (.rows entities, c) =>
          match selectRows host.toHost (fun db => (host.relationOrder.top n
              (activeRelations agentId db)).map (readRelationRow host.toHost)) c with
          | (.refused atPrepare errmsg, c) =>
              ({ snapshot := { summaries, entities }
                 error := refusedError "LoadLongTermMemory::relations" atPrepare errmsg }, c)
          | (.rows relations, c) =>
              ({ succeeded := true, snapshot := { summaries, entities, relations } }, c)

/-! ## Scores -/

def typeWeight (type : Text) : ℚ :=
  if type = ascii "summary" then 1
  else if type = ascii "entity" then 95 / 100
  else 90 / 100

def fallbackScore (type : Text) : ℚ :=
  if type = ascii "summary" then 30 / 100
  else if type = ascii "entity" then 25 / 100
  else 20 / 100

/-- The score of a rank, taken exactly. -/
def ftsScore (type : Text) (bm25Rank : ℚ) : ℚ :=
  let rawRank := max 0 (-bm25Rank)
  (if 0 < rawRank then rawRank / (rawRank + 1) else 0) * typeWeight type

def applyFtsScore (host : QueryHost) (hit : MemorySearchHit) (bm25Rank : ℚ) : MemorySearchHit :=
  let rawRank := max 0 (-bm25Rank)
  let weight := typeWeight hit.type
  { hit with
    score := ftsScore hit.type bm25Rank
    metadata := ((hit.metadata.set (ascii "scoreSource") (.string (ascii "fts_bm25"))).set
      (ascii "rawRank") (.float rawRank (host.printFloat rawRank))).set
      (ascii "typeWeight") (.float weight (host.printFloat weight)) }

def applyFallbackScore (hit : MemorySearchHit) : MemorySearchHit :=
  { hit with
    score := fallbackScore hit.type
    metadata := hit.metadata.set (ascii "scoreSource") (.string (ascii "like_fallback")) }

def sortAndLimitSearchResults (host : QueryHost) (hits : List MemorySearchHit) (limit : ℕ) :
    List MemorySearchHit :=
  let sorted := host.hitOrder.arrange hits
  if 0 < limit ∧ (limit : ℤ) < toInt32 sorted.length then sorted.take limit else sorted

/-! ## `SearchLongTermMemory` -/

def escapeLikePattern (value : Text) : Text :=
  value.flatMap fun b => if b = 0x5C ∨ b = 0x25 ∨ b = 0x5F then [0x5C, b] else [b]

/-- One character of the first loop of `Fts5EscapeQuery`. -/
def fts5EscapeStep (escaped : Text) (b : UInt8) : Text :=
  if isAlnum b || b == 0x5F || isSpace b || 0x80 ≤ b then escaped ++ [b]
  else if b = 0x2A then
    match escaped.getLast? with
    | some prev => if isAlnum prev || prev == 0x5F then escaped ++ [b] else escaped
    | none => escaped
  else escaped

def fts5EscapeQuery (query : Text) : Text :=
  let escaped := query.foldl fts5EscapeStep []
  if escaped.isEmpty then query.filter fun b => isAlnum b || b == 0x5F || b == 0x20 else escaped

def summaryHit (host : Host) (row : Rowid × SummaryRow) : MemorySearchHit where
  id := ascii "summary:" ++ decimal (columnInt row.1.val)
  type := ascii "summary"
  content := columnText row.2.level ++ ascii ": " ++ columnText row.2.topic ++ ascii ": " ++
    columnText row.2.summary
  sourceRefs := parseSourceRefsColumn host row.2.sourceRefsJson

def entityHit (host : Host) (row : Rowid × EntityRow) : MemorySearchHit where
  id := columnText row.2.id
  type := ascii "entity"
  content := columnText row.2.entityType ++ ascii ": " ++ columnText row.2.name ++ ascii ": " ++
    columnText row.2.summary
  sourceRefs := parseSourceRefsColumn host row.2.sourceRefsJson
  metadata := parseJsonSafely host (columnText row.2.metadataJson)

def relationHit (host : Host) (row : Rowid × RelationRow) : MemorySearchHit where
  id := ascii "relation:" ++ decimal (columnInt row.1.val)
  type := ascii "relation"
  content := columnText row.2.fromEntity ++ ascii " " ++ columnText row.2.relation ++ ascii " " ++
    columnText row.2.toEntity
  sourceRefs := parseSourceRefsColumn host row.2.sourceRefsJson

/-- The rows that match a full-text query, with their ranks. -/
def ftsMatches {ρ : Type} (host : QueryHost) (table : FtsTable) (ftsQuery : Text) (db : Database)
    (rows : List (Rowid × ρ)) : List ((Rowid × ρ) × ℚ) :=
  rows.filterMap fun r => (host.bm25 table ftsQuery db r.1).map fun rank => (r, rank)

/-- The three full-text queries. -/
def ftsQueries (host : QueryHost) (request : MemorySearchRequest) (ftsQuery : Text) (limit : ℕ) :
    List (String × (Database → List MemorySearchHit)) :=
  [("summaries", fun db => (host.ftsSummaryOrder.top limit
      (ftsMatches host .summaries ftsQuery db
        (summariesOf request.agentId request.sessionId db))).map
      fun r => applyFtsScore host (summaryHit host.toHost r.1) r.2),
    ("entities", fun db => (host.ftsEntityOrder.top limit
      (ftsMatches host .entities ftsQuery db (activeEntities request.agentId db))).map
      fun r => applyFtsScore host (entityHit host.toHost r.1) r.2),
    ("relations", fun db => (host.ftsRelationOrder.top limit
      (ftsMatches host .relations ftsQuery db (activeRelations request.agentId db))).map
      fun r => applyFtsScore host (relationHit host.toHost r.1) r.2)]

def likesSummary (host : QueryHost) (pattern : Text) (row : Rowid × SummaryRow) : Bool :=
  host.like pattern row.2.topic || host.like pattern row.2.summary

def likesEntity (host : QueryHost) (pattern : Text) (row : Rowid × EntityRow) : Bool :=
  host.like pattern row.2.id || host.like pattern row.2.entityType ||
    host.like pattern row.2.name || host.like pattern row.2.summary

def likesRelation (host : QueryHost) (pattern : Text) (row : Rowid × RelationRow) : Bool :=
  host.like pattern row.2.fromEntity || host.like pattern row.2.relation ||
    host.like pattern row.2.toEntity

def likePattern (query : Text) : Text :=
  ascii "%" ++ escapeLikePattern query ++ ascii "%"

/-- The three queries of the fallback. The pattern is bound as a C string, too. -/
def likeQueries (host : QueryHost) (request : MemorySearchRequest) (limit : ℕ) :
    List (String × (Database → List MemorySearchHit)) :=
  let pattern := cStr (likePattern request.query)
  [("summaries", fun db => (host.summaryOrder.top limit
      ((summariesOf request.agentId request.sessionId db).filter (likesSummary host pattern))).map
      fun r => applyFallbackScore (summaryHit host.toHost r)),
    ("entities", fun db => (host.likeEntityOrder.top limit
      ((activeEntities request.agentId db).filter (likesEntity host pattern))).map
      fun r => applyFallbackScore (entityHit host.toHost r)),
    ("relations", fun db => (host.relationOrder.top limit
      ((activeRelations request.agentId db).filter (likesRelation host pattern))).map
      fun r => applyFallbackScore (relationHit host.toHost r))]

/-- The results so far, or those at the failure that ends the call, with its error. -/
abbrev Found := Except (List MemorySearchHit × MemoryError) (List MemorySearchHit)

/-- One full-text query after another. A failed step clears the results and ends the sequence; a
failed preparation ends the call. -/
def runFtsQueries (host : QueryHost) :
    List (String × (Database → List MemorySearchHit)) → List MemorySearchHit → Connection →
      Found × Connection
  | [], results, c => (.ok results, c)
  | (name, query) :: rest, results, c =>
      match selectRows host.toHost query c with
      | (.rows hits, c) => runFtsQueries host rest (results ++ hits) c
      | (.refused true errmsg, c) =>
          (.error (results, refusedError ("SearchLongTermMemory::fts_" ++ name) true errmsg), c)
      | (.refused false _, c) => (.ok [], c)

/-- One query of the fallback after another, each of which has to succeed. -/
def runLikeQueries (host : QueryHost) :
    List (String × (Database → List MemorySearchHit)) → List MemorySearchHit → Connection →
      Found × Connection
  | [], results, c => (.ok results, c)
  | (name, query) :: rest, results, c =>
      match selectRows host.toHost query c with
      | (.rows hits, c) => runLikeQueries host rest (results ++ hits) c
      | (.refused atPrepare errmsg, c) =>
          (.error (results, refusedError ("SearchLongTermMemory::like_" ++ name) atPrepare errmsg),
            c)

/-- The hits before they are sorted. -/
def findHits (host : QueryHost) (request : MemorySearchRequest) (limit : ℕ) (c : Connection) :
    Found × Connection :=
  let ftsQuery := fts5EscapeQuery request.query
  match if ftsQuery.isEmpty then (.ok [], c)
    else runFtsQueries host (ftsQueries host request (cStr ftsQuery) limit) [] c with
  | (.error failed, c) => (.error failed, c)
  | (.ok results, c) =>
      if results.isEmpty then runLikeQueries host (likeQueries host request limit) [] c
      else (.ok results, c)

/-- `MemorySqliteStore::SearchLongTermMemory`. -/
def searchLongTermMemory (host : QueryHost) (request : MemorySearchRequest) (c : Connection) :
    MemorySearchStoreResult × Connection :=
  if request.query.isEmpty then ({ succeeded := true }, c)
  else
    let limit := effectiveLimit request.limit 10
    match findHits host request limit c with
    | (.error (results, error), c) => ({ results, error }, c)
    | (.ok results, c) =>
        ({ succeeded := true, results := sortAndLimitSearchResults host results limit }, c)

end AgentMemory
