import AgentMemory.Foundation.Once
import AgentMemory.Verification.Context.Payloads
import AgentMemory.Verification.Entities.Rows

/-! # The citations of a context

The refs of the rendered items are listed once. With a query the records beside the text come
before the hits, so the refs of these records come first, too. -/

namespace AgentMemory

open Foundation

/-! ## What is rendered -/

/-- A line of the text, and the refs of the item that it renders. -/
structure RenderedItem where
  line : Text
  sourceRefs : List Text

structure RenderedSection where
  heading : Text
  items : List RenderedItem

section Render

variable (streamFloat : ℚ → Text)

def summaryItem (s : LongTermSummaryRecord) : RenderedItem where
  line := ascii "- [" ++ s.level ++ ascii "] " ++ s.topic ++ ascii ": " ++ s.summary ++
    confidenceText streamFloat s.confidence
  sourceRefs := s.sourceRefs

def entityItem (e : MemoryEntity) : RenderedItem where
  line := ascii "- " ++ e.id ++ ascii " (" ++ e.entityType ++ ascii ", " ++ e.name ++
    ascii "): " ++ e.summary ++ confidenceText streamFloat e.confidence
  sourceRefs := e.sourceRefs

def relationItem (r : MemoryRelation) : RenderedItem where
  line := ascii "- " ++ r.fromEntityId ++ ascii " " ++ r.relationType ++ ascii " " ++
    r.toEntityId ++ confidenceText streamFloat r.confidence
  sourceRefs := r.sourceRefs

def hitItem (hit : MemorySearchHit) : RenderedItem where
  line := ascii "- [" ++ hit.type ++ ascii "] " ++ hit.content ++ ascii "\n"
  sourceRefs := hit.sourceRefs

/-- The sections of the long-term text: the hits of a search, or a snapshot. -/
def renderedSections (selected : SelectedLongTermMemory) : List RenderedSection :=
  if selected.usedSearch then
    [⟨ascii "## Relevant Long-Term Memory\n", selected.searchResults.map hitItem⟩]
  else
    [⟨ascii "## Long-term Summaries\n", selected.snapshot.summaries.map (summaryItem streamFloat)⟩,
      ⟨ascii "## Memory Entities\n", selected.snapshot.entities.map (entityItem streamFloat)⟩,
      ⟨ascii "## Memory Relations\n",
        selected.snapshot.relations.map (relationItem streamFloat)⟩]

end Render

def sectionsText (sections : List RenderedSection) : Text :=
  sections.foldl (fun text s => appendSection text s.heading (s.items.map (·.line))) []

/-- The refs of all items, in the order of the text. -/
def sectionsRefs (sections : List RenderedSection) : List Text :=
  sections.flatMap fun s => s.items.flatMap (·.sourceRefs)

/-- The refs of the records of a package. -/
def recordRefs (pkg : MemoryContextPackage) : List Text :=
  pkg.entities.flatMap (·.sourceRefs) ++ pkg.relations.flatMap (·.sourceRefs)

section Selected

variable (streamFloat : ℚ → Text) (selected : SelectedLongTermMemory)

theorem renderLongTermMemory_text : (renderLongTermMemory streamFloat selected).1 =
    sectionsText (renderedSections streamFloat selected) := by
  unfold renderLongTermMemory renderedSections
  dsimp only
  split
  · simp only [sectionsText, List.foldl_cons, List.foldl_nil, List.map_map]
    rfl
  · simp only [sectionsText, List.foldl_cons, List.foldl_nil, List.map_map]
    rfl

/-- The refs in the order in which they are gathered. -/
def gatheredRefs : List Text :=
  selected.snapshot.summaries.flatMap (·.sourceRefs) ++
    selected.snapshot.entities.flatMap (·.sourceRefs) ++
    selected.snapshot.relations.flatMap (·.sourceRefs) ++
    if selected.usedSearch then selected.searchResults.flatMap (·.sourceRefs) else []

theorem renderLongTermMemory_listsOnce : ListsOnce (fun ref => !ref.isEmpty)
    (gatheredRefs selected) (renderLongTermMemory streamFloat selected).2 := by
  have hcitations : (renderLongTermMemory streamFloat selected).2 =
      (gatheredRefs selected).foldl (addOnce fun ref => !ref.isEmpty) [] := by
    unfold renderLongTermMemory gatheredRefs collectSnapshotCitations collectSearchCitations
    dsimp only
    split
    · rw [List.foldl_append]
      rfl
    · rw [List.append_nil]
      rfl
  rw [hcitations]
  exact listsOnce_foldl _ _

end Selected

/-! ## Records and their hits -/

/-- Relations of the agent that are active have rowids with different low 32 bits. -/
def Database.RelationIdsUnique (agentId : Text) (db : Database) : Prop :=
  ((activeRelations agentId db).map fun r => columnInt r.1.val).Nodup

theorem mem_hitIds {type : String} {hits : List MemorySearchHit} {id : Text} :
    id ∈ hitIds type hits ↔ ∃ hit ∈ hits, hit.type = ascii type ∧ hit.id = id := by
  simp [hitIds, and_assoc]

section Named

variable {host : QueryHost} {agentId sessionId : Text} {n : ℕ} {db : Database}
  {hits : List MemorySearchHit}

/-- An entity that a hit names is the row of the hit. -/
theorem entityRefs_subset (hmade : ∀ hit ∈ hits, MadeFromRow host agentId db hit)
    (hunique : db.EntityIdsUnique) {ref : Text}
    (href : ref ∈ (namedRecords hits (snapshotOf host agentId sessionId n db)).entities.flatMap
      (·.sourceRefs)) : ref ∈ hits.flatMap (·.sourceRefs) := by
  obtain ⟨entity, hentity, href⟩ := List.mem_flatMap.mp href
  obtain ⟨hsnapshot, hnamed⟩ := List.mem_filter.mp hentity
  obtain ⟨r, hr, rfl⟩ := List.mem_map.mp hsnapshot
  rw [List.contains_iff_mem, mem_hitIds] at hnamed
  obtain ⟨hit, hhit, htype, hid⟩ := hnamed
  obtain ⟨r', hr', hscored⟩ := (hmade hit hhit).entity htype
  have hid' : hit.id = columnText r'.2.id := hscored.id
  have hrefs := hscored.sourceRefs
  have hsame : r' = r := by
    apply hunique.eq (List.mem_of_mem_filter hr')
      (List.mem_of_mem_filter (Arrangement.mem_of_mem_top hr))
    exact columnText_injective (hid'.symm.trans hid)
  rw [hsame] at hrefs
  exact List.mem_flatMap.mpr ⟨hit, hhit, hrefs ▸ href⟩

/-- So is a relation, if its rowid tells it from the others. -/
theorem relationRefs_subset (hmade : ∀ hit ∈ hits, MadeFromRow host agentId db hit)
    (hunique : db.RelationIdsUnique agentId) {ref : Text}
    (href : ref ∈ (namedRecords hits (snapshotOf host agentId sessionId n db)).relations.flatMap
      (·.sourceRefs)) : ref ∈ hits.flatMap (·.sourceRefs) := by
  obtain ⟨relation, hrelation, href⟩ := List.mem_flatMap.mp href
  obtain ⟨hsnapshot, hnamed⟩ := List.mem_filter.mp hrelation
  obtain ⟨r, hr, rfl⟩ := List.mem_map.mp hsnapshot
  obtain ⟨id, hid, hmatches⟩ := List.any_eq_true.mp hnamed
  rw [relationIdMatches_iff (fun hit hhit => (hmade hit hhit).namesRelation) hid,
    readRelationRow_id] at hmatches
  obtain ⟨hit, hhit, htype, rfl⟩ := mem_hitIds.mp hid
  obtain ⟨r', hr', hscored⟩ := (hmade hit hhit).relation htype
  have hid' : hit.id = ascii "relation:" ++ decimal (columnInt r'.1.val) := hscored.id
  have hrefs := hscored.sourceRefs
  have hsame : r' = r := by
    apply List.inj_on_of_nodup_map hunique hr' (Arrangement.mem_of_mem_top hr)
    exact (decimal_injective (List.append_cancel_left (hmatches.trans hid'))).symm
  rw [hsame] at hrefs
  exact List.mem_flatMap.mpr ⟨hit, hhit, hrefs ▸ href⟩

end Named

/-! ## Every citation is rendered, and every ref cited -/

/-- The long-term sections of a build. One that fails renders none. -/
def contextSections (host : ContextHost) (builder : ContextBuilder)
    (request : MemoryContextRequest) (c : Connection) : List RenderedSection :=
  if (buildContext host builder request c).1.succeeded then
    renderedSections host.streamFloat ((repliesTo host builder request c).selected builder request)
  else []

/-- The order of the citations: with a query, the refs of the records precede those of the
hits. -/
def citationOrder (request : MemoryContextRequest) (sections : List RenderedSection)
    (pkg : MemoryContextPackage) : List Text :=
  if request.query.isEmpty then sectionsRefs sections
  else recordRefs pkg ++ sectionsRefs sections

/-- The citations of a package are the refs of what its text renders, each of them once, as they
first occur in `order`. -/
structure Cites (order : List Text) (sections : List RenderedSection)
    (pkg : MemoryContextPackage) : Prop where
  memoryText : pkg.memoryText =
    joined (sectionsText sections) (payloadOverview [] pkg.payloadRefs)
  nonempty : [] ∉ pkg.citations
  nodup : pkg.citations.Nodup
  complete : ∀ ref, ref ∈ pkg.citations ↔ ref ∈ sectionsRefs sections ∧ ref ≠ []
  ordered : pkg.citations.Pairwise fun a b => order.idxOf a < order.idxOf b

section Cited

variable {host : ContextHost} {builder : ContextBuilder} {request : MemoryContextRequest}
  {c : Connection} {replies : ContextReplies}

theorem sectionsRefs_of_search (streamFloat : ℚ → Text) {selected : SelectedLongTermMemory}
    (h : selected.usedSearch = true) : sectionsRefs (renderedSections streamFloat selected) =
      selected.searchResults.flatMap (·.sourceRefs) := by
  simp only [renderedSections, h, if_true, sectionsRefs, List.flatMap_singleton, List.flatMap_map]
  rfl

theorem sectionsRefs_of_snapshot (streamFloat : ℚ → Text) {selected : SelectedLongTermMemory}
    (h : selected.usedSearch = false) : sectionsRefs (renderedSections streamFloat selected) =
      gatheredRefs selected := by
  simp only [renderedSections, h, sectionsRefs, gatheredRefs, Bool.false_eq_true, if_false,
    List.flatMap_cons, List.flatMap_nil, List.flatMap_map, List.append_assoc, List.append_nil]
  rfl

theorem selected_usedSearch :
    (replies.selected builder request).usedSearch = readsSearch builder request := by
  unfold ContextReplies.selected
  cases hsearch : readsSearch builder request with
  | true => rfl
  | false =>
      simp only [Bool.false_eq_true, if_false]
      split <;> rfl

/-- The refs are gathered in the order of the citations. -/
theorem gatheredRefs_eq (streamFloat : ℚ → Text) {pkg : MemoryContextPackage}
    (hpkg : BuiltOf builder request replies streamFloat pkg) :
    gatheredRefs (replies.selected builder request) = citationOrder request
      (renderedSections streamFloat (replies.selected builder request)) pkg := by
  have hflag := @selected_usedSearch builder request replies
  cases hsearch : readsSearch builder request with
  | true =>
      have hquery : request.query.isEmpty = false := by
        simp only [readsSearch, Bool.and_eq_true, Bool.not_eq_true'] at hsearch
        exact hsearch.2
      have hused := hflag.trans hsearch
      have hsummaries : (replies.selected builder request).snapshot.summaries = [] := by
        simp [ContextReplies.selected, hsearch, namedRecords]
      simp only [citationOrder, hquery, Bool.false_eq_true, if_false, gatheredRefs, hused, if_true,
        recordRefs, hpkg.entities, hpkg.relations, sectionsRefs_of_search streamFloat hused,
        hsummaries, List.flatMap_nil, List.nil_append]
  | false =>
      have hused := hflag.trans hsearch
      rw [citationOrder, sectionsRefs_of_snapshot streamFloat hused]
      cases hquery : request.query.isEmpty with
      | true => rfl
      | false =>
          have hread : readsSnapshot builder request = false := by
            simpa [readsSearch, hquery] using hsearch
          have hselected : replies.selected builder request = {} := by
            simp [ContextReplies.selected, hsearch, hread]
          simp [recordRefs, hpkg.entities, hpkg.relations, hselected]

/-- What is gathered from the records of a search is rendered with its hits. -/
theorem mem_gatheredRefs_iff (streamFloat : ℚ → Text) (hentities : c.current.EntityIdsUnique)
    (hrelations : c.current.RelationIdsUnique request.agentId)
    (hnone : (repliesTo host builder request c).firstError builder request = none) (ref : Text) :
    ref ∈ gatheredRefs ((repliesTo host builder request c).selected builder request) ↔
      ref ∈ sectionsRefs (renderedSections streamFloat
        ((repliesTo host builder request c).selected builder request)) := by
  generalize hselected : (repliesTo host builder request c).selected builder request = selected
  obtain ⟨-, hsearched, hloaded, -⟩ := firstError_eq_none_iff.mp hnone
  cases hsearch : readsSearch builder request with
  | false =>
      have hused : selected.usedSearch = false := by
        rw [← hselected, selected_usedSearch, hsearch]
      rw [sectionsRefs_of_snapshot streamFloat hused]
  | true =>
      have hread := readsSnapshot_of_search hsearch
      have hsnapshot : (repliesTo host builder request c).snapshot.snapshot = _ :=
        loadLongTermMemory_succeeded (hloaded hread)
      rw [beforeSnapshot_current] at hsnapshot
      have hmade := searchLongTermMemory_madeFromRow (hsearched hsearch)
      rw [afterContextMessages_current] at hmade
      rw [ContextReplies.selected, if_pos hsearch, hsnapshot] at hselected
      subst hselected
      rw [sectionsRefs_of_search streamFloat rfl]
      simp only [gatheredRefs, if_true, List.mem_append]
      constructor
      · rintro (((href | href) | href) | href)
        · cases href
        · exact entityRefs_subset hmade hentities href
        · exact relationRefs_subset hmade hrelations href
        · exact href
      · exact .inr

end Cited

/-- A build that fails returns an empty package. -/
theorem buildContext_failed {host : ContextHost} {builder : ContextBuilder}
    {request : MemoryContextRequest} {c : Connection}
    (h : (buildContext host builder request c).1.succeeded = false) :
    (buildContext host builder request c).1.context = {} := by
  rcases buildContext_cases host builder request c with ⟨hfailed, hcontext⟩ | ⟨hok, -⟩
  · exact hcontext
  · rw [hok] at h
    cases h

/-- The citations of a context are complete, without duplicates, and in order. -/
theorem buildContext_cites (host : ContextHost) (builder : ContextBuilder)
    (request : MemoryContextRequest) (c : Connection) (hentities : c.current.EntityIdsUnique)
    (hrelations : c.current.RelationIdsUnique request.agentId) :
    Cites (citationOrder request (contextSections host builder request c)
        (buildContext host builder request c).1.context)
      (contextSections host builder request c) (buildContext host builder request c).1.context := by
  cases hok : (buildContext host builder request c).1.succeeded with
  | false =>
      have hfailed := buildContext_failed hok
      simp only [contextSections, hok, hfailed, Bool.false_eq_true, if_false]
      exact ⟨rfl, List.not_mem_nil, .nil, by simp [sectionsRefs], .nil⟩
  | true =>
      obtain ⟨hnone, hbuilt⟩ := buildContext_succeeded hok
      have hlists := renderLongTermMemory_listsOnce host.streamFloat
        ((repliesTo host builder request c).selected builder request)
      rw [← hbuilt.citations] at hlists
      have hmem := mem_gatheredRefs_iff host.streamFloat hentities hrelations hnone
      simp only [contextSections, hok, if_true, ← gatheredRefs_eq host.streamFloat hbuilt]
      refine ⟨?_, ?_, hlists.nodup, fun ref => ?_, hlists.ordered⟩
      · rw [hbuilt.memoryText, hbuilt.payloadRefs, ContextReplies.longTermText,
          renderLongTermMemory_text]
      · intro hnil
        exact absurd ((hlists.mem_iff []).mp hnil).2 (by simp)
      · rw [hlists.mem_iff, hmem]
        simp

/-! ### A summary before an entity, and two relations of one id -/

section Tea

/-- A host that parses the refs below and finds `tea` in the first row of every kind. -/
def ContextHost.citing : ContextHost where
  toQueryHost := Host.sorting {
      outcome := fun _ => {}
      parseJson := fun text =>
        if text = ascii "[\"1\"]" then some (.array [.string (ascii "1")])
        else if text = ascii "[\"2\"]" then some (.array [.string (ascii "2")])
        else none }
    (fun _ ftsQuery _ rowid => if ftsQuery = ascii "tea" ∧ rowid = 1 then some (-1) else none)
    (fun _ _ => false) fun _ => .empty
  streamFloat _ := []

def teaSummary : SummaryRow where
  agentId := bindText (ascii "alice")
  sessionId := bindText []
  level := bindText (ascii "topic")
  topic := bindText (ascii "tea")
  summary := bindText (ascii "likes tea")
  confidence := 1 / 2
  sourceRefsJson := bindText (ascii "[\"1\"]")
  createdAt := ascii "2024-01-01 00:00:00"
  updatedAt := ascii "2024-01-01 00:00:00"

def teaEntity : EntityRow :=
  { entityNamed (ascii "e1") (ascii "tea") (ascii "2024-01-01 00:00:00") with
    sourceRefsJson := bindText (ascii "[\"2\"]") }

/-- A summary and an entity. -/
def summaryAndEntity : Connection where
  current := { Database.empty with
    summaries := {
      table := {
        rows := [(1, teaSummary)]
        sorted := by simp
        positive := by simp }
      index := { entries := [(1, teaSummary.ftsColumns)], intact := true } }
    entities := {
      table := {
        rows := [(1, teaEntity)]
        sorted := by simp
        positive := by simp }
      index := { entries := [(1, teaEntity.ftsColumns)], intact := true } } }
  saved := none
  clock := 0

def relationTo (toEntity sourceRefs : String) : RelationRow where
  agentId := bindText (ascii "alice")
  fromEntity := bindText (ascii "alice")
  relation := bindText (ascii "likes")
  toEntity := bindText (ascii toEntity)
  confidence := 1 / 2
  sourceRefsJson := bindText (ascii sourceRefs)
  metadataJson := bindText (ascii "\x7b\x7d")
  active := true
  createdAt := ascii "2024-01-01 00:00:00"
  updatedAt := ascii "2024-01-01 00:00:00"

/-- Relations with rowids that differ by `2 ^ 32`. -/
def collidingRelations : Connection where
  current := { Database.empty with
    relations := {
      table := {
        rows := [(1, relationTo "tea" "[\"1\"]"), (4294967297, relationTo "code" "[\"2\"]")]
        sorted := by decide +kernel
        positive := by decide +kernel }
      index := {
        entries := [(1, (relationTo "tea" "[\"1\"]").ftsColumns),
          (4294967297, (relationTo "code" "[\"2\"]").ftsColumns)]
        intact := true } } }
  saved := none
  clock := 0

/-- A request for what is remembered of tea. -/
def citedRequest : MemoryContextRequest where
  agentId := ascii "alice"
  query := ascii "tea"
  includeSections := [ascii "long_term"]

theorem buildContext_cites_summaryAndEntity :
    Cites (citationOrder citedRequest (contextSections .citing {} citedRequest summaryAndEntity)
        (buildContext .citing {} citedRequest summaryAndEntity).1.context)
      (contextSections .citing {} citedRequest summaryAndEntity)
      (buildContext .citing {} citedRequest summaryAndEntity).1.context := by
  refine buildContext_cites .citing {} citedRequest summaryAndEntity ?_ ?_
  · unfold Database.EntityIdsUnique
    decide +kernel
  · unfold Database.RelationIdsUnique
    decide +kernel

/-- The entity is cited before the summary, which the text has first; and the second of two
relations with the same id is cited and not rendered. -/
theorem buildContext_not_cites_inOrder :
    (∃ (builder : ContextBuilder) (request : MemoryContextRequest) (c : Connection),
      c.current.EntityIdsUnique ∧ c.current.RelationIdsUnique request.agentId ∧
      (buildContext .citing builder request c).1.succeeded = true ∧
      ¬Cites (sectionsRefs (contextSections .citing builder request c))
        (contextSections .citing builder request c)
        (buildContext .citing builder request c).1.context) ∧
    ∃ (builder : ContextBuilder) (request : MemoryContextRequest) (c : Connection),
      c.current.EntityIdsUnique ∧ (buildContext .citing builder request c).1.succeeded = true ∧
      ∃ ref ∈ (buildContext .citing builder request c).1.context.citations,
        ref ∉ sectionsRefs (contextSections .citing builder request c) := by
  constructor
  · refine ⟨{}, citedRequest, summaryAndEntity, ?_, ?_, by decide +kernel, fun h => ?_⟩
    · unfold Database.EntityIdsUnique
      decide +kernel
    · unfold Database.RelationIdsUnique
      decide +kernel
    · exact absurd h.ordered (by decide +kernel)
  · refine ⟨{}, citedRequest, collidingRelations, ?_, by decide +kernel, ascii "2", ?_, ?_⟩
    · unfold Database.EntityIdsUnique
      decide +kernel
    · decide +kernel
    · decide +kernel

end Tea

end AgentMemory
