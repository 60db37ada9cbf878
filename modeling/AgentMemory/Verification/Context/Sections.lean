import AgentMemory.Verification.Context.Records
import AgentMemory.Verification.Search.Ranking

/-! # The sections of a context

A build asks the store for what its sections need and for nothing else. What it returns is a
function of the replies, and each section of it one of its own replies only. -/

namespace AgentMemory

open Foundation

/-! ## What a build asks the store for -/

/-- The list of sections names the messages. -/
def namesMessages (sections : List Text) : Bool :=
  sections.contains (ascii "messages")

def namesLongTerm (sections : List Text) : Bool :=
  sections.contains (ascii "long_term") || sections.contains (ascii "long_term_memory")

def namesPayloads (sections : List Text) : Bool :=
  sections.contains (ascii "payloads") || sections.contains (ascii "payload")

/-- The same request for all sections. -/
def MemoryContextRequest.full (request : MemoryContextRequest) : MemoryContextRequest :=
  { request with includeSections := [] }

/-- Whether the messages, if included, take a read. -/
def eventsAvailable (builder : ContextBuilder) (request : MemoryContextRequest) : Bool :=
  builder.eventStore && decide (messageLimit request ≠ 0)

def longTermAvailable (builder : ContextBuilder) (request : MemoryContextRequest) : Bool :=
  builder.longTermStore && builder.searchStore && decide (0 < longTermMemoryLimit builder request)

def payloadsAvailable (builder : ContextBuilder) (request : MemoryContextRequest) : Bool :=
  builder.payloadStore && decide (payloadLimit request ≠ 0)

/-- The reads that the sections of a request need. -/
def readsEvents (builder : ContextBuilder) (request : MemoryContextRequest) : Bool :=
  shouldInclude request ContextSections.messages && eventsAvailable builder request

def readsSnapshot (builder : ContextBuilder) (request : MemoryContextRequest) : Bool :=
  shouldInclude request ContextSections.longTerm && longTermAvailable builder request

def readsSearch (builder : ContextBuilder) (request : MemoryContextRequest) : Bool :=
  readsSnapshot builder request && !request.query.isEmpty

def readsPayloads (builder : ContextBuilder) (request : MemoryContextRequest) : Bool :=
  shouldInclude request ContextSections.payloads && payloadsAvailable builder request

/-- What a store replies to the four reads of a build. -/
structure ContextReplies where
  events : MemoryEventsResult := {}
  search : MemorySearchStoreResult := {}
  snapshot : LongTermMemorySnapshotResult := {}
  payloads : MemoryPayloadRefsResult := {}

section Replies

variable (host : ContextHost) (builder : ContextBuilder) (request : MemoryContextRequest)

/-- The connection once the messages are read. -/
def afterContextMessages (c : Connection) : Connection :=
  (contextMessages host.toHost builder request c).2

def contextSearch (c : Connection) : MemorySearchStoreResult × Connection :=
  searchLongTermMemory host.toQueryHost
    (contextSearchRequest request (longTermMemoryLimit builder request)) c

/-- The connection at the read of the snapshot: after the search, if there is one. -/
def beforeSnapshot (c : Connection) : Connection :=
  if request.query.isEmpty then afterContextMessages host builder request c
  else (contextSearch host builder request (afterContextMessages host builder request c)).2

def afterLongTerm (c : Connection) : Connection :=
  (contextLongTerm host.toQueryHost builder request (afterContextMessages host builder request c)).2

/-- Every read that the build of the request from the connection needs gets its reply. -/
structure Replied (c : Connection) (replies : ContextReplies) : Prop where
  events : readsEvents builder request = true →
    (loadRecentEvents host.toHost request.agentId request.sessionId
      (.ofInt (messageLimit request)) c).1 = replies.events
  search : readsSearch builder request = true →
    (contextSearch host builder request (afterContextMessages host builder request c)).1 =
      replies.search
  snapshot : readsSnapshot builder request = true →
    (loadLongTermMemory host.toQueryHost request.agentId
      (.ofInt (longTermMemoryLimit builder request)) request.sessionId
      (beforeSnapshot host builder request c)).1 = replies.snapshot
  payloads : readsPayloads builder request = true →
    (loadRecentPayloads host.toQueryHost request.agentId request.sessionId
      (.ofInt (payloadLimit request)) (afterLongTerm host builder request c)).1 = replies.payloads

end Replies

/-! ## What a build makes of the replies -/

namespace ContextReplies

variable (builder : ContextBuilder) (request : MemoryContextRequest) (replies : ContextReplies)

def eventsError : Option MemoryError :=
  if readsEvents builder request && !replies.events.succeeded then some replies.events.error
  else none

def longTermError : Option MemoryError :=
  if readsSearch builder request && !replies.search.succeeded then some replies.search.error
  else if readsSnapshot builder request && !replies.snapshot.succeeded then
    some replies.snapshot.error
  else none

def payloadsError : Option MemoryError :=
  if readsPayloads builder request && !replies.payloads.succeeded then some replies.payloads.error
  else none

/-- The error of the first needed read that failed. -/
def firstError : Option MemoryError :=
  (replies.eventsError builder request).or
    ((replies.longTermError builder request).or (replies.payloadsError builder request))

def chosenEvents : List MemoryEvent :=
  if readsEvents builder request then
    replies.events.events.filter fun event => event.type = .messageAppended
  else []

/-- The long-term section: the snapshot, or the hits with the records that they name. -/
def selected : SelectedLongTermMemory :=
  if readsSearch builder request then {
    searchResults := replies.search.results
    usedSearch := true
    snapshot := namedRecords replies.search.results replies.snapshot.snapshot }
  else if readsSnapshot builder request then { snapshot := replies.snapshot.snapshot }
  else {}

def chosenPayloads : List MemoryPayloadRef :=
  if readsPayloads builder request then
    choosePayloads (payloadLimit request) (parsePayloadQuery request.query) [] []
      replies.payloads.payloads
  else []

def package (streamFloat : ℚ → Text) : MemoryContextPackage :=
  let pkg := contextPackage streamFloat builder request (replies.chosenEvents builder request)
    (replies.selected builder request)
  if shouldInclude request ContextSections.payloads then
    withPayloads (replies.chosenPayloads builder request) pkg
  else pkg

/-- The result of a build that gets the replies. -/
def result (streamFloat : ℚ → Text) : MemoryContextResult :=
  match replies.firstError builder request with
  | some error => { error }
  | none => { succeeded := true, context := replies.package builder request streamFloat }

end ContextReplies

section Build

variable {host : ContextHost} {builder : ContextBuilder} {request : MemoryContextRequest}
  {c : Connection} {replies : ContextReplies}

/-- The messages section and its reply. -/
theorem contextMessages_replied (h : Replied host builder request c replies) :
    let messages := (contextMessages host.toHost builder request c).1
    (messages.succeeded = true ∧ replies.eventsError builder request = none ∧
        messages.events = replies.chosenEvents builder request) ∨
      (messages.succeeded = false ∧ replies.eventsError builder request = some messages.error) := by
  unfold contextMessages loadMessagesForContext ContextReplies.eventsError
    ContextReplies.chosenEvents
  cases hread : readsEvents builder request with
  | false =>
      simp only [readsEvents, eventsAvailable, Bool.and_eq_false_iff, decide_eq_false_iff_not,
        not_not] at hread
      rcases hread with hinclude | hstore | hlimit
      · simp [hinclude]
      · simp [hstore]
      · simp [hlimit]
  | true =>
      have hreply := h.events hread
      simp only [readsEvents, eventsAvailable, Bool.and_eq_true, decide_eq_true_eq] at hread
      obtain ⟨hinclude, hstore, hlimit⟩ := hread
      rw [← hreply]
      cases hok : (loadRecentEvents host.toHost request.agentId request.sessionId
        (.ofInt (messageLimit request)) c).1.succeeded with
      | true => simp [hinclude, hstore, hlimit, hok]
      | false => simp [hinclude, hstore, hlimit, hok]

/-- The long-term section and its replies. -/
theorem contextLongTerm_replied (h : Replied host builder request c replies) :
    let longTerm := (contextLongTerm host.toQueryHost builder request
      (afterContextMessages host builder request c)).1
    (longTerm.succeeded = true ∧ replies.longTermError builder request = none ∧
        longTerm = replies.selected builder request) ∨
      (longTerm.succeeded = false ∧
        replies.longTermError builder request = some longTerm.error) := by
  unfold ContextReplies.longTermError ContextReplies.selected
  cases hread : readsSnapshot builder request with
  | false =>
      have hsearch : readsSearch builder request = false := by simp [readsSearch, hread]
      have hskip : contextLongTerm host.toQueryHost builder request
          (afterContextMessages host builder request c) =
            ({}, afterContextMessages host builder request c) := by
        simp only [readsSnapshot, longTermAvailable] at hread
        simp only [contextLongTerm, ← Bool.and_assoc] at hread ⊢
        rw [hread]
        rfl
      simp [hskip, hsearch]
  | true =>
      have hsnapshot := h.snapshot hread
      have hinclude := hread
      simp only [readsSnapshot, longTermAvailable, Bool.and_eq_true, decide_eq_true_eq] at hinclude
      obtain ⟨hinclude, ⟨hlongTerm, hstore⟩, hlimit⟩ := hinclude
      have hnot : ¬longTermMemoryLimit builder request ≤ 0 := by omega
      cases hquery : request.query.isEmpty with
      | true =>
          have hsearch : readsSearch builder request = false := by simp [readsSearch, hquery]
          simp only [beforeSnapshot, hquery, if_true] at hsnapshot
          simp only [contextLongTerm, selectLongTermMemory, hinclude, hlongTerm, hstore, hlimit,
            hnot, hquery, hsearch, ← hsnapshot]
          cases hok : (loadLongTermMemory host.toQueryHost request.agentId
            (.ofInt (longTermMemoryLimit builder request)) request.sessionId
            (afterContextMessages host builder request c)).1.succeeded with
          | true => simp
          | false => simp
      | false =>
          have hsearch : readsSearch builder request = true := by simp [readsSearch, hquery, hread]
          have hfound := h.search hsearch
          simp only [beforeSnapshot, hquery, Bool.false_eq_true, if_false] at hsnapshot
          simp only [contextSearch] at hfound hsnapshot
          simp only [contextLongTerm, selectLongTermMemory, hinclude, hlongTerm, hstore, hlimit,
            hnot, hquery, hsearch, ← hsnapshot, ← hfound]
          cases hok : (searchLongTermMemory host.toQueryHost (contextSearchRequest request
            (longTermMemoryLimit builder request))
            (afterContextMessages host builder request c)).1.succeeded with
          | false => simp
          | true =>
              cases hloaded : (loadLongTermMemory host.toQueryHost request.agentId
                (.ofInt (longTermMemoryLimit builder request)) request.sessionId
                (searchLongTermMemory host.toQueryHost (contextSearchRequest request
                  (longTermMemoryLimit builder request))
                  (afterContextMessages host builder request c)).2).1.succeeded with
              | true => simp [namedRecords]
              | false => simp

/-- The payloads section and its reply. -/
theorem loadPayloadsForContext_replied (h : Replied host builder request c replies)
    (hinclude : shouldInclude request ContextSections.payloads = true) :
    let payloads := (loadPayloadsForContext host.toQueryHost builder request
      (afterLongTerm host builder request c)).1
    (payloads.succeeded = true ∧ replies.payloadsError builder request = none ∧
        payloads.payloads = replies.chosenPayloads builder request) ∨
      (payloads.succeeded = false ∧
        replies.payloadsError builder request = some payloads.error) := by
  unfold loadPayloadsForContext ContextReplies.payloadsError ContextReplies.chosenPayloads
  cases hread : readsPayloads builder request with
  | false =>
      simp only [readsPayloads, payloadsAvailable, hinclude, Bool.true_and, Bool.and_eq_false_iff,
        decide_eq_false_iff_not, not_not] at hread
      rcases hread with hstore | hlimit
      · simp [hstore]
      · simp [hlimit]
  | true =>
      have hreply := h.payloads hread
      simp only [readsPayloads, payloadsAvailable, Bool.and_eq_true, decide_eq_true_eq] at hread
      obtain ⟨-, hstore, hlimit⟩ := hread
      rw [← hreply]
      cases hok : (loadRecentPayloads host.toQueryHost request.agentId request.sessionId
        (.ofInt (payloadLimit request)) (afterLongTerm host builder request c)).1.succeeded with
      | true => simp [hstore, hlimit, hok]
      | false => simp [hstore, hlimit, hok]

/-- A build is determined by the replies to the reads that it needs. -/
theorem buildContext_replied (h : Replied host builder request c replies) :
    (buildContext host builder request c).1 = replies.result builder request host.streamFloat := by
  have hmessages := contextMessages_replied h
  have hlongTerm := contextLongTerm_replied h
  have hpayloads := loadPayloadsForContext_replied h
  dsimp only at hmessages hlongTerm hpayloads
  unfold buildContext ContextReplies.result ContextReplies.firstError
  dsimp only
  rcases hmessages with ⟨hok, hnone, hevents⟩ | ⟨hfailed, herror⟩
  · rw [hok, hnone]
    simp only [Bool.not_true, Bool.false_eq_true, if_false, Option.none_or]
    change (if (!(contextLongTerm host.toQueryHost builder request
      (afterContextMessages host builder request c)).1.succeeded) = true then _ else _ :
        MemoryContextResult × Connection).1 = _
    rcases hlongTerm with ⟨hok, hnone, hselected⟩ | ⟨hfailed, herror⟩
    · rw [hok, hnone]
      simp only [Bool.not_true, Bool.false_eq_true, if_false, Option.none_or]
      cases hinclude : shouldInclude request ContextSections.payloads with
      | true =>
          simp only [if_true]
          change (if (!(loadPayloadsForContext host.toQueryHost builder request
            (afterLongTerm host builder request c)).1.succeeded) = true then _ else _ :
              MemoryContextResult × Connection).1 = _
          rcases hpayloads hinclude with ⟨hok, hnone, hchosen⟩ | ⟨hfailed, herror⟩
          · rw [hok, hnone, ContextReplies.package, ← hevents, ← hselected, ← hchosen, hinclude]
            rfl
          · rw [hfailed, herror]
            rfl
      | false =>
          have hread : replies.payloadsError builder request = none := by
            simp [ContextReplies.payloadsError, readsPayloads, hinclude]
          rw [hread, ContextReplies.package, ← hevents, ← hselected, hinclude]
          rfl
    · rw [hfailed, herror]
      rfl
  · rw [hfailed, herror]
    rfl

end Build

/-! ## A store that does not change -/

section FixedStore

theorem afterContextMessages_current (host : ContextHost) (builder : ContextBuilder)
    (request : MemoryContextRequest) (c : Connection) :
    (afterContextMessages host builder request c).current = c.current :=
  contextMessages_current host.toQueryHost builder request c

theorem loadLongTermMemory_current (host : QueryHost) (agentId : Text) (limit : Int32)
    (sessionId : Text) (c : Connection) :
    (loadLongTermMemory host agentId limit sessionId c).2.current = c.current := by
  unfold loadLongTermMemory
  dsimp only
  rcases selectRows_cases host.toHost (fun db => (host.summaryOrder.top (effectiveLimit limit 100)
    (summariesOf agentId sessionId db)).map (readSummaryRow host.toHost)) c with
    ⟨-, hrun⟩ | ⟨-, hrun⟩
  · rw [hrun]
    dsimp only
    rcases selectRows_cases host.toHost (fun db => (host.entityOrder.top (effectiveLimit limit 100)
      (activeEntities agentId db)).map (readEntityRow host.toHost))
      { c with clock := c.clock + 1 } with ⟨-, hrun⟩ | ⟨-, hrun⟩
    · rw [hrun]
      dsimp only
      rcases selectRows_cases host.toHost (fun db => (host.relationOrder.top
        (effectiveLimit limit 100) (activeRelations agentId db)).map (readRelationRow host.toHost))
        { c with clock := c.clock + 1 + 1 } with ⟨-, hrun⟩ | ⟨-, hrun⟩
      · rw [hrun]
      · rw [hrun]
    · rw [hrun]
  · rw [hrun]

theorem contextLongTerm_current (host : QueryHost) (builder : ContextBuilder)
    (request : MemoryContextRequest) (c : Connection) :
    (contextLongTerm host builder request c).2.current = c.current := by
  have hload : ∀ c', (loadLongTermMemory host request.agentId
      (.ofInt (longTermMemoryLimit builder request)) request.sessionId c').2.current = c'.current :=
    fun c' => loadLongTermMemory_current host _ _ _ c'
  have hsearch := searchLongTermMemory_current host
    (contextSearchRequest request (longTermMemoryLimit builder request)) c
  unfold contextLongTerm selectLongTermMemory
  dsimp only
  split_ifs
  · rfl
  · exact hload c
  · exact hload c
  · exact hsearch
  · exact (hload _).trans hsearch
  · exact (hload _).trans hsearch
  · rfl

theorem afterLongTerm_current (host : ContextHost) (builder : ContextBuilder)
    (request : MemoryContextRequest) (c : Connection) :
    (afterLongTerm host builder request c).current = c.current :=
  (contextLongTerm_current host.toQueryHost builder request _).trans
    (afterContextMessages_current host builder request c)

theorem beforeSnapshot_current (host : ContextHost) (builder : ContextBuilder)
    (request : MemoryContextRequest) (c : Connection) :
    (beforeSnapshot host builder request c).current = c.current := by
  unfold beforeSnapshot contextSearch
  split
  · exact afterContextMessages_current host builder request c
  · exact (searchLongTermMemory_current host.toQueryHost _ _).trans
      (afterContextMessages_current host builder request c)

variable {host : ContextHost}

/-- The hits before they are sorted, if no statement is refused. -/
theorem findHits_of_accepts (haccepts : ∀ n, host.Accepts n) (request : MemorySearchRequest)
    (limit : ℕ) (db : Database) : ∃ hits, ∀ c : Connection, c.current = db →
      (findHits host.toQueryHost request limit c).1 = .ok hits := by
  have hlike : ∀ c : Connection, c.current = db →
      (runLikeQueries host.toQueryHost (likeQueries host.toQueryHost request limit) [] c).1 =
        .ok (hitsOf (likeQueries host.toQueryHost request limit) db) := by
    rintro c rfl
    rw [runLikeQueries_of_accepts _ _ _ fun _ _ => haccepts _]
    rfl
  by_cases hquery : fts5EscapeQuery request.query = []
  · refine ⟨hitsOf (likeQueries host.toQueryHost request limit) db, fun c hc => ?_⟩
    simpa [findHits, hquery] using hlike c hc
  · have hfts : ∀ c : Connection, c.current = db → runFtsQueries host.toQueryHost
        (ftsQueries host.toQueryHost request (cStr (fts5EscapeQuery request.query)) limit) [] c =
          (.ok (hitsOf (ftsQueries host.toQueryHost request
            (cStr (fts5EscapeQuery request.query)) limit) db), { c with clock := c.clock + 3 }) := by
      rintro c rfl
      rw [runFtsQueries_of_accepts _ _ _ fun _ _ => haccepts _]
      rfl
    by_cases hnil : hitsOf (ftsQueries host.toQueryHost request
        (cStr (fts5EscapeQuery request.query)) limit) db = []
    · refine ⟨hitsOf (likeQueries host.toQueryHost request limit) db, fun c hc => ?_⟩
      simpa [findHits, hquery, hfts c hc, hnil] using hlike { c with clock := c.clock + 3 } hc
    · refine ⟨hitsOf (ftsQueries host.toQueryHost request
        (cStr (fts5EscapeQuery request.query)) limit) db, fun c hc => ?_⟩
      simp [findHits, hquery, hfts c hc, hnil]

/-- A store that refuses nothing replies the same to a search at any time. -/
theorem searchLongTermMemory_of_accepts (haccepts : ∀ n, host.Accepts n)
    (request : MemorySearchRequest) (db : Database) :
    ∃ reply : MemorySearchStoreResult, reply.succeeded = true ∧ ∀ c : Connection, c.current = db →
      (searchLongTermMemory host.toQueryHost request c).1 = reply := by
  by_cases hquery : request.query.isEmpty = true
  · exact ⟨{ succeeded := true }, rfl, fun c _ => by simp [searchLongTermMemory, hquery]⟩
  · obtain ⟨hits, hhits⟩ := findHits_of_accepts haccepts request
      (effectiveLimit request.limit 10) db
    refine ⟨{
      succeeded := true
      results := sortAndLimitSearchResults host.toQueryHost hits
        (effectiveLimit request.limit 10) }, rfl, fun c hc => ?_⟩
    have hfound := hhits c hc
    simp only [searchLongTermMemory, hquery, Bool.false_eq_true, if_false]
    generalize findHits host.toQueryHost request (effectiveLimit request.limit 10) c = found
      at hfound ⊢
    obtain ⟨found, c'⟩ := found
    cases hfound
    rfl

/-- A store that refuses nothing replies the same to every read at any time. -/
theorem exists_replied_of_accepts (haccepts : ∀ n, host.Accepts n) (builder : ContextBuilder)
    (request : MemoryContextRequest) (db : Database) :
    ∃ replies : ContextReplies, replies.events.succeeded = true ∧
      replies.search.succeeded = true ∧ replies.snapshot.succeeded = true ∧
      replies.payloads.succeeded = true ∧ ∀ sections (c : Connection), c.current = db →
        Replied host builder { request with includeSections := sections } c replies := by
  obtain ⟨search, hsearch, hfound⟩ := searchLongTermMemory_of_accepts haccepts
    (contextSearchRequest request (longTermMemoryLimit builder request)) db
  have hselect : ∀ n, (host.outcome n).accepted = true := haccepts
  refine ⟨{
    events := (loadRecentEvents host.toHost request.agentId request.sessionId
      (.ofInt (messageLimit request)) { current := db }).1
    search := search
    snapshot := (loadLongTermMemory host.toQueryHost request.agentId
      (.ofInt (longTermMemoryLimit builder request)) request.sessionId { current := db }).1
    payloads := (loadRecentPayloads host.toQueryHost request.agentId request.sessionId
      (.ofInt (payloadLimit request)) { current := db }).1 }, ?_, hsearch, ?_, ?_, ?_⟩
  · simp [loadRecentEvents, select, hselect]
  · simp [loadLongTermMemory_of_accepts fun _ _ => haccepts _]
  · simp [loadRecentPayloads, select, hselect]
  · rintro sections c rfl
    constructor
    · intro _
      simp [loadRecentEvents, select, hselect, messageLimit]
    · intro _
      exact hfound _ (afterContextMessages_current host builder _ c)
    · intro _
      rw [loadLongTermMemory_of_accepts fun _ _ => haccepts _,
        loadLongTermMemory_of_accepts fun _ _ => haccepts _, beforeSnapshot_current]
      rfl
    · intro _
      simp [loadRecentPayloads, select, hselect, afterLongTerm_current, payloadLimit]

end FixedStore

/-! ## Each section by itself -/

section Included

variable {request : MemoryContextRequest}

theorem shouldInclude_messages (h : request.includeSections ≠ []) :
    shouldInclude request ContextSections.messages = namesMessages request.includeSections := by
  rw [Bool.eq_iff_iff]
  simp [shouldInclude, namesMessages, h, ContextSections.messages, ContextSections.payloads,
    ContextSections.longTerm]

theorem shouldInclude_longTerm (h : request.includeSections ≠ []) :
    shouldInclude request ContextSections.longTerm = namesLongTerm request.includeSections := by
  rw [Bool.eq_iff_iff]
  simp [shouldInclude, namesLongTerm, h, ContextSections.payloads, ContextSections.longTerm,
    ContextSections.longTermMemory, and_or_left, exists_or]

theorem shouldInclude_payloads (h : request.includeSections ≠ []) :
    shouldInclude request ContextSections.payloads = namesPayloads request.includeSections := by
  rw [Bool.eq_iff_iff]
  simp [shouldInclude, namesPayloads, h, ContextSections.payloads, ContextSections.payload,
    ContextSections.longTerm, and_or_left, exists_or]

end Included

/-- Two texts with a newline between them if there are two. -/
def joined (text overview : Text) : Text :=
  text ++ (if text.isEmpty || overview.isEmpty then [] else ascii "\n") ++ overview

theorem payloadOverview_eq (text : Text) (payloads : List MemoryPayloadRef) :
    payloadOverview text payloads = joined text (payloadOverview [] payloads) := by
  cases payloads with
  | nil => simp [payloadOverview, appendSection, joined]
  | cons payload rest =>
      have hheading : ascii "## Offloaded Payloads\n\n" ≠ [] := by decide
      simp [payloadOverview, appendSection, joined, hheading]

theorem withPayloads_memoryText (payloads : List MemoryPayloadRef) (pkg : MemoryContextPackage) :
    (withPayloads payloads pkg).memoryText =
      joined pkg.memoryText (payloadOverview [] payloads) := by
  rw [← payloadOverview_eq]
  cases payloads with
  | nil => rfl
  | cons payload rest => rfl

@[simp] theorem withPayloads_citations (payloads : List MemoryPayloadRef)
    (pkg : MemoryContextPackage) : (withPayloads payloads pkg).citations = pkg.citations := by
  unfold withPayloads
  split <;> rfl

theorem withPayloads_payloadRefs (payloads : List MemoryPayloadRef) {pkg : MemoryContextPackage}
    (h : pkg.payloadRefs = []) : (withPayloads payloads pkg).payloadRefs = payloads := by
  cases payloads with
  | nil => exact h
  | cons payload rest => rfl

section Package

variable (builder : ContextBuilder) (request : MemoryContextRequest) (replies : ContextReplies)
  (streamFloat : ℚ → Text)

/-- The text of the long-term section. -/
def ContextReplies.longTermText : Text :=
  (renderLongTermMemory streamFloat (replies.selected builder request)).1

/-- What each section contributes to a package. -/
structure BuiltOf (pkg : MemoryContextPackage) : Prop where
  messages : pkg.messages = (replies.chosenEvents builder request).map contextMessage
  entities : pkg.entities = (replies.selected builder request).snapshot.entities
  relations : pkg.relations = (replies.selected builder request).snapshot.relations
  citations : pkg.citations =
    (renderLongTermMemory streamFloat (replies.selected builder request)).2
  payloadRefs : pkg.payloadRefs = replies.chosenPayloads builder request
  memoryText : pkg.memoryText = joined (replies.longTermText builder request streamFloat)
    (payloadOverview [] (replies.chosenPayloads builder request))

theorem package_builtOf : BuiltOf builder request replies streamFloat
    (replies.package builder request streamFloat) := by
  unfold ContextReplies.package
  cases hinclude : shouldInclude request ContextSections.payloads with
  | true =>
      simp only [if_true]
      exact ⟨withPayloads_messages _ _, withPayloads_entities _ _, withPayloads_relations _ _,
        withPayloads_citations _ _, withPayloads_payloadRefs _ rfl, withPayloads_memoryText _ _⟩
  | false =>
      have hnone : replies.chosenPayloads builder request = [] := by
        simp [ContextReplies.chosenPayloads, readsPayloads, hinclude]
      refine ⟨rfl, rfl, rfl, rfl, hnone.symm, ?_⟩
      rw [hnone]
      simp only [joined, payloadOverview, appendSection, List.map_nil, List.isEmpty_nil, if_true,
        Bool.or_true, List.append_nil]
      rfl

variable {builder request replies}

/-- The messages are those of the full build, or are left out; and the same for the others. -/
theorem chosenEvents_eq (h : request.includeSections ≠ []) :
    replies.chosenEvents builder request =
      if namesMessages request.includeSections then replies.chosenEvents builder request.full
      else [] := by
  have hfull : readsEvents builder request.full = eventsAvailable builder request := rfl
  unfold ContextReplies.chosenEvents
  rw [readsEvents, shouldInclude_messages h, hfull]
  cases namesMessages request.includeSections <;> rfl

theorem selected_eq (h : request.includeSections ≠ []) :
    replies.selected builder request =
      if namesLongTerm request.includeSections then replies.selected builder request.full
      else {} := by
  have hfull : readsSnapshot builder request.full = longTermAvailable builder request := rfl
  unfold ContextReplies.selected readsSearch
  rw [readsSnapshot, shouldInclude_longTerm h, hfull]
  cases namesLongTerm request.includeSections <;> rfl

theorem chosenPayloads_eq (h : request.includeSections ≠ []) :
    replies.chosenPayloads builder request =
      if namesPayloads request.includeSections then replies.chosenPayloads builder request.full
      else [] := by
  have hfull : readsPayloads builder request.full = payloadsAvailable builder request := rfl
  unfold ContextReplies.chosenPayloads
  rw [readsPayloads, shouldInclude_payloads h, hfull]
  cases namesPayloads request.includeSections <;> rfl

/-- A package is the restriction of the full one to the named sections. -/
structure Restricts (sections : List Text) (longTermText : Text)
    (full pkg : MemoryContextPackage) : Prop where
  messages : pkg.messages = if namesMessages sections then full.messages else []
  entities : pkg.entities = if namesLongTerm sections then full.entities else []
  relations : pkg.relations = if namesLongTerm sections then full.relations else []
  citations : pkg.citations = if namesLongTerm sections then full.citations else []
  payloadRefs : pkg.payloadRefs = if namesPayloads sections then full.payloadRefs else []
  memoryText : pkg.memoryText = joined (if namesLongTerm sections then longTermText else [])
    (if namesPayloads sections then payloadOverview [] full.payloadRefs else [])
  fullText : full.memoryText = joined longTermText (payloadOverview [] full.payloadRefs)

theorem package_restricts (h : request.includeSections ≠ []) :
    Restricts request.includeSections (replies.longTermText builder request.full streamFloat)
      (replies.package builder request.full streamFloat)
      (replies.package builder request streamFloat) := by
  have hpkg := package_builtOf builder request replies streamFloat
  have hfull := package_builtOf builder request.full replies streamFloat
  constructor
  · rw [hpkg.messages, hfull.messages, chosenEvents_eq h]
    split <;> rfl
  · rw [hpkg.entities, hfull.entities, selected_eq h]
    split <;> rfl
  · rw [hpkg.relations, hfull.relations, selected_eq h]
    split <;> rfl
  · rw [hpkg.citations, hfull.citations, selected_eq h]
    split <;> rfl
  · rw [hpkg.payloadRefs, hfull.payloadRefs, chosenPayloads_eq h]
  · rw [hpkg.memoryText, hfull.payloadRefs, ContextReplies.longTermText, selected_eq h,
      chosenPayloads_eq h]
    congr 1
    · split <;> rfl
    · split <;> rfl
  · rw [hfull.memoryText, hfull.payloadRefs]

end Package

/-! ## Independence -/

/-- The replies are the same where the request needs them. -/
structure AgreeOn (builder : ContextBuilder) (request : MemoryContextRequest)
    (replies replies' : ContextReplies) : Prop where
  events : readsEvents builder request = true → replies'.events = replies.events
  search : readsSearch builder request = true → replies'.search = replies.search
  snapshot : readsSnapshot builder request = true → replies'.snapshot = replies.snapshot
  payloads : readsPayloads builder request = true → replies'.payloads = replies.payloads

section Agree

variable {builder : ContextBuilder} {request : MemoryContextRequest}
  {replies replies' : ContextReplies}

theorem readsSnapshot_of_search (h : readsSearch builder request = true) :
    readsSnapshot builder request = true := by
  simp only [readsSearch, Bool.and_eq_true] at h
  exact h.1

theorem eventsSection_congr (h : AgreeOn builder request replies replies') :
    replies'.eventsError builder request = replies.eventsError builder request ∧
      replies'.chosenEvents builder request = replies.chosenEvents builder request := by
  unfold ContextReplies.eventsError ContextReplies.chosenEvents
  cases hread : readsEvents builder request with
  | false => exact ⟨rfl, rfl⟩
  | true =>
      rw [h.events hread]
      exact ⟨rfl, rfl⟩

theorem longTermSection_congr (h : AgreeOn builder request replies replies') :
    replies'.longTermError builder request = replies.longTermError builder request ∧
      replies'.selected builder request = replies.selected builder request := by
  unfold ContextReplies.longTermError ContextReplies.selected
  cases hsearch : readsSearch builder request with
  | true =>
      rw [h.search hsearch, h.snapshot (readsSnapshot_of_search hsearch)]
      exact ⟨rfl, rfl⟩
  | false =>
      cases hread : readsSnapshot builder request with
      | false => exact ⟨rfl, rfl⟩
      | true =>
          rw [h.snapshot hread]
          exact ⟨rfl, rfl⟩

theorem payloadsSection_congr (h : AgreeOn builder request replies replies') :
    replies'.payloadsError builder request = replies.payloadsError builder request ∧
      replies'.chosenPayloads builder request = replies.chosenPayloads builder request := by
  unfold ContextReplies.payloadsError ContextReplies.chosenPayloads
  cases hread : readsPayloads builder request with
  | false => exact ⟨rfl, rfl⟩
  | true =>
      rw [h.payloads hread]
      exact ⟨rfl, rfl⟩

/-- The result does not depend on replies to reads that are not needed. -/
theorem result_congr (h : AgreeOn builder request replies replies') (streamFloat : ℚ → Text) :
    replies'.result builder request streamFloat = replies.result builder request streamFloat := by
  obtain ⟨heventsError, hevents⟩ := eventsSection_congr h
  obtain ⟨hlongTermError, hselected⟩ := longTermSection_congr h
  obtain ⟨hpayloadsError, hchosen⟩ := payloadsSection_congr h
  unfold ContextReplies.result ContextReplies.firstError ContextReplies.package
  rw [heventsError, hlongTermError, hpayloadsError, hevents, hselected, hchosen]

theorem firstError_eq_none_iff : replies.firstError builder request = none ↔
    (readsEvents builder request = true → replies.events.succeeded = true) ∧
      (readsSearch builder request = true → replies.search.succeeded = true) ∧
      (readsSnapshot builder request = true → replies.snapshot.succeeded = true) ∧
      (readsPayloads builder request = true → replies.payloads.succeeded = true) := by
  have hevents : replies.eventsError builder request = none ↔
      (readsEvents builder request = true → replies.events.succeeded = true) := by
    simp [ContextReplies.eventsError]
  have hlongTerm : replies.longTermError builder request = none ↔
      (readsSearch builder request = true → replies.search.succeeded = true) ∧
        (readsSnapshot builder request = true → replies.snapshot.succeeded = true) := by
    unfold ContextReplies.longTermError
    split
    · next hfailed =>
        rw [Bool.and_eq_true, Bool.not_eq_true'] at hfailed
        simp [hfailed.1, hfailed.2]
    · next hok =>
        rw [and_iff_right (by simpa using hok)]
        simp
  have hpayloads : replies.payloadsError builder request = none ↔
      (readsPayloads builder request = true → replies.payloads.succeeded = true) := by
    simp [ContextReplies.payloadsError]
  rw [ContextReplies.firstError, Option.or_eq_none_iff, Option.or_eq_none_iff, hevents, hlongTerm,
    hpayloads, and_assoc]

/-- A request needs no other reads than the full one. -/
theorem firstError_of_full (h : replies.firstError builder request.full = none) :
    replies.firstError builder request = none := by
  rw [firstError_eq_none_iff] at h ⊢
  obtain ⟨hevents, hsearch, hsnapshot, hpayloads⟩ := h
  have hsnapshotFull : readsSnapshot builder request = true →
      readsSnapshot builder request.full = true := by
    intro hread
    exact (Bool.and_eq_true _ _ ▸ hread : _ ∧ _).2
  refine ⟨fun hread => hevents ?_, fun hread => hsearch ?_,
    fun hread => hsnapshot (hsnapshotFull hread), fun hread => hpayloads ?_⟩
  · exact (Bool.and_eq_true _ _ ▸ hread : _ ∧ _).2
  · rw [readsSearch, Bool.and_eq_true] at hread ⊢
    exact ⟨hsnapshotFull hread.1, hread.2⟩
  · exact (Bool.and_eq_true _ _ ▸ hread : _ ∧ _).2

end Agree

/-- Which sections are named decides what a build returns, each section by itself. -/
structure SectionsIndependent (builder : ContextBuilder) (request : MemoryContextRequest) :
    Prop where
  /-- With a store that replies to both builds the same, and to all reads with success. -/
  restricts : ∀ (host host' : ContextHost) (c c' : Connection) (replies : ContextReplies),
    host'.streamFloat = host.streamFloat → Replied host builder request c replies →
    Replied host' builder request.full c' replies →
    replies.firstError builder request.full = none →
      ∃ pkg full,
        (buildContext host builder request c).1 = { succeeded := true, context := pkg } ∧
        (buildContext host' builder request.full c').1 = { succeeded := true, context := full } ∧
        Restricts request.includeSections
          (replies.longTermText builder request.full host.streamFloat) full pkg
  /-- The error of the first read that fails, of those that a named section needs. -/
  fails : ∀ (host : ContextHost) (c : Connection) (replies : ContextReplies) (error : MemoryError),
    Replied host builder request c replies → replies.firstError builder request = some error →
      (buildContext host builder request c).1 = { error }
  /-- What other reads reply makes no difference, nor whether they fail. -/
  unaffected : ∀ (host host' : ContextHost) (c c' : Connection) (replies replies' : ContextReplies),
    host'.streamFloat = host.streamFloat → Replied host builder request c replies →
    Replied host' builder request c' replies' → AgreeOn builder request replies replies' →
      (buildContext host' builder request c').1 = (buildContext host builder request c).1
  /-- A store that refuses nothing replies the same whenever it is asked. -/
  fixed : ∀ (host : ContextHost) (db : Database), (∀ n, host.Accepts n) →
    ∃ replies : ContextReplies, replies.firstError builder request.full = none ∧
      ∀ c : Connection, c.current = db →
        Replied host builder request c replies ∧ Replied host builder request.full c replies

theorem buildContext_sectionsIndependent (builder : ContextBuilder)
    (request : MemoryContextRequest) (hsections : request.includeSections ≠ []) :
    SectionsIndependent builder request where
  restricts host host' c c' replies hfloat hreplied hfull hok := by
    refine ⟨replies.package builder request host.streamFloat,
      replies.package builder request.full host.streamFloat, ?_, ?_,
      package_restricts host.streamFloat hsections⟩
    · rw [buildContext_replied hreplied, ContextReplies.result, firstError_of_full hok]
    · rw [buildContext_replied hfull, ContextReplies.result, hok, hfloat]
  fails host c replies error hreplied herror := by
    rw [buildContext_replied hreplied, ContextReplies.result, herror]
  unaffected host host' c c' replies replies' hfloat hreplied hreplied' hagree := by
    rw [buildContext_replied hreplied, buildContext_replied hreplied', hfloat,
      result_congr hagree]
  fixed host db haccepts := by
    obtain ⟨replies, hevents, hsearch, hsnapshot, hpayloads, hreplied⟩ :=
      exists_replied_of_accepts haccepts builder request db
    refine ⟨replies, ?_, fun c hc => ⟨hreplied request.includeSections c hc, hreplied [] c hc⟩⟩
    rw [firstError_eq_none_iff]
    exact ⟨fun _ => hevents, fun _ => hsearch, fun _ => hsnapshot, fun _ => hpayloads⟩

/-- A request that names the payloads by their alias, twice, and a section that there is not. -/
def aliasRequest : MemoryContextRequest where
  agentId := ascii "alice"
  query := ascii "tea"
  includeSections := [ascii "payload", ascii "summaries", ascii "payload"]

theorem buildContext_sectionsIndependent_alias : SectionsIndependent {} aliasRequest :=
  buildContext_sectionsIndependent {} aliasRequest (by simp [aliasRequest])

end AgentMemory
