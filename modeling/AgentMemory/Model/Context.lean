import AgentMemory.Model.Codec

/-! # The context builder

`BuildContext` reads recent messages, selects long-term memory by a search or from a snapshot,
and lists payloads. It changes no table. -/

namespace AgentMemory

open Foundation

/-- How `operator<<` prints a `float` is outside of the repository, too. -/
structure ContextHost extends QueryHost where
  streamFloat : ℚ → Text

/-- The configured token budget, and which of the four stores are not null. -/
structure ContextBuilder where
  tokenBudget : Int32 := 4096
  eventStore : Bool := true
  payloadStore : Bool := true
  longTermStore : Bool := true
  searchStore : Bool := true

/-! ## Sections and limits -/

namespace ContextSections

def messages : String := "messages"
def payloads : String := "payloads"
def payload : String := "payload"
def longTerm : String := "long_term"
def longTermMemory : String := "long_term_memory"

end ContextSections

def shouldInclude (request : MemoryContextRequest) (name : String) : Bool :=
  request.includeSections.isEmpty || request.includeSections.any fun item =>
    item == ascii name ||
      (name == ContextSections.payloads && item == ascii ContextSections.payload) ||
      (name == ContextSections.longTerm && item == ascii ContextSections.longTermMemory)

/-- `request.tokenBudget > 0 ? request.tokenBudget : config_.tokenBudget`. -/
def effectiveTokenBudget (builder : ContextBuilder) (request : MemoryContextRequest) : ℤ :=
  if 0 < request.tokenBudget.toInt then request.tokenBudget.toInt else builder.tokenBudget.toInt

def longTermMemoryLimit (builder : ContextBuilder) (request : MemoryContextRequest) : ℤ :=
  let configuredLimit := metadataInt request.metadata "long_term_limit" (-1)
  if 0 ≤ configuredLimit then configuredLimit
  else
    let tokenBudget := effectiveTokenBudget builder request
    if tokenBudget ≤ 0 then 20 else max 1 (min 50 (tokenBudget.tdiv 200))

def messageLimit (request : MemoryContextRequest) : ℤ :=
  max 0 (metadataInt request.metadata "message_limit" 20)

def payloadLimit (request : MemoryContextRequest) : ℤ :=
  max 0 (metadataInt request.metadata "payload_limit" 20)

/-! ## Messages -/

def loadMessagesForContext (host : Host) (builder : ContextBuilder)
    (request : MemoryContextRequest) (c : Connection) : MemoryEventsResult × Connection :=
  let limit := messageLimit request
  if !builder.eventStore || limit = 0 then ({ succeeded := true }, c)
  else
    match loadRecentEvents host request.agentId request.sessionId (.ofInt limit) c with
    | (events, c) =>
        if !events.succeeded then (events, c)
        else ({
          succeeded := true
          events := events.events.filter fun event => event.type = .messageAppended }, c)

def contextMessage (event : MemoryEvent) : MemoryMessage where
  role := event.role
  content := event.content
  toolCallId := event.toolCallId
  toolName := event.toolName
  payloadRef := event.payloadRef

/-! ## Long-term memory -/

structure SelectedLongTermMemory where
  succeeded : Bool := true
  snapshot : LongTermMemorySnapshot := {}
  searchResults : List MemorySearchHit := []
  usedSearch : Bool := false
  error : MemoryError := {}

def relationIdMatches (relation : MemoryRelation) (resultId : Text) : Bool :=
  relation.id == resultId || ascii "relation:" ++ relation.id == resultId

/-- The ids of the hits of one type. -/
def hitIds (type : String) (hits : List MemorySearchHit) : List Text :=
  (hits.filter fun hit => hit.type == ascii type).map (·.id)

def contextSearchRequest (request : MemoryContextRequest) (limit : ℤ) : MemorySearchRequest where
  agentId := request.agentId
  sessionId := request.sessionId
  query := request.query
  limit := .ofInt limit

def selectLongTermMemory (host : QueryHost) (builder : ContextBuilder)
    (request : MemoryContextRequest) (limit : ℤ) (c : Connection) :
    SelectedLongTermMemory × Connection :=
  if !builder.longTermStore || !builder.searchStore || limit ≤ 0 then ({}, c)
  else if request.query.isEmpty then
    match loadLongTermMemory host request.agentId (.ofInt limit) request.sessionId c with
    | (snapshot, c) =>
        if !snapshot.succeeded then ({ succeeded := false, error := snapshot.error }, c)
        else ({ snapshot := snapshot.snapshot }, c)
  else
    match searchLongTermMemory host (contextSearchRequest request limit) c with
    | (searchResult, c) =>
        if !searchResult.succeeded then ({ succeeded := false, error := searchResult.error }, c)
        else
          match loadLongTermMemory host request.agentId (.ofInt limit) request.sessionId c with
          | (snapshotResult, c) =>
              if !snapshotResult.succeeded then
                ({ succeeded := false
                   searchResults := searchResult.results
                   usedSearch := true
                   error := snapshotResult.error }, c)
              else
                let entityIds := hitIds "entity" searchResult.results
                let relationIds := hitIds "relation" searchResult.results
                ({ searchResults := searchResult.results
                   usedSearch := true
                   snapshot := {
                    entities := snapshotResult.snapshot.entities.filter fun entity =>
                      entityIds.contains entity.id
                    relations := snapshotResult.snapshot.relations.filter fun relation =>
                      relationIds.any (relationIdMatches relation) } }, c)

/-! ### Rendering -/

def addUniqueCitation (citations : List Text) (citation : Text) : List Text :=
  if !citation.isEmpty && !citations.contains citation then citations ++ [citation] else citations

def addUniqueCitations (citations refs : List Text) : List Text :=
  refs.foldl addUniqueCitation citations

/-- A heading and its lines, after an empty line if there is text before. -/
def appendSection (text heading : Text) (lines : List Text) : Text :=
  if lines.isEmpty then text
  else text ++ (if text.isEmpty then [] else ascii "\n") ++ heading ++ lines.flatten

section Format

variable (streamFloat : ℚ → Text)

def confidenceText (confidence : ℚ) : Text :=
  ascii " (confidence=" ++ streamFloat confidence ++ ascii ")\n"

def formatLongTermSnapshot (snapshot : LongTermMemorySnapshot) : Text :=
  let text := appendSection [] (ascii "## Long-term Summaries\n") (snapshot.summaries.map fun s =>
    ascii "- [" ++ s.level ++ ascii "] " ++ s.topic ++ ascii ": " ++ s.summary ++
      confidenceText streamFloat s.confidence)
  let text := appendSection text (ascii "## Memory Entities\n") (snapshot.entities.map fun e =>
    ascii "- " ++ e.id ++ ascii " (" ++ e.entityType ++ ascii ", " ++ e.name ++ ascii "): " ++
      e.summary ++ confidenceText streamFloat e.confidence)
  appendSection text (ascii "## Memory Relations\n") (snapshot.relations.map fun r =>
    ascii "- " ++ r.fromEntityId ++ ascii " " ++ r.relationType ++ ascii " " ++ r.toEntityId ++
      confidenceText streamFloat r.confidence)

end Format

def formatSearchResults (searchResults : List MemorySearchHit) : Text :=
  appendSection [] (ascii "## Relevant Long-Term Memory\n") (searchResults.map fun item =>
    ascii "- [" ++ item.type ++ ascii "] " ++ item.content ++ ascii "\n")

def collectSnapshotCitations (citations : List Text) (snapshot : LongTermMemorySnapshot) :
    List Text :=
  addUniqueCitations citations (snapshot.summaries.flatMap (·.sourceRefs) ++
    snapshot.entities.flatMap (·.sourceRefs) ++ snapshot.relations.flatMap (·.sourceRefs))

def collectSearchCitations (citations : List Text) (searchResults : List MemorySearchHit) :
    List Text :=
  addUniqueCitations citations (searchResults.flatMap (·.sourceRefs))

/-- The text and the citations. -/
def renderLongTermMemory (streamFloat : ℚ → Text) (selected : SelectedLongTermMemory) :
    Text × List Text :=
  let citations := collectSnapshotCitations [] selected.snapshot
  if selected.usedSearch then
    (formatSearchResults selected.searchResults,
      collectSearchCitations citations selected.searchResults)
  else (formatLongTermSnapshot streamFloat selected.snapshot, citations)

/-! ## Payloads -/

/-- `ParsePayloadQuery`: the words of the query in lower case. -/
def parsePayloadQuery (query : Text) : List Text :=
  ((query.splitOnP isSpace).filter fun term => !term.isEmpty).map toLower

def matchesPayloadQuery (payload : MemoryPayloadRef) (terms : List Text) : Bool :=
  terms.all fun term => contains (toLower (payload.uri ++ ascii "\n" ++ payload.toolName ++
    ascii "\n" ++ payload.summary ++ ascii "\n" ++ payload.contentType)) term

/-- The loop of `LoadPayloadsForContext`. -/
def choosePayloads (limit : ℤ) (terms : List Text) :
    List Text → List MemoryPayloadRef → List MemoryPayloadRef → List MemoryPayloadRef
  | _, chosen, [] => chosen
  | seen, chosen, payload :: rest =>
      if seen.contains payload.uri then choosePayloads limit terms seen chosen rest
      else
        let seen := payload.uri :: seen
        if !matchesPayloadQuery payload terms then choosePayloads limit terms seen chosen rest
        else
          let chosen := chosen ++ [payload]
          if 0 < limit && limit ≤ toInt32 chosen.length then chosen
          else choosePayloads limit terms seen chosen rest

def loadPayloadsForContext (host : QueryHost) (builder : ContextBuilder)
    (request : MemoryContextRequest) (c : Connection) : MemoryPayloadRefsResult × Connection :=
  let limit := payloadLimit request
  if limit = 0 || !builder.payloadStore then ({ succeeded := true }, c)
  else
    match loadRecentPayloads host request.agentId request.sessionId (.ofInt limit) c with
    | (payloads, c) =>
        if !payloads.succeeded then (payloads, c)
        else ({
          succeeded := true
          payloads := choosePayloads limit (parsePayloadQuery request.query) [] []
            payloads.payloads }, c)

def payloadOverview (memoryText : Text) (payloads : List MemoryPayloadRef) : Text :=
  appendSection memoryText (ascii "## Offloaded Payloads\n\n") (payloads.map fun p =>
    ascii "- uri: " ++ p.uri ++ ascii ", tool: " ++ p.toolName ++ ascii ", chars: " ++
      decimal p.originalChars ++ ascii ", summary: " ++ p.summary ++ ascii "\n")

/-! ## `BuildContext` -/

/-- The statistics of a package before its payloads. -/
def contextMetadata (builder : ContextBuilder) (request : MemoryContextRequest)
    (pkg : MemoryContextPackage) : Json :=
  let metadata := Json.ofMembers [("message_count", .unsigned pkg.messages.length),
    ("agentId", .string request.agentId), ("sessionId", .string request.sessionId),
    ("tokenBudget", .integer (effectiveTokenBudget builder request)),
    ("long_term_limit", .integer (longTermMemoryLimit builder request)),
    ("include_count", .unsigned request.includeSections.length),
    ("query_applied", .boolean !request.query.isEmpty)]
  let metadata := if pkg.citations.isEmpty then metadata
    else metadata.set (ascii "citation_count") (.unsigned pkg.citations.length)
  (metadata.set (ascii "entity_count") (.unsigned pkg.entities.length)).set
    (ascii "relation_count") (.unsigned pkg.relations.length)

def withMetadata (builder : ContextBuilder) (request : MemoryContextRequest)
    (pkg : MemoryContextPackage) : MemoryContextPackage :=
  { pkg with metadata := contextMetadata builder request pkg }

def withPayloads (payloads : List MemoryPayloadRef) (pkg : MemoryContextPackage) :
    MemoryContextPackage :=
  if payloads.isEmpty then
    { pkg with metadata := pkg.metadata.set (ascii "payload_count") (.integer 0) }
  else
    { pkg with
      metadata := pkg.metadata.set (ascii "payload_count") (.unsigned payloads.length)
      memoryText := payloadOverview pkg.memoryText payloads
      payloadRefs := payloads }

/-- The messages section, which is left empty when it is not asked for. -/
def contextMessages (host : Host) (builder : ContextBuilder) (request : MemoryContextRequest)
    (c : Connection) : MemoryEventsResult × Connection :=
  if shouldInclude request ContextSections.messages then
    loadMessagesForContext host builder request c
  else ({ succeeded := true }, c)

/-- The long-term section. -/
def contextLongTerm (host : QueryHost) (builder : ContextBuilder) (request : MemoryContextRequest)
    (c : Connection) : SelectedLongTermMemory × Connection :=
  let limit := longTermMemoryLimit builder request
  if shouldInclude request ContextSections.longTerm && builder.longTermStore &&
      builder.searchStore && 0 < limit then
    selectLongTermMemory host builder request limit c
  else ({}, c)

/-- The package without its payloads. Its text is empty before the long-term section. -/
def contextPackage (streamFloat : ℚ → Text) (builder : ContextBuilder)
    (request : MemoryContextRequest) (events : List MemoryEvent)
    (selected : SelectedLongTermMemory) : MemoryContextPackage :=
  let (longTermText, citations) := renderLongTermMemory streamFloat selected
  withMetadata builder request {
    messages := events.map contextMessage
    memoryText := longTermText
    entities := selected.snapshot.entities
    relations := selected.snapshot.relations
    citations }

/-- `ContextBuilder::BuildContext`. -/
def buildContext (host : ContextHost) (builder : ContextBuilder) (request : MemoryContextRequest)
    (c : Connection) : MemoryContextResult × Connection :=
  match contextMessages host.toHost builder request c with
  | (messages, c) =>
      if !messages.succeeded then ({ error := messages.error }, c)
      else
        match contextLongTerm host.toQueryHost builder request c with
        | (selected, c) =>
            if !selected.succeeded then ({ error := selected.error }, c)
            else
              let pkg := contextPackage host.streamFloat builder request messages.events selected
              if shouldInclude request ContextSections.payloads then
                match loadPayloadsForContext host.toQueryHost builder request c with
                | (selectedPayloads, c) =>
                    if !selectedPayloads.succeeded then ({ error := selectedPayloads.error }, c)
                    else ({
                      succeeded := true
                      context := withPayloads selectedPayloads.payloads pkg }, c)
              else ({ succeeded := true, context := pkg }, c)

end AgentMemory
