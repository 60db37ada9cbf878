import AgentMemory.Model.Json

/-! # Public data types -/

namespace AgentMemory

/-! ## Errors -/

structure MemoryError where
  code : Text := []
  message : Text := []
  details : Text := []
  retryable : Bool := false
deriving DecidableEq

def MemoryError.hasError (error : MemoryError) : Bool :=
  !error.code.isEmpty

structure MemoryOperationResult where
  succeeded : Bool := false
  error : MemoryError := {}
deriving DecidableEq

def memorySuccess : MemoryOperationResult :=
  { succeeded := true }

def memoryFailure (code message : Text) (details : Text := []) (retryable : Bool := false) :
    MemoryOperationResult :=
  { succeeded := false, error := { code, message, details, retryable } }

/-! ## Events -/

/-- `enum class MemoryEventType`. Its underlying type is `int`, and decoded events may carry
any value of it, so it wraps an integer rather than listing the eight enumerators. -/
structure MemoryEventType where
  value : ℤ
deriving DecidableEq

namespace MemoryEventType

def sessionStarted : MemoryEventType := ⟨0⟩
def sessionEnded : MemoryEventType := ⟨1⟩
def messageAppended : MemoryEventType := ⟨2⟩
def toolCallFinished : MemoryEventType := ⟨4⟩
def payloadOffloaded : MemoryEventType := ⟨5⟩
def consolidationRequested : MemoryEventType := ⟨6⟩
def consolidationCompleted : MemoryEventType := ⟨7⟩

end MemoryEventType

structure MemoryEvent where
  type : MemoryEventType := .messageAppended
  agentId : Text := []
  sessionId : Text := []
  role : Text := []
  content : Text := []
  toolCallId : Text := []
  toolName : Text := []
  payloadRef : Text := []
  storeCursor : Text := []
  metadata : Json := .object []
  timestamp : Text := []

/-! ## Long-term memory -/

structure MemoryEntity where
  id : Text := []
  agentId : Text := []
  entityType : Text := []
  name : Text := []
  summary : Text := []
  confidence : ℚ := 0
  isActive : Bool := true
  supersededByEntityId : Text := []
  supersededEntityId : Text := []
  sourceRefs : List Text := []
  metadata : Json := .object []
  createdAt : Text := []
  updatedAt : Text := []

structure MemoryRelation where
  id : Text := []
  agentId : Text := []
  fromEntityId : Text := []
  relationType : Text := []
  toEntityId : Text := []
  confidence : ℚ := 0
  sourceRefs : List Text := []
  metadata : Json := .object []
  createdAt : Text := []
  updatedAt : Text := []

structure MemoryConsolidationRequest where
  agentId : Text := []
  sessionId : Text := []
  maxEvents : Int32 := 100
  forceReprocess : Bool := false
  excludedSessionIds : List Text := []
  metadata : Json := .object []

structure MemoryConsolidationResult where
  succeeded : Bool := false
  fallbackUsed : Bool := false
  processedEvents : ℤ := 0
  savedSummaries : ℤ := 0
  savedEntities : ℤ := 0
  savedRelations : ℤ := 0
  nextCursor : Text := []
  sessionId : Text := []
  error : MemoryError := {}
deriving DecidableEq

/-! ## Payloads -/

structure MemoryPayloadRef where
  agentId : Text := []
  sessionId : Text := []
  uri : Text := []
  contentType : Text := []
  summary : Text := []
  toolName : Text := []
  originalChars : ℤ := 0
  metadata : Json := .object []
  createdAt : Text := []

structure MemoryPayloadWriteRequest where
  agentId : Text := []
  sessionId : Text := []
  content : Text := []
  contentType : Text := []
  toolCallId : Text := []
  toolName : Text := []
  metadata : Json := .object []

structure MemoryPayloadWriteResult where
  succeeded : Bool := false
  offloaded : Bool := false
  payload : MemoryPayloadRef := {}
  replacementContent : Text := []
  error : MemoryError := {}

structure MemoryPayloadReadResult where
  succeeded : Bool := false
  content : Text := []
  error : MemoryError := {}
deriving DecidableEq

/-! ## Context -/

structure MemoryMessage where
  role : Text := []
  content : Text := []
  toolCallId : Text := []
  toolName : Text := []
  payloadRef : Text := []

structure MemoryContextRequest where
  agentId : Text := []
  sessionId : Text := []
  query : Text := []
  tokenBudget : Int32 := 4096
  includeSections : List Text := []
  metadata : Json := .object []

structure MemoryContextPackage where
  messages : List MemoryMessage := []
  memoryText : Text := []
  entities : List MemoryEntity := []
  relations : List MemoryRelation := []
  payloadRefs : List MemoryPayloadRef := []
  citations : List Text := []
  metadata : Json := .object []

structure MemoryContextResult where
  succeeded : Bool := false
  context : MemoryContextPackage := {}
  error : MemoryError := {}

structure MemoryStats where
  events : Int32 := 0
  payloads : Int32 := 0
  summaries : Int32 := 0
  entities : Int32 := 0
  relations : Int32 := 0
  metadata : Json := .object []

/-! ## The model client -/

structure ModelInvokeResult where
  text : Text := []
  httpStatus : ℤ := 0
  errorCode : Text := []
  errorMessage : Text := []
  providerError : Text := []

/-- `operator bool`. -/
def ModelInvokeResult.ok (result : ModelInvokeResult) : Bool :=
  result.errorMessage.isEmpty && !result.text.isEmpty

/-- A model client: what it answers to a prompt, unless it throws. -/
abbrev MemoryModelClient := Text → Except CxxException ModelInvokeResult

end AgentMemory
