import AgentMemory.Foundation.FileTree
import AgentMemory.Model.Store
import Mathlib.Logic.Function.Basic

/-! # The payload service

`WritePayload` writes a temporary file in the payload directory, renames it, and saves a row that
refers to it. Its steps are operations of the file system and of the store, each of which may
fail. -/

namespace AgentMemory

open Foundation

/-! ## Paths and names -/

/-- A path, which cannot hold a NUL byte. -/
structure DirectoryPath where
  bytes : Text
  noNul : 0 ∉ bytes

/-- `path / name` for a name that is relative. -/
def appendPath (path name : Text) : Text :=
  if path.isEmpty || path.getLast? == some 0x2F then path ++ name else path ++ 0x2F :: name

/-- The fields of `MemoryConfig` that the service reads. -/
structure MemoryConfig where
  offloadThresholdChars : Int32 := 8000
  enablePayloadOffload : Bool := true

structure PayloadService where
  config : MemoryConfig := {}
  dataPath : DirectoryPath
  canonicalPayloadDirectory : Text
  store : Bool := true

def PayloadService.payloadDirectory (service : PayloadService) : Text :=
  appendPath (appendPath service.dataPath.bytes (ascii "memory_runtime")) (ascii "payloads")

/-- `payloadPath.string()` for a file of the payload directory. -/
def PayloadService.payloadPath (service : PayloadService) (name : Text) : Text :=
  appendPath service.payloadDirectory name

def PayloadService.uri (service : PayloadService) (name : Text) : Text :=
  ascii "file://" ++ service.payloadPath name

/-- An unsigned number printed with `std::hex`. -/
def hexText (n : UInt64) : Text :=
  if n = 0 then [48]
  else (Nat.digits 16 n.toNat).reverse.map fun d => UInt8.ofNat (if d < 10 then 48 + d else 87 + d)

/-- A byte of a payload ref as it is. -/
def isRefByte (b : UInt8) : Bool :=
  isAlnum b || b == 0x5F || b == 0x2D

/-- `BuildPayloadRef` with the two numbers it draws. -/
def buildPayloadRef (request : MemoryPayloadWriteRequest) (first second : UInt64) : Text :=
  let sessionId := if request.sessionId.isEmpty then ascii "default" else request.sessionId
  let toolCallId := if request.toolCallId.isEmpty then ascii "payload" else request.toolCallId
  (sessionId ++ ascii "_" ++ toolCallId ++ ascii "_" ++ hexText first ++ hexText second).map
    fun b => if isRefByte b then b else 0x5F

def buildPayloadSummary (request : MemoryPayloadWriteRequest) : Text :=
  ascii "Tool result offloaded" ++
    (if request.toolName.isEmpty then [] else ascii " from " ++ request.toolName) ++
    ascii ", original chars: " ++ decimal request.content.length ++ ascii "."

/-! ## Operations -/

/-- The operations of a write, on files of the payload directory by name. `savePayload` is made on
behalf of a request. -/
inductive PayloadOp where
  | scheduleTempFileCleanup
  | random
  | createDirectories
  | fileExists (name : Text)
  | openFile (name : Text)
  | writeFile (name content : Text)
  | rename (source target : Text)
  | removeFile (name : Text)
  | savePayload (request : MemoryPayloadWriteRequest) (payload : MemoryPayloadRef)

/-- An operation with an `std::error_code` replies with the message of its error. -/
abbrev PayloadOp.signature : Signature where
  Op := PayloadOp
  Reply
    | .scheduleTempFileCleanup => Except CxxException Unit
    | .random => UInt64
    | .createDirectories => Except Text Unit
    | .fileExists _ => Except Text Bool
    | .openFile _ => Bool
    | .writeFile .. => Bool
    | .rename .. => Except Text Unit
    | .removeFile _ => Except Text Unit
    | .savePayload .. => MemoryOperationResult

abbrev PayloadM := Program PayloadOp.signature CxxException

def PayloadOp.perform (op : PayloadOp) : PayloadM (PayloadOp.signature.Reply op) :=
  Program.perform (S := PayloadOp.signature) op

/-- `fs::exists(path, error)` where the error is not looked at: with one the result is false. -/
def fileExists (name : Text) : PayloadM Bool := do
  match ← (PayloadOp.fileExists name).perform with
  | .ok found => return found
  | .error _ => return false

def randomHexSuffix : PayloadM Text := do
  let first ← PayloadOp.random.perform
  let second ← PayloadOp.random.perform
  return hexText first ++ hexText second

/-- `fs::remove(path, removeError)` where the error is not looked at. -/
def removeQuietly (name : Text) : PayloadM Unit := do
  let _ ← (PayloadOp.removeFile name).perform
  return ()

def payloadWriteFailed (message : String) (details : Text) : Except MemoryError Unit :=
  .error { code := ascii "payload_write_failed", message := ascii message, details }

/-- `WritePayloadFileAtomically` from the creation of the temporary file on. -/
def writeTempFile (name tempName content : Text) : PayloadM (Except MemoryError Unit) := do
  if !(← (PayloadOp.openFile tempName).perform) then
    return payloadWriteFailed "failed to open payload temp file for write" []
  else if !(← (PayloadOp.writeFile tempName content).perform) then
    removeQuietly tempName
    return payloadWriteFailed "failed to write payload temp file" []
  else
    match ← (PayloadOp.rename tempName name).perform with
    | .error message =>
        removeQuietly tempName
        return payloadWriteFailed "failed to finalize payload file" message
    | .ok () => return .ok ()

/-- `WritePayloadFileAtomically`, with the error it leaves in the result. -/
def writePayloadFileAtomically (name content : Text) : PayloadM (Except MemoryError Unit) := do
  match ← PayloadOp.createDirectories.perform with
  | .error message => return payloadWriteFailed "failed to create payload directory" message
  | .ok () =>
      if ← fileExists name then return payloadWriteFailed "payload file already exists" []
      else
        let suffix ← randomHexSuffix
        let tempName := name ++ ascii ".tmp." ++ suffix
        if ← fileExists tempName then
          return payloadWriteFailed "payload temp file already exists" []
        else writeTempFile name tempName content

/-! ## Writing -/

/-- The payload ref of an offloaded request. -/
def payloadRef (service : PayloadService) (request : MemoryPayloadWriteRequest) (name : Text) :
    MemoryPayloadRef where
  agentId := request.agentId
  sessionId := request.sessionId
  uri := service.uri name
  contentType := request.contentType
  summary := buildPayloadSummary request
  toolName := request.toolName
  originalChars := toInt32 request.content.length

/-- The error of a row that is not saved, completed when its file could not be removed either. -/
def orphanError (service : PayloadService) (name : Text) (saveResult : MemoryOperationResult)
    (removed : Except Text Unit) : MemoryError :=
  let error : MemoryError := if saveResult.error.hasError then saveResult.error
    else { code := ascii "payload_write_failed"
           message := ascii "failed to persist payload metadata" }
  match removed with
  | .ok () => error
  | .error message =>
      { error with
        details := (if error.details.isEmpty then [] else error.details ++ ascii "; ") ++
          ascii "orphan payload file remaining: " ++ service.payloadPath name ++
          ascii ", remove error: " ++ message }

/-- `WritePayload` once the file is there: its row is saved, or the file is removed again. -/
def savePayloadRow (service : PayloadService) (request : MemoryPayloadWriteRequest)
    (name : Text) : PayloadM MemoryPayloadWriteResult := do
  let payload := payloadRef service request name
  let saveResult ← (PayloadOp.savePayload request payload).perform
  if saveResult.succeeded then
    return {
      succeeded := true
      offloaded := true
      payload
      replacementContent := ascii "[memory-ref: " ++ payload.uri ++ ascii "]\n" ++ payload.summary }
  else
    let removed ← (PayloadOp.removeFile name).perform
    return {
      payload
      error := orphanError service name saveResult removed
      replacementContent := request.content }

/-- `WritePayload` of content that is offloaded. -/
def offloadPayload (service : PayloadService) (request : MemoryPayloadWriteRequest) :
    PayloadM MemoryPayloadWriteResult := do
  let scheduled ← PayloadOp.scheduleTempFileCleanup.perform
  let _ ← .ofExcept scheduled
  let first ← PayloadOp.random.perform
  let second ← PayloadOp.random.perform
  let name := buildPayloadRef request first second ++ ascii ".txt"
  match ← writePayloadFileAtomically name request.content with
  | .error error => return { error, replacementContent := request.content }
  | .ok () => savePayloadRow service request name

/-- `PayloadService::WritePayload`. -/
def writePayload (service : PayloadService) (request : MemoryPayloadWriteRequest) :
    PayloadM MemoryPayloadWriteResult :=
  if !service.config.enablePayloadOffload || request.content.isEmpty then
    return { succeeded := true, replacementContent := request.content }
  else if toInt32 request.content.length < service.config.offloadThresholdChars.toInt then
    return { succeeded := true, replacementContent := request.content }
  else if !service.store then
    return {
      error := { code := ascii "payload_store_unavailable"
                 message := ascii "payload offload requires a persistent store for metadata" }
      replacementContent := request.content }
  else offloadPayload service request

/-! ## The file system and the store -/

/-- What the system reports for an operation: whether it fails, the message of its error, a number
drawn at random, and how many bytes of a failed write reached the file. -/
structure SystemOutcome where
  failed : Bool := false
  message : Text := []
  number : UInt64 := 0
  written : ℕ := 0

structure PayloadHost where
  database : Host
  outcome : ℕ → SystemOutcome

/-- The files of the payload directory by name, the connection of the store, and for each payload
row that was inserted the content of the request it was inserted for, the last one first. -/
structure World where
  files : Text → Option Text
  connection : Connection
  clock : ℕ := 0
  created : List (SqlText × Text) := []

namespace World

def hasRow (ref : SqlText) (w : World) : Bool :=
  w.connection.current.payloads.rows.any fun r => r.2.ref == ref

def tick (w : World) : World :=
  { w with clock := w.clock + 1 }

def setFile (name : Text) (content : Option Text) (w : World) : World :=
  { w with files := Function.update w.files name content }

/-- The process is gone, and with it a transaction that was open. -/
def crash (w : World) : World :=
  { w with connection :=
      { current := w.connection.durable, saved := none, clock := w.connection.clock } }

end World

/-- Saving a row, which is remembered as that of the request if it was not there before. -/
def performSavePayload (host : Host) (request : MemoryPayloadWriteRequest)
    (payload : MemoryPayloadRef) (w : World) : MemoryOperationResult × World :=
  match (savePayload payload).runOn host w.connection with
  | (.ok result, connection) =>
      let w' := { w with connection }
      let ref := bindText payload.uri
      (result, if !w.hasRow ref && w'.hasRow ref then
          { w' with created := (ref, request.content) :: w.created }
        else w')
  | (.error _, connection) => (memoryFailure [] [], { w with connection })

/-- Carries out one operation. A file that was removed while it was being written stays removed. -/
def PayloadHost.perform (host : PayloadHost) : Handler PayloadOp.signature World := fun op w =>
  let outcome := host.outcome w.clock
  let ticked := w.tick
  match op with
  | .scheduleTempFileCleanup => (if outcome.failed then .error .host else .ok (), ticked)
  | .random => (outcome.number, ticked)
  | .createDirectories => (if outcome.failed then .error outcome.message else .ok (), ticked)
  | .fileExists name =>
      (if outcome.failed then .error outcome.message else .ok (w.files name).isSome, ticked)
  | .openFile name =>
      if outcome.failed then (false, ticked) else (true, ticked.setFile name (some []))
  | .writeFile name content =>
      let written := if outcome.failed then content.take outcome.written else content
      (!outcome.failed,
        if (w.files name).isSome then ticked.setFile name (some written) else ticked)
  | .rename source target =>
      match w.files source with
      | some content =>
          if outcome.failed then (.error outcome.message, ticked)
          else (.ok (), (ticked.setFile target (some content)).setFile source none)
      | none => (.error outcome.message, ticked)
  | .removeFile name =>
      if outcome.failed then (.error outcome.message, ticked)
      else (.ok (), ticked.setFile name none)
  | .savePayload request payload => performSavePayload host.database request payload ticked

/-! ## Cleaning up -/

/-- The name test of the cleanup. -/
def isTempName (name : Text) : Bool :=
  contains name (ascii ".txt.tmp.")

/-- One entry of a cleanup pass: what is reported of it, and whether its removal fails. -/
structure CleanupEntry where
  name : Text
  isRegularFile : Bool := true
  error : Bool := false
  expired : Bool := true
  removeFails : Bool := false

/-- The body of the loop of `ScheduleTempFileCleanup`. -/
def cleanup (entry : CleanupEntry) (w : World) : World :=
  if !entry.isRegularFile || entry.error || !isTempName entry.name || !entry.expired then w
  else if entry.removeFails then w
  else w.setFile entry.name none

/-! ## Reading -/

/-- The elements of an `fs::path`: the root directory, the names, and an empty one after a separator
at the end. -/
def pathComponents (path : Text) : List Text :=
  let names := (path.splitOn 0x2F).filter fun component => !component.isEmpty
  (if path.head? == some 0x2F then [[0x2F]] else []) ++ names ++
    if path.getLast? == some 0x2F && !names.isEmpty then [[]] else []

/-- The loop of `IsPathInsideDirectory` on the two iterators, and what follows it. -/
def componentsInside : List Text → List Text → Bool
  | dir :: directory, component :: path =>
      if dir != component then false else componentsInside directory path
  | _ :: _, [] => false
  | [], _ => true

section Reading

-- `fs::weakly_canonical`, where `none` is an error
variable (weaklyCanonical : Text → Option Text)

def canonicalPath (path : Text) : Text :=
  (weaklyCanonical path).getD []

def isPathInsideDirectory (path directory : Text) : Bool :=
  match weaklyCanonical path, weaklyCanonical directory with
  | some canonicalPath, some canonicalDirectory =>
      if pathComponents canonicalPath == pathComponents canonicalDirectory then false
      else componentsInside (pathComponents canonicalDirectory) (pathComponents canonicalPath)
  | _, _ => false

def payloadReadFailed (message : String) : MemoryPayloadReadResult :=
  { error := { code := ascii "payload_read_failed", message := ascii message } }

/-- `PayloadService::ReadPayload`, given what `LoadTextFile` does. -/
def readPayloadWith {m : Type → Type} [Monad m] (load : Text → m (Option Text))
    (service : PayloadService) (ref : Text) : m MemoryPayloadReadResult :=
  if !(ascii "file://").isPrefixOf ref then
    return payloadReadFailed "unsupported payload ref scheme"
  else
    let payloadPath := ref.drop 7
    if service.canonicalPayloadDirectory.isEmpty then
      return payloadReadFailed "payload directory path is not resolved"
    else if !isPathInsideDirectory weaklyCanonical payloadPath
        service.canonicalPayloadDirectory then
      return payloadReadFailed "payload path outside configured payload directory"
    else do
      match ← load (canonicalPath weaklyCanonical payloadPath) with
      | none => return payloadReadFailed "payload file is unreadable or does not exist"
      | some content =>
          if content.isEmpty then return payloadReadFailed "payload file is empty"
          else return { succeeded := true, content }

/-- `LoadTextFile` for a path in the payload directory. -/
def loadTextFile (w : World) (directory path : Text) : Option Text :=
  if (directory ++ [0x2F]).isPrefixOf path then w.files (path.drop (directory.length + 1)) else none

/-- `ReadPayload` of a file of the payload directory. -/
def readPayload (service : PayloadService) (w : World) (ref : Text) : MemoryPayloadReadResult :=
  Id.run (readPayloadWith weaklyCanonical
    (fun path => pure (loadTextFile w service.canonicalPayloadDirectory path)) service ref)

end Reading

/-! ### The whole file system -/

def pathSegment (component : Text) : Segment Text :=
  if component.isEmpty || component == ascii "." then .here
  else if component == ascii ".." then .up
  else .name component

/-- What the system makes of the path in a C string. -/
def walkPath (path : Text) : WalkPath Text where
  absolute := path.head? == some 0x2F
  segments := (path.splitOn 0x2F).map pathSegment

/-- A file tree, in which a file without content is one that may not be read; the working directory;
how many links are followed; and whether reading a directory throws. -/
structure FileSystem where
  tree : FileTree Text (Option Text)
  workingDirectory : List Text := []
  linkLimit : ℕ := 40
  directoryThrows : Bool := false

/-- Where the file or directory is that `path.c_str()` leads to. -/
def FileSystem.locate (system : FileSystem) (path : Text) : Option (List Text) :=
  if (cStr path).isEmpty then none
  else system.tree.walk system.linkLimit system.workingDirectory (walkPath (cStr path))

/-- `LoadTextFile`. -/
def FileSystem.loadTextFile (system : FileSystem) (path : Text) :
    Except CxxException (Option Text) :=
  match (system.locate path).bind system.tree.entry with
  | some (.file content) => return content
  | some .directory => if system.directoryThrows then .error .host else return none
  | _ => return none

/-- `ReadPayload` of any file. -/
def FileSystem.readPayload (system : FileSystem) (weaklyCanonical : Text → Option Text)
    (service : PayloadService) (ref : Text) : Except CxxException MemoryPayloadReadResult :=
  readPayloadWith weaklyCanonical system.loadTextFile service ref

/-! ## Runs -/

/-- A payload service at work: the state, and the write that is under way. -/
structure PayloadState where
  world : World
  inFlight : Option (PayloadM MemoryPayloadWriteResult) := none

/-- A write starts when none is under way (they hold `mutex_`), or takes its next step, and is
over when it has returned or thrown. A cleanup handles an entry at any point, and the process may
crash at any point. -/
inductive PayloadAction where
  | write (request : MemoryPayloadWriteRequest)
  | step
  | cleanup (entry : CleanupEntry)
  | crash

def PayloadState.act (host : PayloadHost) (service : PayloadService) (s : PayloadState) :
    PayloadAction → PayloadState
  | .write request =>
      match s.inFlight with
      | none => { s with inFlight := some (writePayload service request) }
      | some _ => s
  | .step =>
      match s.inFlight with
      | none => s
      | some (.call op next) =>
          let (reply, world) := host.perform op s.world
          { world, inFlight := some (next reply) }
      | some _ => { s with inFlight := none }
  | .cleanup entry => { s with world := AgentMemory.cleanup entry s.world }
  | .crash => { world := s.world.crash, inFlight := none }

end AgentMemory
