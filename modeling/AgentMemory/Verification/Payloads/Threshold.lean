import AgentMemory.Foundation.Narrowing
import AgentMemory.Verification.Payloads.Compensation

/-! # When content is offloaded

The length of the content is narrowed to an `int`, both where it is compared with the threshold and
where it is stored. The summary has the length itself. -/

namespace AgentMemory

open Foundation

/-! ## The decision -/

/-- The operation succeeds; a probe succeeds when the file is not there yet. -/
def PayloadOp.succeeds : (op : PayloadOp) → PayloadOp.signature.Reply op → Bool
  | .scheduleTempFileCleanup, .ok _ => true
  | .scheduleTempFileCleanup, .error _ => false
  | .random, _ => true
  | .createDirectories, .ok _ => true
  | .createDirectories, .error _ => false
  | .fileExists _, .ok found => !found
  | .fileExists _, .error _ => false
  | .openFile _, opened => opened
  | .writeFile .., written => written
  | .rename .., .ok _ => true
  | .rename .., .error _ => false
  | .removeFile _, .ok _ => true
  | .removeFile _, .error _ => false
  | .savePayload .., saveResult => saveResult.succeeded

def AllSucceed (trace : PayloadTrace) : Prop :=
  ∀ call ∈ trace, call.1.succeeds call.2 = true

/-- The content is returned as it is, and nothing was done. -/
structure KeptInline (request : MemoryPayloadWriteRequest) (entries : List CleanupEntry)
    (w : World) (trace : PayloadTrace) (r : MemoryPayloadWriteResult) (w' : World) : Prop where
  result : r = { succeeded := true, replacementContent := request.content }
  nothingDone : trace = []
  asBefore : AsBefore entries w [] w'

/-- The content is in a file, and the payload that stands for it has its length. -/
structure OffloadedWithLength (service : PayloadService) (request : MemoryPayloadWriteRequest)
    (entries : List CleanupEntry) (w : World) (r : MemoryPayloadWriteResult) (w' : World) :
    Prop where
  succeeded : r.succeeded = true
  originalChars : r.payload.originalChars = request.content.length
  summary : r.payload.summary = ascii "Tool result offloaded" ++
    (if request.toolName.isEmpty then [] else ascii " from " ++ request.toolName) ++
    ascii ", original chars: " ++ decimal request.content.length ++ ascii "."
  replacement : r.replacementContent =
    ascii "[memory-ref: " ++ r.payload.uri ++ ascii "]\n" ++ r.payload.summary
  written : OffloadedAs service request entries w r w'
  stored : ∃ row ∈ w'.connection.current.payloads.rows, row.2.toPayloadValues = r.payload.values

/-- The write returns, and offloads the content just when its length reaches the threshold. -/
def OffloadsByLength (service : PayloadService) (request : MemoryPayloadWriteRequest)
    (entries : List CleanupEntry) (w : World) (trace : PayloadTrace)
    (out : Except CxxException MemoryPayloadWriteResult) (w' : World) : Prop :=
  ∃ r, out = .ok r ∧
    (r.offloaded = true ↔ service.config.offloadThresholdChars.toInt ≤ request.content.length) ∧
    (r.offloaded = true → OffloadedWithLength service request entries w r w') ∧
    (r.offloaded = false → KeptInline request entries w trace r w')

/-! ## Lengths as an `int` -/

theorem toInt32_eq_self_iff {n : ℕ} : toInt32 n = n ↔ n < 2 ^ 31 := by
  have hfits : toInt32 n = n ↔ -2 ^ 31 ≤ (n : ℤ) ∧ (n : ℤ) < 2 ^ 31 := bmod_two_pow_eq_self_iff
  rw [hfits]
  omega

/-! ## Runs without a failure -/

/-- Some run of the program without a failure ends like this. -/
abbrev Succeeding {α : Type} (host : PayloadHost) (entries : List CleanupEntry)
    (out : Except CxxException α) (w' : World) (p : PayloadM α) : Prop :=
  EndsIn host.perform (CleansOneOf entries) (fun op reply => op.succeeds reply = true) out w' p

section Succeeding

variable {α : Type} {host : PayloadHost} {entries : List CleanupEntry}
  {out : Except CxxException α} {w' : World}

/-- A probe that succeeds has not found the file. -/
theorem Succeeding.of_fileExists {name : Text} {f : Bool → PayloadM α}
    (h : Succeeding host entries out w' (fileExists name >>= f)) :
    Succeeding host entries out w' (f false) := by
  rw [fileExists, Program.bind_assoc] at h
  obtain ⟨reply, hreply, h⟩ := h.of_perform
  cases reply with
  | error message => cases hreply
  | ok found =>
    cases found with
    | true => cases hreply
    | false => exact h

theorem Succeeding.of_randomHexSuffix {f : Text → PayloadM α}
    (h : Succeeding host entries out w' (randomHexSuffix >>= f)) :
    ∃ suffix, Succeeding host entries out w' (f suffix) := by
  rw [randomHexSuffix, Program.bind_assoc] at h
  obtain ⟨first, -, h⟩ := h.of_perform
  rw [Program.bind_assoc] at h
  obtain ⟨second, -, h⟩ := h.of_perform
  exact ⟨_, h⟩

variable {f : Except MemoryError Unit → PayloadM α} {name temp content : Text}

theorem Succeeding.of_writeTempFile
    (h : Succeeding host entries out w' (writeTempFile name temp content >>= f)) :
    Succeeding host entries out w' (f (.ok ())) := by
  rw [writeTempFile, Program.bind_assoc] at h
  obtain ⟨opened, hopened, h⟩ := h.of_perform
  have hopened : opened = true := hopened
  rw [if_neg (by simp [hopened]), Program.bind_assoc] at h
  obtain ⟨written, hwritten, h⟩ := h.of_perform
  have hwritten : written = true := hwritten
  rw [if_neg (by simp [hwritten]), Program.bind_assoc] at h
  obtain ⟨renamed, hrenamed, h⟩ := h.of_perform
  cases renamed with
  | error message => cases hrenamed
  | ok _ => exact h

theorem Succeeding.of_writePayloadFileAtomically
    (h : Succeeding host entries out w' (writePayloadFileAtomically name content >>= f)) :
    Succeeding host entries out w' (f (.ok ())) := by
  rw [writePayloadFileAtomically, Program.bind_assoc] at h
  obtain ⟨created, hcreated, h⟩ := h.of_perform
  cases created with
  | error message => cases hcreated
  | ok _ =>
    rw [Program.bind_assoc] at h
    have h := Succeeding.of_fileExists h
    rw [if_neg Bool.false_ne_true, Program.bind_assoc] at h
    obtain ⟨suffix, h⟩ := Succeeding.of_randomHexSuffix h
    rw [Program.bind_assoc] at h
    have h := Succeeding.of_fileExists h
    rw [if_neg Bool.false_ne_true] at h
    exact Succeeding.of_writeTempFile h

end Succeeding

section Write

variable {host : PayloadHost} {entries : List CleanupEntry} {service : PayloadService}
  {request : MemoryPayloadWriteRequest} {out : Except CxxException MemoryPayloadWriteResult}
  {w w' : World} {trace : PayloadTrace}

/-- The result of a write that offloads the content. -/
def offloadedResult (service : PayloadService) (request : MemoryPayloadWriteRequest)
    (name : Text) : MemoryPayloadWriteResult :=
  let payload := payloadRef service request name
  { succeeded := true
    offloaded := true
    payload
    replacementContent := ascii "[memory-ref: " ++ payload.uri ++ ascii "]\n" ++ payload.summary }

theorem originalChars_offloadedResult (name : Text) :
    (offloadedResult service request name).payload.originalChars =
      toInt32 request.content.length := by
  rw [offloadedResult, payloadRef]

theorem Succeeding.of_savePayloadRow {name : Text}
    (h : Succeeding host entries out w' (savePayloadRow service request name)) :
    out = .ok (offloadedResult service request name) := by
  rw [savePayloadRow] at h
  obtain ⟨saveResult, hsaved, h⟩ := h.of_perform
  have hsaved : saveResult.succeeded = true := hsaved
  rw [if_pos hsaved] at h
  exact h.of_pure

theorem Succeeding.of_offloadPayload
    (h : Succeeding host entries out w' (offloadPayload service request)) :
    ∃ name, out = .ok (offloadedResult service request name) := by
  rw [offloadPayload] at h
  obtain ⟨scheduled, hscheduled, h⟩ := h.of_perform
  cases scheduled with
  | error e => cases hscheduled
  | ok _ =>
    rw [Program.ofExcept_ok_bind] at h
    obtain ⟨first, -, h⟩ := h.of_perform
    obtain ⟨second, -, h⟩ := h.of_perform
    have h := Succeeding.of_writePayloadFileAtomically h
    exact ⟨_, Succeeding.of_savePayloadRow h⟩

theorem RowWritten.exists_row {v : PayloadValues} {db db' : Database} (h : RowWritten v db db') :
    ∃ row ∈ db'.payloads.rows, row.2.toPayloadValues = v := by
  rcases h.row with ⟨-, i, now, hrows⟩ | ⟨⟨row, hrow, href⟩, hrows⟩
  · refine ⟨(i, { v with createdAt := now }), ?_, rfl⟩
    rw [hrows]
    exact List.mem_append_right _ (List.mem_singleton_self _)
  · refine ⟨(row.1, { v with createdAt := row.2.createdAt }), ?_, rfl⟩
    rw [hrows]
    refine List.mem_map.mpr ⟨row, hrow, ?_⟩
    rw [if_pos (beq_iff_eq.mpr href)]

theorem OffloadedAs.exists_row {r : MemoryPayloadWriteResult}
    (h : OffloadedAs service request entries w r w') :
    ∃ row ∈ w'.connection.current.payloads.rows, row.2.toPayloadValues = r.payload.values := by
  obtain ⟨_, _, _, _, _, _, hrow⟩ := h
  exact hrow.exists_row

/-- Without a failure, content that is not empty is kept or offloaded by its narrowed length. -/
theorem writePayload_cases
    (hrun : Interleaved host.perform (CleansOneOf entries) (writePayload service request) w trace
      out w')
    (henabled : service.config.enablePayloadOffload = true) (hstore : service.store = true)
    (hcontent : request.content ≠ []) (hio : AllSucceed trace) :
    ∃ r, out = .ok r ∧
      ((toInt32 request.content.length < service.config.offloadThresholdChars.toInt ∧
          KeptInline request entries w trace r w') ∨
        (service.config.offloadThresholdChars.toInt ≤ toInt32 request.content.length ∧
          (∃ name, r = offloadedResult service request name) ∧
          OffloadedAs service request entries w r w')) := by
  have hbegin : ¬(!service.config.enablePayloadOffload || request.content.isEmpty) = true := by
    simp [henabled, hcontent]
  rw [writePayload, if_neg hbegin] at hrun
  by_cases hshort : toInt32 request.content.length < service.config.offloadThresholdChars.toInt
  · rw [if_pos hshort] at hrun
    obtain ⟨htrace, hresult, hw'⟩ := hrun.of_pure (P := AsBefore entries w []) stable_asBefore
      ⟨rfl, rfl, fun _ _ => .inl rfl⟩
    exact ⟨_, hresult, .inl ⟨hshort, rfl, htrace, hw'⟩⟩
  · rw [if_neg hshort, if_neg (by simp [hstore])] at hrun
    obtain ⟨name, rfl⟩ := Succeeding.of_offloadPayload ⟨w, trace, hio, hrun⟩
    refine ⟨_, rfl, .inr ⟨not_lt.mp hshort, ⟨name, rfl⟩, ?_⟩⟩
    have hprobes : ProbesAnswered trace := by
      intro name message hprobe
      cases hio _ hprobe
    cases writeOutcome_offloadPayload hrun hprobes with
    | failed hfailed => cases hfailed
    | kept _ hkept => cases hkept
    | offloaded _ _ hwritten => exact hwritten

end Write

/-- The decision and what is stored are right just as long as the length is an `int`. -/
theorem writePayload_offloadsByLength_iff (host : PayloadHost) (service : PayloadService)
    (request : MemoryPayloadWriteRequest) (entries : List CleanupEntry) (w w' : World)
    (trace : PayloadTrace) (out : Except CxxException MemoryPayloadWriteResult)
    (hrun : Interleaved host.perform (CleansOneOf entries) (writePayload service request) w trace
      out w')
    (henabled : service.config.enablePayloadOffload = true) (hstore : service.store = true)
    (hcontent : request.content ≠ []) (hio : AllSucceed trace) :
    OffloadsByLength service request entries w trace out w' ↔ request.content.length < 2 ^ 31 := by
  obtain ⟨r, rfl, hcases⟩ := writePayload_cases hrun henabled hstore hcontent hio
  have hthreshold := service.config.offloadThresholdChars.toInt_lt
  constructor
  · rintro ⟨r', hr, hiff, hwhole, -⟩
    cases hr
    by_contra hlong
    have hoffloaded : r.offloaded = true := hiff.mpr (by omega)
    rcases hcases with ⟨-, hkept⟩ | ⟨-, ⟨name, rfl⟩, -⟩
    · rw [hkept.result] at hoffloaded
      cases hoffloaded
    · have hchars := (hwhole rfl).originalChars
      rw [originalChars_offloadedResult] at hchars
      exact hlong (toInt32_eq_self_iff.mp hchars)
  · intro hshort
    rw [toInt32_eq_self_iff.mpr hshort] at hcases
    rcases hcases with ⟨hbelow, hkept⟩ | ⟨hreached, ⟨name, rfl⟩, hwritten⟩
    · have hoffloaded : r.offloaded = false := by
        rw [hkept.result]
      refine ⟨r, rfl, iff_of_false ?_ (not_le.mpr hbelow), fun htrue => ?_, fun _ => hkept⟩
      · simp [hoffloaded]
      · rw [hoffloaded] at htrue
        cases htrue
    · refine ⟨_, rfl, iff_of_true rfl hreached, fun _ => ?_, fun hfalse => by cases hfalse⟩
      refine ⟨rfl, ?_, rfl, rfl, hwritten, hwritten.exists_row⟩
      rw [originalChars_offloadedResult, toInt32_eq_self_iff.mpr hshort]

theorem writePayload_offloadsByLength_iff_short :
    let write := writePayload eagerService shortRequest
    OffloadsByLength eagerService shortRequest [] emptyWorld
      (write.trace (failingAt none).perform emptyWorld)
      (write.run (failingAt none).perform emptyWorld).1
      (write.run (failingAt none).perform emptyWorld).2 :=
  (writePayload_offloadsByLength_iff (failingAt none) eagerService shortRequest [] emptyWorld _ _ _
    (interleaved_run _ _) rfl rfl (by decide) (List.all_eq_true.mp (by decide +kernel))).mpr
    (by decide)

/-! ## A length that is a negative `int` -/

/-- The configuration as it is by default. -/
def defaultService : PayloadService :=
  { eagerService with config := {} }

def hugeRequest : MemoryPayloadWriteRequest where
  content := List.replicate (2 ^ 31) 0x61

theorem length_hugeRequest : hugeRequest.content.length = 2 ^ 31 :=
  List.length_replicate

theorem writePayload_hugeRequest : writePayload defaultService hugeRequest =
    pure { succeeded := true, replacementContent := hugeRequest.content } := by
  have hcontent : ¬(!defaultService.config.enablePayloadOffload || hugeRequest.content.isEmpty) =
      true := by
    have hne : hugeRequest.content ≠ [] := by
      apply List.ne_nil_of_length_pos
      rw [length_hugeRequest]
      decide
    simp [defaultService, hne]
  have hbelow : toInt32 hugeRequest.content.length <
      defaultService.config.offloadThresholdChars.toInt := by
    rw [length_hugeRequest]
    decide +kernel
  rw [writePayload, if_neg hcontent, if_pos hbelow]

/-- The content is kept although the threshold is reached. -/
theorem not_offloadsByLength_hugeRequest :
    let write := writePayload defaultService hugeRequest
    defaultService.config.offloadThresholdChars.toInt ≤ hugeRequest.content.length ∧
      write.trace (failingAt none).perform emptyWorld = [] ∧
      ¬OffloadsByLength defaultService hugeRequest [] emptyWorld
        (write.trace (failingAt none).perform emptyWorld)
        (write.run (failingAt none).perform emptyWorld).1
        (write.run (failingAt none).perform emptyWorld).2 := by
  have hreached : defaultService.config.offloadThresholdChars.toInt ≤
      hugeRequest.content.length := by
    rw [length_hugeRequest]
    decide +kernel
  simp only [writePayload_hugeRequest]
  refine ⟨hreached, rfl, ?_⟩
  rintro ⟨r, hr, hiff, -⟩
  cases hr
  cases hiff.mpr hreached

end AgentMemory
