import AgentMemory.Foundation.Outline
import AgentMemory.Verification.Payloads.Rows

/-! # Offloaded payloads stay readable and unchanged

A write takes the name of a file that does not exist, and saves its row only when the file has its
content. Cleanups remove temporary files only, so the assertions of the write hold whatever they do
in between. The one way to lose a payload is a probe for the final file that fails: the code takes
the failure for the absence of the file and renames over it. -/

namespace AgentMemory

open Foundation

section Outlines

variable (host : PayloadHost) (service : PayloadService)

/-- A cleanup handles one entry. -/
def Cleans (w w' : World) : Prop :=
  ∃ entry, w' = cleanup entry w

/-- The probe for a final file that exists does not fail. -/
def ProbesReliably : PayloadOp → World → Prop
  | .fileExists name, w => isTempName name = false → (w.files name).isSome = true →
      (host.outcome w.clock).failed = false
  | _, _ => True

instance : ∀ op w, Decidable (ProbesReliably host op w)
  | .fileExists name, w => inferInstanceAs (Decidable (isTempName name = false →
      (w.files name).isSome = true → (host.outcome w.clock).failed = false))
  | .scheduleTempFileCleanup, _ | .random, _ | .createDirectories, _ | .openFile _, _
  | .writeFile .., _ | .rename .., _ | .removeFile _, _ | .savePayload .., _ => isTrue trivial

/-- A proof outline of a part of a write, in which every payload row has its file throughout. -/
abbrev WriteOutline {α : Type} (post : Except CxxException α → World → Prop) (p : PayloadM α)
    (P : World → Prop) : Prop :=
  Outline host.perform Cleans (ProbesReliably host) (Backed service) post p P

end Outlines

/-! ## What a cleanup keeps -/

section Frames

variable {service : PayloadService} {w w' : World}

theorem cleans_cases (h : Cleans w w') :
    w' = w ∨ ∃ name, isTempName name = true ∧ w' = w.setFile name none := by
  obtain ⟨entry, rfl⟩ := h
  unfold cleanup
  split
  · exact .inl rfl
  · next htest =>
      split
      · exact .inl rfl
      · refine .inr ⟨entry.name, ?_, rfl⟩
        simp only [Bool.or_eq_true, Bool.not_eq_true', not_or, Bool.not_eq_false] at htest
        exact htest.1.2

theorem setFile_files_of_ne {name name' : Text} (h : name' ≠ name) (content : Option Text) :
    (w.setFile name content).files name' = w.files name' :=
  Function.update_of_ne h _ _

theorem setFile_files_self (name : Text) (content : Option Text) :
    (w.setFile name content).files name = content :=
  Function.update_self _ _ _

theorem finalName_ne_temp {name temp : Text} (hname : FinalName name)
    (htemp : isTempName temp = true) : name ≠ temp := by
  rintro rfl
  rw [isTempName_finalName hname] at htemp
  cases htemp

/-- A file that no row refers to may change. -/
theorem Backed.setFile (h : Backed service w) {name : Text}
    (hname : ∀ row ∈ w.payloadRows, ∀ name', FinalName name' →
      row.ref = bindText (service.uri name') → name' ≠ name) (content : Option Text) :
    Backed service (w.setFile name content) := by
  refine ⟨fun row hrow => ?_, h.seen⟩
  obtain ⟨name', content', hstands⟩ := h.files row hrow
  refine ⟨name', content', hstands.final, hstands.ref, hstands.origin, ?_, hstands.nonempty⟩
  rw [setFile_files_of_ne (hname row hrow name' hstands.final hstands.ref)]
  exact hstands.file

theorem Backed.setTemp (h : Backed service w) {temp : Text} (htemp : isTempName temp = true)
    (content : Option Text) : Backed service (w.setFile temp content) :=
  h.setFile (fun _ _ _ hname' _ => finalName_ne_temp hname' htemp) content

theorem Backed.setUnreferenced (h : Backed service w) {name : Text}
    (hnone : Unreferenced service name w) (content : Option Text) :
    Backed service (w.setFile name content) := by
  refine h.setFile (fun row hrow name' hname' href heq => hnone row hrow ?_) content
  rw [href, heq]

theorem Backed.tick (h : Backed service w) : Backed service w.tick := by
  refine ⟨fun row hrow => ?_, h.seen⟩
  obtain ⟨name, content, hstands⟩ := h.files row hrow
  exact ⟨name, content, hstands.final, hstands.ref, hstands.origin, hstands.file, hstands.nonempty⟩

theorem stable_backed : Stable Cleans (Backed service) := by
  intro w w' hcleans h
  rcases cleans_cases hcleans with rfl | ⟨name, htemp, rfl⟩
  · exact h
  · exact h.setTemp htemp none

end Frames

/-! ## The assertions of a write -/

section Assertions

variable (service : PayloadService) (name : Text)

/-- The final file does not exist. -/
structure Vacant (w : World) : Prop where
  backed : Backed service w
  absent : w.files name = none

/-- The temporary file has the content, unless a cleanup has removed it. -/
structure Staged (temp content : Text) (w : World) : Prop extends Vacant service name w where
  staged : w.files temp = none ∨ w.files temp = some content

/-- The final file has the content, and no row refers to it yet. -/
structure Published (content : Text) (w : World) : Prop where
  backed : Backed service w
  file : w.files name = some content
  unreferenced : Unreferenced service name w

/-- The row was not saved. -/
structure Orphaned (w : World) : Prop where
  backed : Backed service w
  unreferenced : Unreferenced service name w

variable {service name}

theorem Vacant.tick {w : World} (h : Vacant service name w) : Vacant service name w.tick :=
  ⟨h.backed.tick, h.absent⟩

theorem stable_vacant : Stable Cleans (Vacant service name) := by
  intro w w' hcleans h
  refine ⟨stable_backed w w' hcleans h.backed, ?_⟩
  rcases cleans_cases hcleans with rfl | ⟨temp, -, rfl⟩
  · exact h.absent
  · by_cases heq : name = temp
    · rw [heq]
      exact setFile_files_self _ _
    · rw [setFile_files_of_ne heq]
      exact h.absent

theorem stable_staged {temp content : Text} : Stable Cleans (Staged service name temp content) := by
  intro w w' hcleans h
  refine ⟨stable_vacant w w' hcleans h.toVacant, ?_⟩
  rcases cleans_cases hcleans with rfl | ⟨name', -, rfl⟩
  · exact h.staged
  · by_cases heq : temp = name'
    · rw [heq]
      exact .inl (setFile_files_self _ _)
    · rw [setFile_files_of_ne heq]
      exact h.staged

theorem stable_published (hname : FinalName name) {content : Text} :
    Stable Cleans (Published service name content) := by
  intro w w' hcleans h
  refine ⟨stable_backed w w' hcleans h.backed, ?_, ?_⟩
  · rcases cleans_cases hcleans with rfl | ⟨temp, htemp, rfl⟩
    · exact h.file
    · rw [setFile_files_of_ne (finalName_ne_temp hname htemp)]
      exact h.file
  · rcases cleans_cases hcleans with rfl | ⟨temp, -, rfl⟩
    · exact h.unreferenced
    · exact h.unreferenced

theorem stable_orphaned : Stable Cleans (Orphaned service name) := by
  intro w w' hcleans h
  refine ⟨stable_backed w w' hcleans h.backed, ?_⟩
  rcases cleans_cases hcleans with rfl | ⟨temp, -, rfl⟩
  · exact h.unreferenced
  · exact h.unreferenced

end Assertions

/-! ## The outline of a write -/

section Write

variable {host : PayloadHost} {service : PayloadService} {name : Text}

/-- After `WritePayloadFileAtomically`: the file is there, or nothing has changed for the rows. -/
def Written (service : PayloadService) (name content : Text) :
    Except CxxException (Except MemoryError Unit) → World → Prop
  | .ok (.ok ()) => Published service name content
  | _ => Backed service

theorem Written.backed {content : Text} {r : Except CxxException (Except MemoryError Unit)}
    {w : World} (h : Written service name content r w) : Backed service w := by
  rcases r with e | e | _
  · exact h
  · exact h
  · exact Published.backed h

/-- Giving up with an error, from any assertion. -/
theorem outline_failed {content : Text} {P : World → Prop} (hstable : Stable Cleans P)
    (hbacked : ∀ w, P w → Backed service w) (message : String) (details : Text) :
    WriteOutline host service (Written service name content)
      (Program.pure (payloadWriteFailed message details)) P :=
  .pure hstable hbacked hbacked

/-- Removing the temporary file and giving up. -/
theorem outline_removeTemp {content temp : Text} (htemp : isTempName temp = true)
    {P : World → Prop} (hstable : Stable Cleans P) (hbacked : ∀ w, P w → Backed service w)
    (message : String) (details : Text) :
    WriteOutline host service (Written service name content)
      (do removeQuietly temp
          return payloadWriteFailed message details) P := by
  refine .call (fun _ => Backed service) hstable hbacked ?_ fun _ =>
    outline_failed stable_backed (fun _ => id) message details
  intro w hw _
  simp only [PayloadHost.perform]
  split
  · exact (hbacked w hw).tick
  · exact (hbacked w hw).tick.setTemp htemp none

/-- After the write of the temporary file. -/
def AfterWrite (service : PayloadService) (name temp content : Text) : Bool → World → Prop
  | true => Staged service name temp content
  | false => Vacant service name

theorem perform_writeFile (host : PayloadHost) {temp : Text} (hname : FinalName name)
    (htemp : isTempName temp = true) (content : Text) {w : World} (h : Vacant service name w) :
    AfterWrite service name temp content (host.perform (.writeFile temp content) w).1
      (host.perform (.writeFile temp content) w).2 := by
  have hset : ∀ written, Vacant service name (w.tick.setFile temp written) := fun written =>
    ⟨h.tick.backed.setTemp htemp _,
      (setFile_files_of_ne (finalName_ne_temp hname htemp) _).trans h.absent⟩
  simp only [PayloadHost.perform]
  cases (host.outcome w.clock).failed with
  | true =>
      change Vacant service name _
      split
      · exact hset _
      · exact h.tick
  | false =>
      change Staged service name temp content _
      split
      · exact ⟨hset _, .inr (setFile_files_self _ _)⟩
      · next hnone =>
          rw [Bool.not_eq_true, Option.isSome_eq_false_iff, Option.isNone_iff_eq_none] at hnone
          exact ⟨h.tick, .inl hnone⟩

/-- After the rename to the final file. -/
def AfterRename (service : PayloadService) (name content : Text) :
    Except Text Unit → World → Prop
  | .ok () => Published service name content
  | .error _ => Backed service

theorem perform_rename (host : PayloadHost) {temp content : Text} (hname : FinalName name)
    (htemp : isTempName temp = true) {w : World} (h : Staged service name temp content w) :
    AfterRename service name content (host.perform (.rename temp name) w).1
      (host.perform (.rename temp name) w).2 := by
  have hunreferenced := h.backed.unreferenced hname h.absent
  simp only [PayloadHost.perform]
  rcases h.staged with hnone | hsome
  · rw [hnone]
    exact h.backed.tick
  · rw [hsome]
    cases (host.outcome w.clock).failed with
    | true => exact h.backed.tick
    | false =>
        refine ⟨(h.backed.tick.setUnreferenced hunreferenced _).setTemp htemp none, ?_,
          hunreferenced⟩
        exact (setFile_files_of_ne (finalName_ne_temp hname htemp) _).trans
          (setFile_files_self _ _)

/-- After the probe for the final file. -/
def AfterProbe (service : PayloadService) (name : Text) : Except Text Bool → World → Prop
  | .ok true => Backed service
  | _ => Vacant service name

theorem perform_fileExists (host : PayloadHost) (hname : FinalName name) {w : World}
    (h : Backed service w) (hreliable : ProbesReliably host (.fileExists name) w) :
    AfterProbe service name (host.perform (.fileExists name) w).1
      (host.perform (.fileExists name) w).2 := by
  simp only [PayloadHost.perform]
  cases hfile : w.files name with
  | some content =>
      rw [hreliable (isTempName_finalName hname) (by rw [hfile]; rfl)]
      exact h.tick
  | none =>
      cases (host.outcome w.clock).failed with
      | true => exact ⟨h.tick, hfile⟩
      | false => exact ⟨h.tick, hfile⟩

/-- After the row of the final file is saved, or not. -/
def AfterSave (service : PayloadService) (name : Text) (result : MemoryOperationResult) :
    World → Prop :=
  if result.succeeded then Backed service else Orphaned service name

theorem perform_savePayload (host : PayloadHost) (hname : FinalName name)
    {request : MemoryPayloadWriteRequest} (hcontent : request.content ≠ []) {w : World}
    (h : Published service name request.content w) :
    AfterSave service name
      (host.perform (.savePayload request (payloadRef service request name)) w).1
      (host.perform (.savePayload request (payloadRef service request name)) w).2 := by
  have hfiles := performSavePayload_files host.database request (payloadRef service request name)
    w.tick
  have hkeeps := fun row (hrow : row ∈ w.payloadRows) =>
    performSavePayload_keeps host.database request (payloadRef service request name) w.tick
      (h.backed.seen row hrow)
  have hstands : ∀ row ∈ w.payloadRows, ∃ name' content, StandsBehind service
      (performSavePayload host.database request (payloadRef service request name) w.tick).2 row
        name' content := by
    intro row hrow
    obtain ⟨name', content, hstands⟩ := h.backed.files row hrow
    refine ⟨name', content, hstands.final, hstands.ref, ?_, ?_, hstands.nonempty⟩
    · rw [(hkeeps row hrow).2]
      exact hstands.origin
    · rw [hfiles]
      exact hstands.file
  change AfterSave service name
    (performSavePayload host.database request (payloadRef service request name) w.tick).1
    (performSavePayload host.database request (payloadRef service request name) w.tick).2
  unfold AfterSave
  rcases performSavePayload_unreferenced host.database request (payloadRef service request name)
      w.tick h.unreferenced with ⟨hsucceeded, horigin, hrow, hrows⟩ | ⟨hfailed, hrows⟩
  · rw [if_pos hsucceeded]
    constructor
    · intro row hmem
      rcases hrows row hmem with hold | href
      · exact hstands row hold
      · refine ⟨name, request.content, hname, href, ?_, ?_, hcontent⟩
        · rw [href]
          exact horigin
        · rw [hfiles]
          exact h.file
    · intro row hmem
      rcases hrows row hmem with hold | href
      · exact (hkeeps row hold).1
      · rw [href]
        exact hrow
  · rw [if_neg (by rw [hfailed]; exact Bool.false_ne_true)]
    have hrows' : ∀ row ∈ (performSavePayload host.database request
        (payloadRef service request name) w.tick).2.payloadRows, row ∈ w.payloadRows := by
      intro row hmem
      rw [hrows] at hmem
      exact hmem
    exact ⟨⟨fun row hmem => hstands row (hrows' row hmem),
      fun row hmem => (hkeeps row (hrows' row hmem)).1⟩,
      fun row hmem => h.unreferenced row (hrows' row hmem)⟩

theorem outline_writeTempFile (host : PayloadHost) (service : PayloadService)
    (hname : FinalName name) {temp : Text}
    (htemp : isTempName temp = true) (content : Text) :
    WriteOutline host service (Written service name content) (writeTempFile name temp content)
      (Vacant service name) := by
  have hne : name ≠ temp := finalName_ne_temp hname htemp
  have hbacked : ∀ w, Vacant service name w → Backed service w := fun w h => h.backed
  have hstaged : ∀ w, Staged service name temp content w → Backed service w := fun w h => h.backed
  -- the temporary file is opened
  refine .call (fun _ => Vacant service name) stable_vacant hbacked ?_ fun opened => ?_
  · intro w hw _
    simp only [PayloadHost.perform]
    split
    · exact hw.tick
    · exact ⟨hw.tick.backed.setTemp htemp _, (setFile_files_of_ne hne _).trans hw.absent⟩
  cases opened with
  | false => exact outline_failed stable_vacant hbacked _ _
  | true =>
  -- the content is written
  refine .call (AfterWrite service name temp content) stable_vacant hbacked
    (fun w hw _ => perform_writeFile host hname htemp content hw) fun written => ?_
  cases written with
  | false => exact outline_removeTemp htemp stable_vacant hbacked _ _
  | true =>
  -- and the file is renamed
  refine .call (AfterRename service name content) stable_staged hstaged
    (fun w hw _ => perform_rename host hname htemp hw) fun renamed => ?_
  cases renamed with
  | error message => exact outline_removeTemp htemp stable_backed (fun _ => id) _ _
  | ok _ => exact .pure (stable_published hname) (fun w h => h.backed) (fun w h => h)

theorem outline_writePayloadFileAtomically (hname : FinalName name) (content : Text) :
    WriteOutline host service (Written service name content)
      (writePayloadFileAtomically name content) (Backed service) := by
  have hvacant : ∀ w, Vacant service name w → Backed service w := fun w h => h.backed
  refine .call (fun _ => Backed service) stable_backed (fun _ => id) (fun w hw _ => hw.tick)
    fun created => ?_
  cases created with
  | error message => exact outline_failed stable_backed (fun _ => id) _ _
  | ok _ =>
  have htail : WriteOutline host service (Written service name content) (do
      let suffix ← randomHexSuffix
      let tempName := name ++ ascii ".tmp." ++ suffix
      if ← fileExists tempName then
        return payloadWriteFailed "payload temp file already exists" []
      else writeTempFile name tempName content) (Vacant service name) := by
    refine .call (fun _ => Vacant service name) stable_vacant hvacant (fun w hw _ => hw.tick)
      fun first => ?_
    refine .call (fun _ => Vacant service name) stable_vacant hvacant (fun w hw _ => hw.tick)
      fun second => ?_
    refine .call (fun _ => Vacant service name) stable_vacant hvacant (fun w hw _ => hw.tick)
      fun found => ?_
    have hwrite := outline_writeTempFile host service hname
      (isTempName_temp hname (hexText first ++ hexText second)) content
    rcases found with message | _ | _
    · exact hwrite
    · exact hwrite
    · exact outline_failed stable_vacant hvacant _ _
  refine .call (AfterProbe service name) stable_backed (fun _ => id)
    (fun w hw hreliable => perform_fileExists host hname hw hreliable) fun found => ?_
  rcases found with message | _ | _
  · exact htail
  · exact htail
  · exact outline_failed stable_backed (fun _ => id) _ _

/-- Whatever is returned, every row has its file. -/
theorem outline_return {α : Type} (a : α) :
    WriteOutline host service (fun _ => Backed service) (Program.pure a) (Backed service) :=
  .pure stable_backed (fun _ => id) fun _ => id

theorem outline_savePayloadRow (hname : FinalName name) {request : MemoryPayloadWriteRequest}
    (hcontent : request.content ≠ []) :
    WriteOutline host service (fun _ => Backed service) (savePayloadRow service request name)
      (Published service name request.content) := by
  refine .call (AfterSave service name) (stable_published hname) (fun w h => h.backed)
    (fun w hw _ => perform_savePayload host hname hcontent hw) fun result => ?_
  change WriteOutline host service _ (if result.succeeded then _ else _)
    (if result.succeeded then _ else _)
  cases result.succeeded with
  | true => exact outline_return _
  | false =>
      refine .call (fun _ => Backed service) stable_orphaned (fun w h => h.backed) ?_ fun _ =>
        outline_return _
      intro w hw _
      simp only [PayloadHost.perform]
      split
      · exact hw.backed.tick
      · exact hw.backed.tick.setUnreferenced hw.unreferenced none

theorem outline_offloadPayload {request : MemoryPayloadWriteRequest}
    (hcontent : request.content ≠ []) :
    WriteOutline host service (fun _ => Backed service) (offloadPayload service request)
      (Backed service) := by
  refine .call (fun _ => Backed service) stable_backed (fun _ => id) (fun w hw _ => hw.tick)
    fun scheduled => ?_
  cases scheduled with
  | error e => exact .throw stable_backed (fun _ => id) fun _ => id
  | ok _ =>
  refine .call (fun _ => Backed service) stable_backed (fun _ => id) (fun w hw _ => hw.tick)
    fun first => ?_
  refine .call (fun _ => Backed service) stable_backed (fun _ => id) (fun w hw _ => hw.tick)
    fun second => ?_
  have hname := finalName_buildPayloadRef request first second
  refine (outline_writePayloadFileAtomically hname request.content).bind (fun e s h => h) ?_
  rintro (error | _)
  · exact outline_return _
  · exact outline_savePayloadRow hname hcontent

/-- Every write has an outline, from any state in which every payload row has its file. -/
theorem outline_writePayload (host : PayloadHost) (service : PayloadService)
    (request : MemoryPayloadWriteRequest) :
    WriteOutline host service (fun _ => Backed service) (writePayload service request)
      (Backed service) := by
  unfold writePayload
  split
  · exact outline_return _
  · next hcontent =>
      split
      · exact outline_return _
      · split
        · exact outline_return _
        · refine outline_offloadPayload fun hnil => hcontent ?_
          simp [hnil]

end Write

end AgentMemory
