import AgentMemory.Verification.Payloads.Runs

/-! # A write that fails leaves nothing behind

A write undoes what it has done when one of its steps fails. Meanwhile the background cleanup, which
the write itself schedules, may remove expired temporary files. -/

namespace AgentMemory

open Foundation

/-! ## The steps of a run -/

abbrev PayloadTrace := List ((op : PayloadOp) × PayloadOp.signature.Reply op)

/-- No existence probe reports an error. -/
def ProbesAnswered (trace : PayloadTrace) : Prop :=
  ∀ name message, ⟨.fileExists name, .error message⟩ ∉ trace

/-- An existence probe that reports an error. -/
def isFailedProbe : ((op : PayloadOp) × PayloadOp.signature.Reply op) → Bool
  | ⟨.fileExists _, .error _⟩ => true
  | _ => false

theorem probesAnswered_of_none {trace : PayloadTrace} (h : trace.any isFailedProbe = false) :
    ProbesAnswered trace := by
  intro name message hmem
  have hprobe := List.any_eq_false.mp h _ hmem
  exact hprobe rfl

/-- The files that are removed, with what the removals report. -/
def removals (trace : PayloadTrace) : List (Text × Except Text Unit) :=
  trace.filterMap fun
    | ⟨.removeFile name, removed⟩ => some (name, removed)
    | _ => none

/-- The cleanup removes the file of this entry. -/
def CleanupEntry.removes (entry : CleanupEntry) : Bool :=
  entry.isRegularFile && !entry.error && isTempName entry.name && entry.expired &&
    !entry.removeFails

def CleanedUp (entries : List CleanupEntry) (name : Text) : Prop :=
  ∃ entry ∈ entries, entry.removes = true ∧ entry.name = name

/-- The cleanup handles one of the entries. -/
def CleansOneOf (entries : List CleanupEntry) (w w' : World) : Prop :=
  ∃ entry ∈ entries, w' = cleanup entry w

/-- A run of a part of a write that returns, amid the cleanup of some entries. -/
abbrev WriteRun {α : Type} (host : PayloadHost) (entries : List CleanupEntry) (p : PayloadM α)
    (w : World) (trace : PayloadTrace) (a : α) (w' : World) : Prop :=
  Interleaved host.perform (CleansOneOf entries) p w trace (.ok a) w'

/-! ## What has changed so far -/

/-- The file is as it was before, or the cleanup has removed it. -/
def Untouched (entries : List CleanupEntry) (w₀ w : World) (name : Text) : Prop :=
  w.files name = w₀.files name ∨ (w.files name = none ∧ CleanedUp entries name)

/-- The tables are as they were before, and so are the files other than `names`. -/
structure AsBefore (entries : List CleanupEntry) (w₀ : World) (names : List Text) (w : World) :
    Prop where
  current : w.connection.current = w₀.connection.current
  saved : w.connection.saved = w₀.connection.saved
  files : ∀ name, name ∉ names → Untouched entries w₀ w name

section AsBefore

variable {entries : List CleanupEntry} {w₀ w w' : World} {names : List Text}

theorem cleansOneOf_cases (h : CleansOneOf entries w w') :
    w' = w ∨ ∃ name, isTempName name = true ∧ CleanedUp entries name ∧ w' = w.setFile name none := by
  obtain ⟨entry, hentry, rfl⟩ := h
  by_cases hremoves : entry.removes = true
  · refine .inr ⟨entry.name, ?_, ⟨entry, hentry, hremoves, rfl⟩, ?_⟩
    · simp only [CleanupEntry.removes, Bool.and_eq_true] at hremoves
      exact hremoves.1.1.2
    · simp only [CleanupEntry.removes, Bool.and_eq_true, Bool.not_eq_true'] at hremoves
      simp [cleanup, hremoves]
  · refine .inl ?_
    unfold cleanup
    split
    · rfl
    · next htest =>
      split
      · rfl
      · next hfails =>
        simp only [Bool.or_eq_true, Bool.not_eq_true', not_or, Bool.not_eq_false] at htest
        exact absurd (by simp [CleanupEntry.removes, htest, hfails]) hremoves

theorem CleanedUp.isTempName {name : Text} (h : CleanedUp entries name) :
    AgentMemory.isTempName name = true := by
  obtain ⟨entry, -, hremoves, rfl⟩ := h
  simp only [CleanupEntry.removes, Bool.and_eq_true] at hremoves
  exact hremoves.1.1.2

theorem stable_asBefore : Stable (CleansOneOf entries) (AsBefore entries w₀ names) := by
  intro w w' hcleans h
  rcases cleansOneOf_cases hcleans with rfl | ⟨name, -, hcleaned, rfl⟩
  · exact h
  · refine ⟨h.current, h.saved, fun name' hname' => ?_⟩
    by_cases heq : name' = name
    · subst heq
      exact .inr ⟨setFile_files_self _ _, hcleaned⟩
    · unfold Untouched
      rw [setFile_files_of_ne heq]
      exact h.files name' hname'

theorem AsBefore.tick (h : AsBefore entries w₀ names w) : AsBefore entries w₀ names w.tick :=
  ⟨h.current, h.saved, h.files⟩

theorem AsBefore.mono (h : AsBefore entries w₀ names w) {more : List Text} (hsub : names ⊆ more) :
    AsBefore entries w₀ more w :=
  ⟨h.current, h.saved, fun name hname => h.files name fun hmem => hname (hsub hmem)⟩

/-- One of the files that are set apart may change. -/
theorem AsBefore.setFile (h : AsBefore entries w₀ names w) {name : Text} (hname : name ∈ names)
    (content : Option Text) : AsBefore entries w₀ names (w.setFile name content) := by
  refine ⟨h.current, h.saved, fun name' hname' => ?_⟩
  have hne : name' ≠ name := fun heq => hname' (heq ▸ hname)
  unfold Untouched
  rw [setFile_files_of_ne hne]
  exact h.files name' hname'

/-- A file that was not there before is no longer set apart once it is removed. -/
theorem AsBefore.dropAbsent {name : Text} (h : AsBefore entries w₀ (name :: names) w)
    (hbefore : w₀.files name = none ∨ CleanedUp entries name) (hnow : w.files name = none) :
    AsBefore entries w₀ names w := by
  refine ⟨h.current, h.saved, fun name' hname' => ?_⟩
  by_cases heq : name' = name
  · subst heq
    rcases hbefore with hnone | hcleaned
    · exact .inl (hnow.trans hnone.symm)
    · exact .inr ⟨hnow, hcleaned⟩
  · exact h.files name' (by simp [heq, hname'])

/-- A file that is not there now was not there before, unless it was cleaned up. -/
theorem AsBefore.absent {name : Text} (h : AsBefore entries w₀ [] w) (hnow : w.files name = none) :
    w₀.files name = none ∨ CleanedUp entries name := by
  rcases h.files name (by simp) with hsame | ⟨-, hcleaned⟩
  · exact .inl (hsame.symm.trans hnow)
  · exact .inr hcleaned

end AsBefore

/-! ## Writing the file -/

section File

variable {entries : List CleanupEntry} {w₀ w w' : World} {name temp content : Text}

theorem stable_content (hname : isTempName name = false) :
    Stable (CleansOneOf entries) fun w => w.files name = some content := by
  intro w w' hcleans h
  rcases cleansOneOf_cases hcleans with rfl | ⟨name', htemp, -, rfl⟩
  · exact h
  · have hne : name ≠ name' := by
      rintro rfl
      rw [hname] at htemp
      cases htemp
    rw [setFile_files_of_ne hne]
    exact h

theorem stable_stagedContent :
    Stable (CleansOneOf entries) fun w => w.files temp = none ∨ w.files temp = some content := by
  intro w w' hcleans h
  rcases cleansOneOf_cases hcleans with rfl | ⟨name', -, -, rfl⟩
  · exact h
  · by_cases heq : temp = name'
    · subst heq
      exact .inl (setFile_files_self _ _)
    · rw [setFile_files_of_ne heq]
      exact h

/-- The write of the file gave up. It has removed temporary files only, and if that has succeeded,
all is as before. -/
structure GaveUp (entries : List CleanupEntry) (w₀ : World)
    (removed : List (Text × Except Text Unit)) (error : MemoryError) (w : World) : Prop where
  code : error.code ≠ []
  current : w.connection.current = w₀.connection.current
  saved : w.connection.saved = w₀.connection.saved
  files : (∀ removal ∈ removed, removal.2 = .ok ()) → ∀ name, Untouched entries w₀ w name
  temps : ∀ removal ∈ removed, isTempName removal.1 = true

/-- The file is written, and nothing else has changed. -/
structure Finished (entries : List CleanupEntry) (w₀ : World) (name content : Text)
    (removed : List (Text × Except Text Unit)) (w : World) : Prop where
  asBefore : AsBefore entries w₀ [name] w
  file : w.files name = some content
  nothingRemoved : removed = []

def FileOutcome (entries : List CleanupEntry) (w₀ : World) (name content : Text)
    (removed : List (Text × Except Text Unit)) : Except MemoryError Unit → World → Prop
  | .error error => GaveUp entries w₀ removed error
  | .ok () => Finished entries w₀ name content removed

theorem stable_gaveUp {removed : List (Text × Except Text Unit)} {error : MemoryError} :
    Stable (CleansOneOf entries) (GaveUp entries w₀ removed error) := by
  intro w w' hcleans h
  have hstill : w'.connection = w.connection := by
    rcases cleansOneOf_cases hcleans with rfl | ⟨name, -, -, rfl⟩
    · rfl
    · rfl
  refine ⟨h.code, hstill ▸ h.current, hstill ▸ h.saved, fun hall name => ?_, h.temps⟩
  have hbefore : AsBefore entries w₀ [] w :=
    ⟨h.current, h.saved, fun name _ => h.files hall name⟩
  exact (stable_asBefore w w' hcleans hbefore).files name (by simp)

variable {host : PayloadHost} {trace : PayloadTrace} {result : Except MemoryError Unit}

theorem code_payloadWriteFailed : ascii "payload_write_failed" ≠ [] := by
  decide

theorem perform_removeFile (host : PayloadHost) (name : Text) (w : World) :
    (∃ message, host.perform (.removeFile name) w = (.error message, w.tick)) ∨
      host.perform (.removeFile name) w = (.ok (), w.tick.setFile name none) := by
  simp only [PayloadHost.perform]
  split
  · exact .inl ⟨_, rfl⟩
  · exact .inr rfl

/-- Giving up with nothing to undo. -/
theorem fileOutcome_failed {message : String} {details : Text}
    (h : WriteRun host entries (Program.pure (payloadWriteFailed message details)) w trace result w')
    (hw : AsBefore entries w₀ [] w) :
    FileOutcome entries w₀ name content (removals trace) result w' := by
  obtain ⟨rfl, hresult, hw'⟩ := h.of_pure stable_asBefore hw
  cases hresult
  exact ⟨code_payloadWriteFailed, hw'.current, hw'.saved, fun _ name => hw'.files name (by simp),
    fun removal hremoval => absurd hremoval List.not_mem_nil⟩

/-- Removing the temporary file and giving up. -/
theorem fileOutcome_removeTemp {message : String} {details : Text}
    (h : WriteRun host entries (do
      removeQuietly temp
      return payloadWriteFailed message details) w trace result w')
    (htemp : isTempName temp = true) (hvacant : w₀.files temp = none ∨ CleanedUp entries temp)
    (hw : AsBefore entries w₀ [temp] w) :
    FileOutcome entries w₀ name content (removals trace) result w' := by
  obtain ⟨w₁, rest, hw₁, rfl, hrest⟩ := h.of_call stable_asBefore hw
  rcases perform_removeFile host temp w₁ with ⟨message', hperform⟩ | hperform
  · rw [hperform] at hrest ⊢
    obtain ⟨rfl, hresult, hw'⟩ := hrest.of_pure stable_asBefore hw₁.tick
    cases hresult
    refine ⟨code_payloadWriteFailed, hw'.current, hw'.saved, fun hall => ?_, ?_⟩
    · cases hall _ (List.mem_singleton_self _)
    · intro removal hremoval
      rw [List.mem_singleton.mp hremoval]
      exact htemp
  · rw [hperform] at hrest ⊢
    have hgone : AsBefore entries w₀ [] (w₁.tick.setFile temp none) :=
      (hw₁.tick.setFile (List.mem_singleton_self temp) none).dropAbsent hvacant
        (setFile_files_self _ _)
    obtain ⟨rfl, hresult, hw'⟩ := hrest.of_pure stable_asBefore hgone
    cases hresult
    refine ⟨code_payloadWriteFailed, hw'.current, hw'.saved, fun _ name => hw'.files name (by simp),
      ?_⟩
    intro removal hremoval
    rw [List.mem_singleton.mp hremoval]
    exact htemp

/-! ### The temporary file -/

theorem asBefore_openFile (host : PayloadHost) (temp : Text) (hw : AsBefore entries w₀ [] w) :
    AsBefore entries w₀ (if (host.perform (.openFile temp) w).1 then [temp] else [])
      (host.perform (.openFile temp) w).2 := by
  simp only [PayloadHost.perform]
  split
  · exact hw.tick
  · exact (hw.tick.mono (List.nil_subset _)).setFile (List.mem_singleton_self temp) _

theorem asBefore_writeFile (host : PayloadHost) (content : Text)
    (hw : AsBefore entries w₀ [temp] w) :
    AsBefore entries w₀ [temp] (host.perform (.writeFile temp content) w).2 ∧
      ((host.perform (.writeFile temp content) w).1 = true →
        (host.perform (.writeFile temp content) w).2.files temp = none ∨
          (host.perform (.writeFile temp content) w).2.files temp = some content) := by
  simp only [PayloadHost.perform]
  split
  · next hpresent =>
      refine ⟨hw.tick.setFile (List.mem_singleton_self temp) _, fun hwritten => ?_⟩
      rw [setFile_files_self]
      rw [Bool.not_eq_true'] at hwritten
      simp [hwritten]
  · next habsent =>
      refine ⟨hw.tick, fun _ => .inl ?_⟩
      rw [Bool.not_eq_true, Option.isSome_eq_false_iff, Option.isNone_iff_eq_none] at habsent
      exact habsent

/-- A rename that fails changes nothing; one that succeeds has moved the content. -/
theorem perform_rename_cases (host : PayloadHost) (temp name : Text) (w : World) :
    (∃ message, host.perform (.rename temp name) w = (.error message, w.tick)) ∨
      ∃ content, w.files temp = some content ∧ host.perform (.rename temp name) w =
        (.ok (), (w.tick.setFile name (some content)).setFile temp none) := by
  simp only [PayloadHost.perform]
  cases w.files temp with
  | none => exact .inl ⟨_, rfl⟩
  | some content =>
      dsimp only
      split
      · exact .inl ⟨_, rfl⟩
      · exact .inr ⟨content, rfl, rfl⟩

theorem fileOutcome_writeTempFile
    (h : WriteRun host entries (writeTempFile name temp content) w trace result w')
    (hname : isTempName name = false) (htemp : isTempName temp = true)
    (hvacant : w₀.files temp = none ∨ CleanedUp entries temp) (hw : AsBefore entries w₀ [] w) :
    FileOutcome entries w₀ name content (removals trace) result w' := by
  -- the temporary file is opened
  obtain ⟨w₁, rest₁, hw₁, rfl, hrun₁⟩ := h.of_call stable_asBefore hw
  have hopened := asBefore_openFile host temp hw₁
  generalize (host.perform (.openFile temp) w₁).2 = w₁' at hopened hrun₁
  cases hreply₁ : (host.perform (.openFile temp) w₁).1 with
  | false =>
      rw [hreply₁] at hopened hrun₁
      have hfailed : FileOutcome entries w₀ name content (removals rest₁) result w' :=
        fileOutcome_failed hrun₁ hopened
      exact hfailed
  | true =>
  rw [hreply₁] at hopened hrun₁
  -- the content is written
  obtain ⟨w₂, rest₂, hw₂, rfl, hrun₂⟩ := hrun₁.of_call stable_asBefore hopened
  have hwritten := asBefore_writeFile host content hw₂
  generalize (host.perform (.writeFile temp content) w₂).2 = w₂' at hwritten hrun₂
  cases hreply₂ : (host.perform (.writeFile temp content) w₂).1 with
  | false =>
      rw [hreply₂] at hrun₂
      have hfailed : FileOutcome entries w₀ name content (removals rest₂) result w' :=
        fileOutcome_removeTemp hrun₂ htemp hvacant hwritten.1
      exact hfailed
  | true =>
  rw [hreply₂] at hrun₂
  -- and the file is renamed
  obtain ⟨w₃, rest₃, ⟨hw₃, hstaged⟩, rfl, hrun₃⟩ :=
    hrun₂.of_call (stable_asBefore.and stable_stagedContent) ⟨hwritten.1, hwritten.2 hreply₂⟩
  rcases perform_rename_cases host temp name w₃ with ⟨message, hrename⟩ |
    ⟨content', hcontent, hrename⟩
  · rw [hrename] at hrun₃
    have hfailed : FileOutcome entries w₀ name content (removals rest₃) result w' :=
      fileOutcome_removeTemp hrun₃ htemp hvacant hw₃.tick
    exact hfailed
  · rw [hrename] at hrun₃
    have hne : name ≠ temp := by
      rintro rfl
      rw [hname] at htemp
      cases htemp
    have hsame : content' = content := by
      rcases hstaged with hnone | hsome
      · cases hnone.symm.trans hcontent
      · exact Option.some.inj (hcontent.symm.trans hsome)
    have hmoved : AsBefore entries w₀ [name]
        ((w₃.tick.setFile name (some content')).setFile temp none) := by
      have hboth : AsBefore entries w₀ [temp, name] w₃.tick := hw₃.tick.mono (by simp)
      exact ((hboth.setFile (by simp) _).setFile (by simp) _).dropAbsent hvacant
        (setFile_files_self _ _)
    have hfile : ((w₃.tick.setFile name (some content')).setFile temp none).files name =
        some content := by
      rw [setFile_files_of_ne hne, setFile_files_self, hsame]
    obtain ⟨rfl, hresult, hw', hfile'⟩ :=
      hrun₃.of_pure (stable_asBefore.and (stable_content hname)) ⟨hmoved, hfile⟩
    cases hresult
    exact ⟨hw', hfile', rfl⟩

/-! ### The final file -/

theorem ProbesAnswered.tail {step : (op : PayloadOp) × PayloadOp.signature.Reply op}
    (h : ProbesAnswered (step :: trace)) : ProbesAnswered trace :=
  fun name message hmem => h name message (List.mem_cons_of_mem _ hmem)

theorem ProbesAnswered.left {more : PayloadTrace} (h : ProbesAnswered (trace ++ more)) :
    ProbesAnswered trace :=
  fun name message hmem => h name message (List.mem_append_left _ hmem)

theorem perform_probe {name : Text} (h : ProbesAnswered
    (⟨.fileExists name, (host.perform (.fileExists name) w).1⟩ :: trace)) :
    host.perform (.fileExists name) w = (.ok (w.files name).isSome, w.tick) := by
  cases hfailed : (host.outcome w.clock).failed with
  | false => simp [PayloadHost.perform, hfailed]
  | true =>
      refine absurd (List.mem_cons.mpr (.inl ?_)) (h name (host.outcome w.clock).message)
      simp [PayloadHost.perform, hfailed]

/-- A final file that is absent now was absent before, since the cleanup does not remove it. -/
theorem AsBefore.absent_final (h : AsBefore entries w₀ [] w) (hname : isTempName name = false)
    (hnow : w.files name = none) : w₀.files name = none := by
  rcases h.absent hnow with hnone | hcleaned
  · exact hnone
  · have htemp := hcleaned.isTempName
    rw [hname] at htemp
    cases htemp

theorem fileOutcome_probeTemp (temp : Text)
    (h : WriteRun host entries (do
      if ← fileExists temp then
        return payloadWriteFailed "payload temp file already exists" []
      else writeTempFile name temp content) w trace result w')
    (hname : isTempName name = false) (htemp : isTempName temp = true)
    (hprobes : ProbesAnswered trace) (hw : AsBefore entries w₀ [] w) :
    FileOutcome entries w₀ name content (removals trace) result w' := by
  obtain ⟨w₁, rest, hw₁, rfl, hrest⟩ := h.of_call stable_asBefore hw
  rw [perform_probe hprobes] at hrest
  cases hfile : w₁.files temp with
  | some old =>
      rw [hfile] at hrest
      have hfailed : FileOutcome entries w₀ name content (removals rest) result w' :=
        fileOutcome_failed hrest hw₁.tick
      exact hfailed
  | none =>
      rw [hfile] at hrest
      have hwritten : FileOutcome entries w₀ name content (removals rest) result w' :=
        fileOutcome_writeTempFile hrest hname htemp (hw₁.absent hfile) hw₁.tick
      exact hwritten

theorem fileOutcome_writePayloadFileAtomically
    (h : WriteRun host entries (writePayloadFileAtomically name content) w trace result w')
    (hname : FinalName name) (hprobes : ProbesAnswered trace) (hw : AsBefore entries w₀ [] w) :
    FileOutcome entries w₀ name content (removals trace) result w' ∧
      (result = .ok () → w₀.files name = none) := by
  have hfinal := isTempName_finalName hname
  obtain ⟨w₁, rest₁, hw₁, rfl, hrun₁⟩ := h.of_call stable_asBefore hw
  have hcreated : AsBefore entries w₀ [] (host.perform .createDirectories w₁).2 := hw₁.tick
  generalize (host.perform .createDirectories w₁).2 = w₁' at hcreated hrun₁
  cases hreply₁ : (host.perform .createDirectories w₁).1 with
  | error message =>
      rw [hreply₁] at hrun₁
      have hfailed : FileOutcome entries w₀ name content (removals rest₁) result w' :=
        fileOutcome_failed hrun₁ hcreated
      refine ⟨hfailed, ?_⟩
      rintro rfl
      obtain ⟨-, hresult, -⟩ := hrun₁.of_pure stable_asBefore hcreated
      cases hresult
  | ok _ =>
  rw [hreply₁] at hrun₁
  -- the final file is not there
  obtain ⟨w₂, rest₂, hw₂, rfl, hrun₂⟩ := hrun₁.of_call stable_asBefore hcreated
  have hprobe := perform_probe hprobes.tail
  rw [hprobe] at hrun₂
  cases hfile : w₂.files name with
  | some old =>
      rw [hfile] at hrun₂
      have hfailed : FileOutcome entries w₀ name content (removals rest₂) result w' :=
        fileOutcome_failed hrun₂ hw₂.tick
      refine ⟨hfailed, ?_⟩
      rintro rfl
      obtain ⟨-, hresult, -⟩ := hrun₂.of_pure stable_asBefore hw₂.tick
      cases hresult
  | none =>
  rw [hfile] at hrun₂
  refine ⟨?_, fun _ => hw₂.absent_final hfinal hfile⟩
  -- nor is the temporary one
  obtain ⟨w₃, rest₃, hw₃, rfl, hrun₃⟩ := hrun₂.of_call stable_asBefore hw₂.tick
  obtain ⟨w₄, rest₄, hw₄, rfl, hrun₄⟩ := hrun₃.of_call (P := AsBefore entries w₀ [])
    stable_asBefore hw₃.tick
  have hwritten : FileOutcome entries w₀ name content (removals rest₄) result w' :=
    fileOutcome_probeTemp _ hrun₄ hfinal (isTempName_temp hname _) hprobes.tail.tail.tail.tail
      hw₄.tick
  exact hwritten

end File

/-! ## Saving the row -/

/-- A row with these values is written to the payload table: a new one, or in the place of the row
that has its ref. -/
structure RowWritten (v : PayloadValues) (db db' : Database) : Prop where
  others : db' = { db with payloads := db'.payloads }
  row : ((∀ r ∈ db.payloads.rows, r.2.ref ≠ v.ref) ∧ ∃ i now,
      db'.payloads.rows = db.payloads.rows ++ [(i, { v with createdAt := now })]) ∨
    ((∃ r ∈ db.payloads.rows, r.2.ref = v.ref) ∧
      db'.payloads.rows = db.payloads.rows.map fun r =>
        (r.1, if r.2.ref == v.ref then { v with createdAt := r.2.createdAt } else r.2))

theorem rowWritten_of_effect {v : PayloadValues} {now : Text} {db db' : Database}
    (h : (Write.upsertPayload v).effect now db = some db') : RowWritten v db db' := by
  simp only [Write.effect] at h
  split at h
  · next hany =>
      cases h
      exact ⟨rfl, .inr ⟨by simpa using hany, rfl⟩⟩
  · next hnone =>
      obtain ⟨payloads, hins, h⟩ := Option.bind_eq_some_iff.mp h
      cases h
      obtain ⟨i, -, hrows⟩ := Table.insert_eq_some hins
      exact ⟨rfl, .inl ⟨by simpa using hnone, i, now, hrows⟩⟩

/-- A failed write returns the content itself and an error. It has changed no table; if its
removals have succeeded, the files are as before, and a final file that could not be removed is
named. -/
structure FailedCleanly (service : PayloadService) (request : MemoryPayloadWriteRequest)
    (entries : List CleanupEntry) (w : World) (removed : List (Text × Except Text Unit))
    (r : MemoryPayloadWriteResult) (w' : World) : Prop where
  offloaded : r.offloaded = false
  replacement : r.replacementContent = request.content
  code : r.error.code ≠ []
  current : w'.connection.current = w.connection.current
  saved : w'.connection.saved = w.connection.saved
  files : (∀ removal ∈ removed, removal.2 = .ok ()) → ∀ name, Untouched entries w w' name
  orphan : ∀ name message, (name, .error message) ∈ removed → isTempName name = false →
    contains r.error.details (service.payloadPath name) = true

/-- There is one more file, with the content, and the row that refers to it is written. -/
def OffloadedAs (service : PayloadService) (request : MemoryPayloadWriteRequest)
    (entries : List CleanupEntry) (w : World) (r : MemoryPayloadWriteResult) (w' : World) : Prop :=
  ∃ name, FinalName name ∧ r.payload = payloadRef service request name ∧
    w.files name = none ∧ w'.files name = some request.content ∧
      (∀ other, other ≠ name → Untouched entries w w' other) ∧
        RowWritten r.payload.values w.connection.current w'.connection.current

section Row

variable {entries : List CleanupEntry} {w₀ w w' : World} {host : PayloadHost} {name : Text}
  {service : PayloadService} {request : MemoryPayloadWriteRequest} {trace : PayloadTrace}
  {r : MemoryPayloadWriteResult}

theorem orphanError_code (saveResult : MemoryOperationResult) (removed : Except Text Unit) :
    (orphanError service name saveResult removed).code ≠ [] := by
  have hcode : (if saveResult.error.hasError then saveResult.error
      else { code := ascii "payload_write_failed"
             message := ascii "failed to persist payload metadata" } : MemoryError).code ≠ [] := by
    split
    · next herror => simpa [MemoryError.hasError] using herror
    · exact code_payloadWriteFailed
  unfold orphanError
  dsimp only
  cases removed with
  | ok _ => exact hcode
  | error message => exact hcode

theorem orphanError_names (saveResult : MemoryOperationResult) (message : Text) :
    contains (orphanError service name saveResult (.error message)).details
      (service.payloadPath name) = true := by
  simp only [orphanError]
  exact contains_of_infix
    (List.infix_append_of_infix_left (List.infix_append_of_infix_left List.infix_append_right))

/-- The file whose row is not saved is removed again. -/
theorem failedCleanly_of_refused {saveResult : MemoryOperationResult}
    (h : WriteRun host entries (do
      let removed ← (PayloadOp.removeFile name).perform
      return {
        payload := payloadRef service request name
        error := orphanError service name saveResult removed
        replacementContent := request.content }) w trace r w')
    (habsent : w₀.files name = none) (hw : AsBefore entries w₀ [name] w) :
    r.succeeded = false ∧ FailedCleanly service request entries w₀ (removals trace) r w' := by
  obtain ⟨w₁, rest, hw₁, rfl, hrest⟩ := h.of_call stable_asBefore hw
  rcases perform_removeFile host name w₁ with ⟨message, hperform⟩ | hperform
  · rw [hperform] at hrest ⊢
    obtain ⟨rfl, hresult, hw'⟩ := hrest.of_pure stable_asBefore hw₁.tick
    cases hresult
    refine ⟨rfl, rfl, rfl, orphanError_code _ _, hw'.current, hw'.saved, fun hall => ?_, ?_⟩
    · cases hall _ (List.mem_singleton_self _)
    · intro name' message' hmem _
      cases List.mem_singleton.mp hmem
      exact orphanError_names saveResult message
  · rw [hperform] at hrest ⊢
    have hgone : AsBefore entries w₀ [] (w₁.tick.setFile name none) :=
      (hw₁.tick.setFile (List.mem_singleton_self name) none).dropAbsent (.inl habsent)
        (setFile_files_self _ _)
    obtain ⟨rfl, hresult, hw'⟩ := hrest.of_pure stable_asBefore hgone
    cases hresult
    refine ⟨rfl, rfl, rfl, orphanError_code _ _, hw'.current, hw'.saved,
      fun _ name => hw'.files name (by simp), ?_⟩
    intro name' message' hmem _
    cases List.mem_singleton.mp hmem

/-- What a write comes to. Content that is not offloaded changes nothing. -/
inductive WriteOutcome (service : PayloadService) (request : MemoryPayloadWriteRequest)
    (entries : List CleanupEntry) (w : World) (removed : List (Text × Except Text Unit))
    (r : MemoryPayloadWriteResult) (w' : World) : Prop where
  | failed (succeeded : r.succeeded = false)
      (cleanly : FailedCleanly service request entries w removed r w')
  | kept (succeeded : r.succeeded = true) (offloaded : r.offloaded = false)
  | offloaded (succeeded : r.succeeded = true) (offloaded : r.offloaded = true)
      (written : OffloadedAs service request entries w r w')

theorem writeOutcome_savePayloadRow
    (h : WriteRun host entries (savePayloadRow service request name) w trace r w')
    (hname : FinalName name) (habsent : w₀.files name = none) (hw : AsBefore entries w₀ [name] w)
    (hfile : w.files name = some request.content) :
    WriteOutcome service request entries w₀ (removals trace) r w' := by
  have hfinal := isTempName_finalName hname
  obtain ⟨w₁, rest, ⟨hw₁, hfile₁⟩, rfl, hrest⟩ :=
    h.of_call (stable_asBefore.and (stable_content hfinal)) ⟨hw, hfile⟩
  have hfiles := performSavePayload_files host.database request (payloadRef service request name)
    w₁.tick
  obtain ⟨hsaved, hcases⟩ := performSavePayload_connection host.database request
    (payloadRef service request name) w₁.tick
  change WriteRun host entries _ (performSavePayload host.database request
    (payloadRef service request name) w₁.tick).2 rest r w' at hrest
  change WriteRun host entries (if (performSavePayload host.database request
    (payloadRef service request name) w₁.tick).1.succeeded then _ else _) _ rest r w' at hrest
  generalize performSavePayload host.database request (payloadRef service request name) w₁.tick =
    saved at hfiles hsaved hcases hrest
  have hkept : ∀ n, n ∉ [name] → Untouched entries w₀ saved.2 n := by
    intro n hn
    unfold Untouched
    rw [hfiles]
    exact hw₁.files n hn
  rcases hcases with ⟨hsucceeded, now, heffect⟩ | ⟨hrefused, hcurrent⟩
  · rw [if_pos hsucceeded] at hrest
    have hsince : AsBefore entries { w₀ with connection := saved.2.connection } [name] saved.2 :=
      ⟨rfl, rfl, hkept⟩
    have hfile' : saved.2.files name = some request.content := by
      rw [hfiles]
      exact hfile₁
    obtain ⟨-, hresult, hw', hfile''⟩ :=
      hrest.of_pure (stable_asBefore.and (stable_content hfinal)) ⟨hsince, hfile'⟩
    cases hresult
    have hrow : RowWritten (payloadRef service request name).values w₀.connection.current
        w'.connection.current := by
      rw [hw'.current, ← hw₁.current]
      exact rowWritten_of_effect heffect
    exact .offloaded rfl rfl ⟨name, hname, rfl, habsent, hfile'',
      fun other hother => hw'.files other (by simpa using hother), hrow⟩
  · rw [hrefused] at hrest
    have hasBefore : AsBefore entries w₀ [name] saved.2 :=
      ⟨hcurrent.trans hw₁.current, hsaved.trans hw₁.saved, hkept⟩
    have hfailed : r.succeeded = false ∧
        FailedCleanly service request entries w₀ (removals rest) r w' :=
      failedCleanly_of_refused hrest habsent hasBefore
    exact .failed hfailed.1 hfailed.2

theorem writeOutcome_offloadPayload
    (h : WriteRun host entries (offloadPayload service request) w trace r w')
    (hprobes : ProbesAnswered trace) :
    WriteOutcome service request entries w (removals trace) r w' := by
  have hw : AsBefore entries w [] w := ⟨rfl, rfl, fun _ _ => .inl rfl⟩
  obtain ⟨w₁, rest₁, hw₁, rfl, hrun₁⟩ := h.of_call stable_asBefore hw
  have hscheduled : AsBefore entries w [] (host.perform .scheduleTempFileCleanup w₁).2 := hw₁.tick
  generalize (host.perform .scheduleTempFileCleanup w₁).2 = w₁' at hscheduled hrun₁
  cases hreply₁ : (host.perform .scheduleTempFileCleanup w₁).1 with
  | error e =>
      rw [hreply₁] at hrun₁
      cases hrun₁.of_throw
  | ok _ =>
  rw [hreply₁] at hrun₁
  obtain ⟨w₂, rest₂, hw₂, rfl, hrun₂⟩ := hrun₁.of_call stable_asBefore hscheduled
  obtain ⟨w₃, rest₃, hw₃, rfl, hrun₃⟩ := hrun₂.of_call (P := AsBefore entries w []) stable_asBefore
    hw₂.tick
  have hname := finalName_buildPayloadRef request (host.perform .random w₂).1
    (host.perform .random w₃).1
  obtain ⟨result, w₄, first, second, rfl, hfile, hsave⟩ :=
    Interleaved.of_bind (p := writePayloadFileAtomically _ request.content) hrun₃
  obtain ⟨hwritten, habsent⟩ := fileOutcome_writePayloadFileAtomically hfile hname
    hprobes.tail.tail.tail.left hw₃.tick
  have hremovals : removals (first ++ second) = removals first ++ removals second :=
    List.filterMap_append
  change WriteOutcome service request entries w (removals (first ++ second)) r w'
  cases result with
  | error error =>
      obtain ⟨rfl, hresult, hgaveUp⟩ := hsave.of_pure stable_gaveUp hwritten
      cases hresult
      rw [List.append_nil]
      refine .failed rfl ⟨rfl, rfl, hgaveUp.code, hgaveUp.current, hgaveUp.saved, hgaveUp.files, ?_⟩
      intro name message hremoved hname
      have htemp := hgaveUp.temps _ hremoved
      rw [hname] at htemp
      cases htemp
  | ok _ =>
      rw [hremovals, Finished.nothingRemoved hwritten, List.nil_append]
      exact writeOutcome_savePayloadRow hsave hname (habsent rfl) (Finished.asBefore hwritten)
        (Finished.file hwritten)

theorem writeOutcome_writePayload
    (h : WriteRun host entries (writePayload service request) w trace r w')
    (hprobes : ProbesAnswered trace) :
    WriteOutcome service request entries w (removals trace) r w' := by
  have hw : AsBefore entries w [] w := ⟨rfl, rfl, fun _ _ => .inl rfl⟩
  unfold writePayload at h
  split at h
  · obtain ⟨-, hresult, -⟩ := h.of_pure stable_asBefore hw
    cases hresult
    exact .kept rfl rfl
  split at h
  · obtain ⟨-, hresult, -⟩ := h.of_pure stable_asBefore hw
    cases hresult
    exact .kept rfl rfl
  split at h
  · obtain ⟨rfl, hresult, hw'⟩ := h.of_pure stable_asBefore hw
    cases hresult
    have hcode : ascii "payload_store_unavailable" ≠ [] := by decide
    exact .failed rfl ⟨rfl, rfl, hcode, hw'.current, hw'.saved,
      fun _ name => hw'.files name (by simp), fun _ _ hmem => absurd hmem List.not_mem_nil⟩
  · exact writeOutcome_offloadPayload h hprobes

end Row

/-- A write that returns a failure has left nothing behind, and one that has offloaded the content
has added one file, and written one row. -/
theorem writePayload_failsCleanly (host : PayloadHost) (service : PayloadService)
    (request : MemoryPayloadWriteRequest) (entries : List CleanupEntry) (w w' : World)
    (trace : PayloadTrace) (r : MemoryPayloadWriteResult)
    (hrun : WriteRun host entries (writePayload service request) w trace r w')
    (hprobes : ProbesAnswered trace) :
    (r.succeeded = false → FailedCleanly service request entries w (removals trace) r w') ∧
      (r.succeeded = true → r.offloaded = true → OffloadedAs service request entries w r w') := by
  rcases writeOutcome_writePayload hrun hprobes with ⟨hfailed, hcleanly⟩ | ⟨hok, hkept⟩ |
    ⟨hok, hoffloaded, hwritten⟩
  · exact ⟨fun _ => hcleanly, fun hok => by rw [hfailed] at hok; cases hok⟩
  · refine ⟨fun hfailed => ?_, fun _ hoffloaded => ?_⟩
    · rw [hok] at hfailed
      cases hfailed
    · rw [hkept] at hoffloaded
      cases hoffloaded
  · refine ⟨fun hfailed => ?_, fun _ _ => hwritten⟩
    rw [hok] at hfailed
    cases hfailed

/-! ## A row that is not saved, and a row that is there already -/

/-- A store that refuses every statement. -/
def refusingHost : PayloadHost where
  database := { Host.obliging with outcome _ := { accepted := false } }
  outcome _ := {}

def shortRequest : MemoryPayloadWriteRequest where
  sessionId := ascii "s"
  content := ascii "second"

theorem writePayload_failsCleanly_refused :
    let ran := (writePayload eagerService shortRequest).run refusingHost.perform emptyWorld
    ∃ r, ran.1 = .ok r ∧ FailedCleanly eagerService shortRequest [] emptyWorld
      (removals ((writePayload eagerService shortRequest).trace refusingHost.perform emptyWorld))
      r ran.2 :=
  ⟨_, rfl, (writePayload_failsCleanly refusingHost eagerService shortRequest [] emptyWorld _ _ _
    (interleaved_run _ _) (probesAnswered_of_none (by decide +kernel))).1 rfl⟩

/-- A payload was written, and its file is gone. -/
def danglingWorld : World :=
  let ran := (writePayload eagerService { shortRequest with content := ascii "first" }).run
    (failingAt none).perform emptyWorld
  { ran.2 with files := fun _ => none }

/-- The same numbers are drawn again, so the row of the lost file takes the new payload. -/
theorem writePayload_adds_no_row :
    let ran := (writePayload eagerService shortRequest).run (failingAt none).perform danglingWorld
    (∃ r, WriteRun (failingAt none) [] (writePayload eagerService shortRequest) danglingWorld
        ((writePayload eagerService shortRequest).trace (failingAt none).perform danglingWorld) r
        ran.2 ∧ r.succeeded = true ∧ r.offloaded = true) ∧
      ran.2.connection.current.payloads.rows.length =
        danglingWorld.connection.current.payloads.rows.length :=
  ⟨⟨_, interleaved_run _ _, rfl, rfl⟩, by decide +kernel⟩

end AgentMemory
