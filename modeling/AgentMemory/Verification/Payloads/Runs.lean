import AgentMemory.Verification.Payloads.Integrity

/-! # Runs of the payload service

Between any two steps of a write a cleanup may handle an entry and the process may crash. A run
keeps an assertion of the outline of the write that is under way, so every state it reaches has a
file behind each payload row. -/

namespace AgentMemory

open Foundation

section Runs

variable (host : PayloadHost) (service : PayloadService)

def PayloadState.run (s : PayloadState) (actions : List PayloadAction) : PayloadState :=
  actions.foldl (fun s action => s.act host service action) s

/-- If the next step of the write is a probe for a final file that exists, it does not fail. -/
def PayloadAction.Reliable (s : PayloadState) : PayloadAction → Prop
  | .step => ∀ p ∈ s.inFlight, p.Admits (ProbesReliably host) s.world
  | _ => True

def ReliableRun : PayloadState → List PayloadAction → Prop
  | _, [] => True
  | s, action :: actions =>
      action.Reliable host s ∧ ReliableRun (s.act host service action) actions

instance (s : PayloadState) : ∀ action : PayloadAction, Decidable (action.Reliable host s)
  | .step =>
      match hflight : s.inFlight with
      | none => isTrue (by simp [PayloadAction.Reliable, hflight])
      | some p => decidable_of_iff (p.Admits (ProbesReliably host) s.world)
          (by simp [PayloadAction.Reliable, hflight])
  | .write _ | .cleanup _ | .crash => isTrue trivial

instance : ∀ s actions, Decidable (ReliableRun host service s actions)
  | _, [] => isTrue trivial
  | s, action :: actions =>
      have := instDecidableReliableRun (s.act host service action) actions
      inferInstanceAs (Decidable (action.Reliable host s ∧ _))

/-- No transaction is open, and an assertion of the write that is under way holds. -/
structure PayloadState.Consistent (s : PayloadState) : Prop where
  autocommit : s.world.connection.saved = none
  outlined : match s.inFlight with
    | none => Backed service s.world
    | some p => ∃ P, WriteOutline host service (fun _ => Backed service) p P ∧ P s.world

end Runs

section Steps

variable {host : PayloadHost} {service : PayloadService} {s : PayloadState}

theorem PayloadState.Consistent.backed (h : s.Consistent host service) :
    Backed service s.world := by
  have houtlined := h.outlined
  cases hflight : s.inFlight with
  | none =>
      rw [hflight] at houtlined
      exact houtlined
  | some p =>
      rw [hflight] at houtlined
      obtain ⟨P, houtline, hP⟩ := houtlined
      exact houtline.invariant _ hP

/-! ## One action -/

/-- An operation leaves the transaction state alone, keeps every row, and keeps it the row of its
request. -/
theorem perform_keeps (host : PayloadHost) (op : PayloadOp) (w : World) :
    (host.perform op w).2.connection.saved = w.connection.saved ∧
      ∀ ref, w.hasRow ref = true → (host.perform op w).2.hasRow ref = true ∧
        (host.perform op w).2.origin ref = w.origin ref := by
  have hsame : ∀ w' : World, w'.connection = w.connection → w'.created = w.created →
      w'.connection.saved = w.connection.saved ∧
        ∀ ref, w.hasRow ref = true → w'.hasRow ref = true ∧ w'.origin ref = w.origin ref := by
    intro w' hconnection hcreated
    refine ⟨by rw [hconnection], fun ref href => ⟨?_, ?_⟩⟩
    · unfold World.hasRow at href ⊢
      rw [hconnection]
      exact href
    · unfold World.origin
      rw [hcreated]
  cases op with
  | scheduleTempFileCleanup => exact hsame _ rfl rfl
  | random => exact hsame _ rfl rfl
  | createDirectories => exact hsame _ rfl rfl
  | fileExists name => exact hsame _ rfl rfl
  | openFile name =>
      simp only [PayloadHost.perform]
      split <;> exact hsame _ rfl rfl
  | writeFile name content =>
      simp only [PayloadHost.perform]
      by_cases hfile : (w.files name).isSome = true
      · rw [if_pos hfile]
        exact hsame _ rfl rfl
      · rw [if_neg hfile]
        exact hsame _ rfl rfl
  | rename source target =>
      simp only [PayloadHost.perform]
      split
      · split <;> exact hsame _ rfl rfl
      · exact hsame _ rfl rfl
  | removeFile name =>
      simp only [PayloadHost.perform]
      split <;> exact hsame _ rfl rfl
  | savePayload request payload =>
      refine ⟨(performSavePayload_connection host.database request payload w.tick).1,
        fun ref href => ?_⟩
      exact performSavePayload_keeps host.database request payload w.tick href

theorem crash_eq (h : s.world.connection.saved = none) : s.world.crash = s.world := by
  obtain ⟨⟨files, ⟨current, saved, clock⟩, time, created⟩, inFlight⟩ := s
  simp only at h
  subst h
  rfl

theorem act_keeps (h : s.Consistent host service) (action : PayloadAction) :
    (s.act host service action).world.connection.saved = none ∧
      ∀ ref, s.world.hasRow ref = true →
        (s.act host service action).world.hasRow ref = true ∧
          (s.act host service action).world.origin ref = s.world.origin ref := by
  cases action with
  | write request =>
      simp only [PayloadState.act]
      split <;> exact ⟨h.autocommit, fun ref href => ⟨href, rfl⟩⟩
  | step =>
      simp only [PayloadState.act]
      split
      · exact ⟨h.autocommit, fun ref href => ⟨href, rfl⟩⟩
      · next op next _ =>
          have hkeeps := perform_keeps host op s.world
          exact ⟨hkeeps.1.trans h.autocommit, hkeeps.2⟩
      · exact ⟨h.autocommit, fun ref href => ⟨href, rfl⟩⟩
  | cleanup entry =>
      simp only [PayloadState.act]
      rcases cleans_cases ⟨entry, rfl⟩ with heq | ⟨name, -, heq⟩
      · rw [heq]
        exact ⟨h.autocommit, fun ref href => ⟨href, rfl⟩⟩
      · rw [heq]
        exact ⟨h.autocommit, fun ref href => ⟨href, rfl⟩⟩
  | crash =>
      simp only [PayloadState.act]
      rw [crash_eq h.autocommit]
      exact ⟨h.autocommit, fun ref href => ⟨href, rfl⟩⟩

/-- What every action preserves. -/
theorem act_consistent (h : s.Consistent host service) {action : PayloadAction}
    (hreliable : action.Reliable host s) : (s.act host service action).Consistent host service := by
  refine ⟨(act_keeps h action).1, ?_⟩
  have houtlined := h.outlined
  cases action with
  | write request =>
      simp only [PayloadState.act]
      cases hflight : s.inFlight with
      | none => exact ⟨_, outline_writePayload host service request, h.backed⟩
      | some p =>
          rw [hflight] at houtlined ⊢
          exact houtlined
  | step =>
      simp only [PayloadState.act]
      cases hflight : s.inFlight with
      | none =>
          rw [hflight]
          exact h.backed
      | some p =>
          rw [hflight] at houtlined
          obtain ⟨P, houtline, hP⟩ := houtlined
          cases p with
          | pure result => exact h.backed
          | throw e => exact h.backed
          | call op next =>
              exact houtline.advance hP (hreliable _ hflight)
  | cleanup entry =>
      simp only [PayloadState.act]
      cases hflight : s.inFlight with
      | none => exact stable_backed _ _ ⟨entry, rfl⟩ h.backed
      | some p =>
          rw [hflight] at houtlined
          obtain ⟨P, houtline, hP⟩ := houtlined
          exact ⟨P, houtline, houtline.stable _ _ ⟨entry, rfl⟩ hP⟩
  | crash =>
      simp only [PayloadState.act]
      rw [crash_eq h.autocommit]
      exact h.backed

/-! ## A whole run -/

theorem run_consistent (h : s.Consistent host service) {actions : List PayloadAction}
    (hreliable : ReliableRun host service s actions) :
    (s.run host service actions).Consistent host service := by
  induction actions generalizing s with
  | nil => exact h
  | cons action actions ih => exact ih (act_consistent h hreliable.1) hreliable.2

theorem run_keeps (h : s.Consistent host service) {actions : List PayloadAction}
    (hreliable : ReliableRun host service s actions) {ref : SqlText}
    (href : s.world.hasRow ref = true) :
    (s.run host service actions).world.hasRow ref = true ∧
      (s.run host service actions).world.origin ref = s.world.origin ref := by
  induction actions generalizing s with
  | nil => exact ⟨href, rfl⟩
  | cons action actions ih =>
      obtain ⟨hrow, horigin⟩ := (act_keeps h action).2 ref href
      obtain ⟨hrow', horigin'⟩ := ih (act_consistent h hreliable.1) hreliable.2 hrow
      exact ⟨hrow', horigin'.trans horigin⟩

theorem reliableRun_append {actions later : List PayloadAction} :
    ReliableRun host service s (actions ++ later) ↔ ReliableRun host service s actions ∧
      ReliableRun host service (s.run host service actions) later := by
  induction actions generalizing s with
  | nil => simp [ReliableRun, PayloadState.run]
  | cons action actions ih =>
      simp only [List.cons_append, ReliableRun, ih, and_assoc]
      rfl

/-- The file behind a row is the same in every later state. -/
theorem StandsBehind.later {row : PayloadRow} {name content : Text}
    (hstands : StandsBehind service s.world row name content) (h : s.Consistent host service)
    (hrow : row ∈ s.world.payloadRows) {actions : List PayloadAction}
    (hreliable : ReliableRun host service s actions) :
    (s.run host service actions).world.files name = some content := by
  obtain ⟨hkept, horigin⟩ := run_keeps h hreliable (h.backed.seen row hrow)
  obtain ⟨row', hrow', href'⟩ := mem_payloadRows_of_hasRow hkept
  obtain ⟨name', content', hstands'⟩ := (run_consistent h hreliable).backed.files row' hrow'
  have hname : name' = name :=
    (bindText_uri_inj service hstands'.final hstands.final).mp
      (hstands'.ref.symm.trans (href'.trans hstands.ref))
  have hcontent : some content' = some content := by
    rw [← hstands'.origin, ← hstands.origin, href', horigin]
  rw [← hname, ← hcontent]
  exact hstands'.file

end Steps

/-! ## Reading a payload back -/

section Readable

variable (weaklyCanonical : Text → Option Text) (service : PayloadService)

/-- The payload directory canonicalises to the same location throughout, and so do the plain names
in it. -/
structure CanonicalisesInPlace : Prop where
  resolved : service.canonicalPayloadDirectory ≠ []
  noSeparator : service.canonicalPayloadDirectory.getLast? ≠ some 0x2F
  directory : weaklyCanonical service.canonicalPayloadDirectory =
    some service.canonicalPayloadDirectory
  file : ∀ name : Text, 0x2F ∉ name → 0 ∉ name → name ∉ [[], ascii ".", ascii ".."] →
    weaklyCanonical (service.payloadPath name) =
      some (service.canonicalPayloadDirectory ++ 0x2F :: name)

/-- The file of the row has the content of the request that created the row, and is read back. -/
structure Intact (w : World) (row : PayloadRow) (name content : Text) : Prop where
  ref : columnText row.ref = service.uri name
  origin : w.origin row.ref = some content
  file : w.files name = some content
  read : readPayload weaklyCanonical service w (columnText row.ref) =
    { succeeded := true, content }

variable {weaklyCanonical service}

theorem FinalName.plain {name : Text} (h : FinalName name) :
    name ∉ [[], ascii ".", ascii ".."] := by
  obtain ⟨ref, -, rfl⟩ := h
  intro hmem
  have hlength : ∀ other ∈ [[], ascii ".", ascii ".."], other.length < (ascii ".txt").length := by
    decide
  have hlt := hlength _ hmem
  rw [List.length_append] at hlt
  omega

theorem readPayload_uri (hcanonical : CanonicalisesInPlace weaklyCanonical service) {w : World}
    {name content : Text} (hname : FinalName name) (hfile : w.files name = some content)
    (hcontent : content ≠ []) :
    readPayload weaklyCanonical service w (service.uri name) = { succeeded := true, content } := by
  have hpath := hcanonical.file name hname.slash_notMem hname.zero_notMem hname.plain
  have hscheme : (ascii "file://").isPrefixOf (service.uri name) = true :=
    List.isPrefixOf_iff_prefix.mpr (List.prefix_append _ _)
  have hlength : (ascii "file://").length = 7 := by decide
  have hdrop : (service.uri name).drop 7 = service.payloadPath name := by
    rw [PayloadService.uri, ← hlength, List.drop_left]
  have hinside : isPathInsideDirectory weaklyCanonical (service.payloadPath name)
      service.canonicalPayloadDirectory = true := by
    rw [isPathInsideDirectory_iff]
    exact ⟨_, _, hpath, hcanonical.directory, [name], by simp,
      pathComponents_concat hcanonical.resolved hcanonical.noSeparator hname.ne_nil
        hname.slash_notMem⟩
  have hload : loadTextFile w service.canonicalPayloadDirectory
      (canonicalPath weaklyCanonical (service.payloadPath name)) = some content := by
    have hfront : (service.canonicalPayloadDirectory ++ [0x2F]).isPrefixOf
        (service.canonicalPayloadDirectory ++ 0x2F :: name) = true := by
      simp [List.isPrefixOf_iff_prefix]
    unfold loadTextFile canonicalPath
    rw [hpath, Option.getD_some, if_pos hfront, List.append_cons, List.drop_left' (by simp)]
    exact hfile
  unfold readPayload readPayloadWith
  simp only [hscheme, hdrop, hinside, hload]
  simp [hcanonical.resolved, hcontent]

theorem StandsBehind.intact (hcanonical : CanonicalisesInPlace weaklyCanonical service) {w : World}
    {row : PayloadRow} {name content : Text} (h : StandsBehind service w row name content) :
    Intact weaklyCanonical service w row name content := by
  have href : columnText row.ref = service.uri name := by
    rw [h.ref, columnText_bindText, cStr_eq_self (zero_notMem_uri service h.final)]
  refine ⟨href, h.origin, h.file, ?_⟩
  rw [href]
  exact readPayload_uri hcanonical h.final h.file h.nonempty

end Readable

/-- In every state of a run that starts without payload rows, and whose probes for existing final
files do not fail, every payload row is intact; and whatever follows, its file stays as it is. -/
theorem payload_rows_intact (host : PayloadHost) (service : PayloadService)
    (weaklyCanonical : Text → Option Text)
    (hcanonical : CanonicalisesInPlace weaklyCanonical service) (w : World)
    (hrows : w.payloadRows = []) (hsaved : w.connection.saved = none)
    (actions later : List PayloadAction)
    (hreliable : ReliableRun host service { world := w } (actions ++ later)) :
    let s := PayloadState.run host service { world := w } actions
    let s' := s.run host service later
    ∀ row ∈ s.world.payloadRows, ∃ name content,
      Intact weaklyCanonical service s.world row name content ∧
        s'.world.files name = some content ∧
        readPayload weaklyCanonical service s'.world (columnText row.ref) =
          { succeeded := true, content } := by
  intro s s' row hrow
  obtain ⟨hbefore, hafter⟩ := reliableRun_append.mp hreliable
  have hinitial : PayloadState.Consistent host service { world := w } :=
    ⟨hsaved, ⟨by simp [hrows], by simp [hrows]⟩⟩
  have hconsistent := run_consistent hinitial hbefore
  obtain ⟨name, content, hstands⟩ := hconsistent.backed.files row hrow
  have hlater := hstands.later hconsistent hrow hafter
  have hintact := hstands.intact hcanonical
  refine ⟨name, content, hintact, hlater, ?_⟩
  rw [hintact.ref]
  exact readPayload_uri hcanonical hstands.final hlater hstands.nonempty

/-! ## A probe that fails -/

/-- A service that offloads everything. -/
def eagerService : PayloadService where
  config := { offloadThresholdChars := 1 }
  dataPath := ⟨ascii "/data", by decide⟩
  canonicalPayloadDirectory := ascii "/data/memory_runtime/payloads"

/-- The operation with the given number reports an error, if there is one. All numbers drawn at
random are equal. -/
def failingAt (clock : Option ℕ) : PayloadHost where
  database := .obliging
  outcome n := { failed := some n == clock }

/-- Two writes with the same ids, and so with the same ref. -/
def collidingWrites : List PayloadAction :=
  let request (content : String) : MemoryPayloadWriteRequest :=
    { sessionId := ascii "s", content := ascii content }
  .write (request "first") :: List.replicate 13 .step ++
    .write (request "second") :: List.replicate 11 .step

/-- Nothing is stored yet. -/
def emptyWorld : World where
  files _ := none
  connection := { current := .empty }

/-- The probe of the first write fails, which does no harm. -/
theorem payload_rows_intact_colliding :
    let s := PayloadState.run (failingAt (some 4)) eagerService { world := emptyWorld }
      collidingWrites
    s.world.payloadRows ≠ [] ∧ ∀ row ∈ s.world.payloadRows, ∃ name content,
      Intact some eagerService s.world row name content := by
  intro s
  have hcanonical : CanonicalisesInPlace some eagerService := by
    refine ⟨by decide, by decide, rfl, fun name _ _ _ => ?_⟩
    rw [payloadPath_eq]
    rfl
  refine ⟨by decide +kernel, fun row hrow => ?_⟩
  obtain ⟨name, content, hintact, -⟩ := payload_rows_intact (failingAt (some 4)) eagerService some
    hcanonical emptyWorld rfl rfl collidingWrites [] (by decide +kernel) row hrow
  exact ⟨name, content, hintact⟩

/-- The probe of the second write fails, and the file of the first is overwritten. -/
theorem not_intact_probe_failed :
    let s := PayloadState.run (failingAt (some 16)) eagerService { world := emptyWorld }
      collidingWrites
    ¬∀ row ∈ s.world.payloadRows, ∃ name content, Intact some eagerService s.world row name content := by
  intro s h
  have hrow : ∃ row ∈ s.world.payloadRows,
      columnText row.ref = eagerService.uri (ascii "s_payload_00.txt") ∧
        s.world.origin row.ref = some (ascii "first") := by
    decide +kernel
  have hoverwritten : s.world.files (ascii "s_payload_00.txt") = some (ascii "second") := by
    decide +kernel
  obtain ⟨row, hmem, href, horigin⟩ := hrow
  obtain ⟨name, content, hintact⟩ := h row hmem
  have hname : name = ascii "s_payload_00.txt" := uri_injective eagerService (hintact.ref ▸ href)
  have hcontent : some content = some (ascii "second") := by
    rw [← hintact.file, hname, hoverwritten]
  rw [hintact.origin, hcontent] at horigin
  revert horigin
  decide

end AgentMemory
