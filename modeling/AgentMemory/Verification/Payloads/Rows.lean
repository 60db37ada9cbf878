import AgentMemory.Verification.Payloads.Names
import AgentMemory.Verification.Store.Statements

/-! # Payload rows and the files behind them -/

namespace AgentMemory

open Foundation

/-- The payload rows of the store, as the connection sees them and as they are persisted. -/
def World.payloadRows (w : World) : List PayloadRow :=
  (w.connection.current.payloads.rows ++ w.connection.durable.payloads.rows).map Prod.snd

/-- The content of the request that the row of a ref was inserted for. -/
def World.origin (w : World) (ref : SqlText) : Option Text :=
  w.created.lookup ref

/-- The file `name` stands behind a row: it has the content of the request that created it. -/
structure StandsBehind (service : PayloadService) (w : World) (row : PayloadRow)
    (name content : Text) : Prop where
  final : FinalName name
  ref : row.ref = bindText (service.uri name)
  origin : w.origin row.ref = some content
  file : w.files name = some content
  nonempty : content ≠ []

/-- Every payload row has its file, and a persisted row is also seen. -/
structure Backed (service : PayloadService) (w : World) : Prop where
  files : ∀ row ∈ w.payloadRows, ∃ name content, StandsBehind service w row name content
  seen : ∀ row ∈ w.payloadRows, w.hasRow row.ref = true

/-- No row refers to the file. -/
def Unreferenced (service : PayloadService) (name : Text) (w : World) : Prop :=
  ∀ row ∈ w.payloadRows, row.ref ≠ bindText (service.uri name)

theorem hasRow_iff (ref : SqlText) (w : World) :
    w.hasRow ref = true ↔ ∃ r ∈ w.connection.current.payloads.rows, r.2.ref = ref := by
  simp [World.hasRow]

theorem mem_payloadRows_of_hasRow {ref : SqlText} {w : World} (h : w.hasRow ref = true) :
    ∃ row ∈ w.payloadRows, row.ref = ref := by
  obtain ⟨r, hr, href⟩ := (hasRow_iff ref w).mp h
  exact ⟨r.2, List.mem_map_of_mem (List.mem_append_left _ hr), href⟩

/-- A file that does not exist stands behind no row. -/
theorem Backed.unreferenced {service : PayloadService} {w : World} (h : Backed service w)
    {name : Text} (hname : FinalName name) (hnone : w.files name = none) :
    Unreferenced service name w := by
  intro row hrow href
  obtain ⟨name', content, hstands⟩ := h.files row hrow
  have heq : name' = name :=
    (bindText_uri_inj service hstands.final hname).mp (hstands.ref.symm.trans href)
  have hfile := hstands.file
  rw [heq, hnone] at hfile
  cases hfile

/-! ## Saving a row -/

/-- The values bound by `SavePayloadUnlocked`. -/
def MemoryPayloadRef.values (payload : MemoryPayloadRef) : PayloadValues where
  agentId := bindText payload.agentId
  sessionId := bindText payload.sessionId
  ref := bindText payload.uri
  contentType := bindText payload.contentType
  toolName := bindText payload.toolName
  summary := bindText payload.summary
  originalChars := payload.originalChars

theorem savePayloadUnlocked_eq (payload : MemoryPayloadRef) :
    savePayloadUnlocked payload = step (.upsertPayload payload.values) := rfl

/-- Saving a payload leaves the transaction state alone; it succeeds with the row stored, or stores
nothing. -/
theorem run_savePayload (host : Host) (payload : MemoryPayloadRef) (c : Connection) :
    ∃ result c', (savePayload payload).runOn host c = (.ok result, c') ∧ c'.saved = c.saved ∧
      ((result.succeeded = true ∧ ∃ now,
          (Write.upsertPayload payload.values).effect now c.current = some c'.current) ∨
        (result.succeeded = false ∧ c'.current = c.current)) := by
  unfold savePayload
  rw [run_reporting, savePayloadUnlocked_eq]
  rcases run_step host (.upsertPayload payload.values) c with
    ⟨db, heffect, hrun⟩ | ⟨message, hrun⟩
  · rw [hrun]
    exact ⟨_, _, rfl, rfl, .inl ⟨rfl, _, heffect⟩⟩
  · rw [hrun]
    exact ⟨_, _, rfl, rfl, .inr ⟨rfl, rfl⟩⟩

section Upsert

variable {v : PayloadValues} {now : Text} {db db' : Database}
  (h : (Write.upsertPayload v).effect now db = some db')

include h

/-- After the upsert there is a row with the ref, and no ref is lost. -/
theorem upsertPayload_refs (ref : SqlText)
    (href : ref = v.ref ∨ ∃ r ∈ db.payloads.rows, r.2.ref = ref) :
    ∃ r ∈ db'.payloads.rows, r.2.ref = ref := by
  simp only [Write.effect] at h
  split at h
  · next hany =>
      cases h
      have hold : ∃ r ∈ db.payloads.rows, r.2.ref = ref := by
        rcases href with rfl | hold
        · simpa using hany
        · exact hold
      obtain ⟨r, hr, rfl⟩ := hold
      refine ⟨_, List.mem_map_of_mem hr, ?_⟩
      by_cases hv : (r.2.ref == v.ref) = true
      · simp only [hv, if_true]
        exact (beq_iff_eq.mp hv).symm
      · simp only [hv, if_false, Bool.false_eq_true]
  · obtain ⟨payloads, hins, h⟩ := Option.bind_eq_some_iff.mp h
    cases h
    obtain ⟨i, -, hrows⟩ := Table.insert_eq_some hins
    dsimp only
    rw [hrows]
    rcases href with rfl | ⟨r, hr, href⟩
    · exact ⟨_, List.mem_append_right _ (List.mem_singleton_self _), rfl⟩
    · exact ⟨r, List.mem_append_left _ hr, href⟩

/-- Without a row for the ref, the upsert only adds one. -/
theorem upsertPayload_inserts (hnone : ∀ r ∈ db.payloads.rows, r.2.ref ≠ v.ref) :
    ∀ r ∈ db'.payloads.rows, r ∈ db.payloads.rows ∨ r.2.ref = v.ref := by
  simp only [Write.effect] at h
  split at h
  · next hany =>
      obtain ⟨r, hr, href⟩ := List.any_eq_true.mp hany
      exact absurd (beq_iff_eq.mp href) (hnone r hr)
  · obtain ⟨payloads, hins, h⟩ := Option.bind_eq_some_iff.mp h
    cases h
    obtain ⟨i, -, hrows⟩ := Table.insert_eq_some hins
    intro r hr
    dsimp only at hr
    rw [hrows] at hr
    rcases List.mem_append.mp hr with hr | hr
    · exact .inl hr
    · rw [List.mem_singleton.mp hr]
      exact .inr rfl

end Upsert

section Save

variable (host : Host) (request : MemoryPayloadWriteRequest) (payload : MemoryPayloadRef)
  (w : World)

theorem performSavePayload_files :
    (performSavePayload host request payload w).2.files = w.files := by
  obtain ⟨result, c', hrun, -⟩ := run_savePayload host payload w.connection
  unfold performSavePayload
  rw [hrun]
  dsimp only
  split <;> rfl

/-- The transaction state stays; the row is upserted, or nothing is stored. -/
theorem performSavePayload_connection :
    (performSavePayload host request payload w).2.connection.saved = w.connection.saved ∧
      (((performSavePayload host request payload w).1.succeeded = true ∧ ∃ now,
          (Write.upsertPayload payload.values).effect now w.connection.current =
            some (performSavePayload host request payload w).2.connection.current) ∨
        ((performSavePayload host request payload w).1.succeeded = false ∧
          (performSavePayload host request payload w).2.connection.current =
            w.connection.current)) := by
  obtain ⟨result, c', hrun, hsaved, hcases⟩ := run_savePayload host payload w.connection
  have hresult : (performSavePayload host request payload w).1 = result := by
    unfold performSavePayload
    rw [hrun]
  have hconnection : (performSavePayload host request payload w).2.connection = c' := by
    unfold performSavePayload
    rw [hrun]
    dsimp only
    split <;> rfl
  rw [hresult, hconnection]
  exact ⟨hsaved, hcases⟩

/-- A row that is there stays, and it stays the row of its request. -/
theorem performSavePayload_keeps {ref : SqlText} (h : w.hasRow ref = true) :
    (performSavePayload host request payload w).2.hasRow ref = true ∧
      (performSavePayload host request payload w).2.origin ref = w.origin ref := by
  obtain ⟨result, c', hrun, -, hcases⟩ := run_savePayload host payload w.connection
  have hrow : ({ w with connection := c' } : World).hasRow ref = true := by
    rw [hasRow_iff] at h ⊢
    rcases hcases with ⟨-, now, heffect⟩ | ⟨-, hcurrent⟩
    · exact upsertPayload_refs heffect ref (.inr h)
    · dsimp only
      rw [hcurrent]
      exact h
  unfold performSavePayload
  rw [hrun]
  dsimp only
  split
  · next hnew =>
      refine ⟨hrow, ?_⟩
      have hne : ref ≠ bindText payload.uri := by
        rintro rfl
        rw [h] at hnew
        cases hnew
      unfold World.origin
      rw [List.lookup_cons, beq_false_of_ne hne]
  · exact ⟨hrow, rfl⟩

/-- Saving the row of a file that no row refers to: it is added as that of the request, or nothing
happens. -/
theorem performSavePayload_unreferenced
    (hnone : ∀ row ∈ w.payloadRows, row.ref ≠ bindText payload.uri) :
    let out := performSavePayload host request payload w
    (out.1.succeeded = true ∧ out.2.origin (bindText payload.uri) = some request.content ∧
        out.2.hasRow (bindText payload.uri) = true ∧
        ∀ row ∈ out.2.payloadRows, row ∈ w.payloadRows ∨ row.ref = bindText payload.uri) ∨
      (out.1.succeeded = false ∧ out.2.payloadRows = w.payloadRows) := by
  intro out
  obtain ⟨result, c', hrun, hsaved, hcases⟩ := run_savePayload host payload w.connection
  have hout : out = performSavePayload host request payload w := rfl
  have hbefore : w.hasRow (bindText payload.uri) = false := by
    rw [Bool.eq_false_iff]
    intro hrow
    obtain ⟨row, hrow, href⟩ := mem_payloadRows_of_hasRow hrow
    exact hnone row hrow href
  unfold performSavePayload at hout
  rw [hrun] at hout
  dsimp only at hout
  rw [hbefore] at hout
  rcases hcases with ⟨hsucceeded, now, heffect⟩ | ⟨hfailed, hcurrent⟩
  · have hafter : ({ w with connection := c' } : World).hasRow (bindText payload.uri) = true :=
      (hasRow_iff _ _).mpr (upsertPayload_refs heffect _ (.inl rfl))
    rw [hafter, if_pos (by decide)] at hout
    have hinserts : ∀ r ∈ c'.current.payloads.rows,
        r ∈ w.connection.current.payloads.rows ∨ r.2.ref = bindText payload.uri := by
      refine upsertPayload_inserts heffect fun r hr => ?_
      exact hnone r.2 (List.mem_map_of_mem (List.mem_append_left _ hr))
    rw [hout]
    refine .inl ⟨hsucceeded, by simp [World.origin], hafter, ?_⟩
    intro row hrow
    obtain ⟨r, hr, rfl⟩ := List.mem_map.mp hrow
    rcases List.mem_append.mp hr with hr | hr
    · exact (hinserts r hr).imp
        (fun hr => List.mem_map_of_mem (List.mem_append_left _ hr)) id
    · unfold Session.durable at hr
      dsimp only at hr
      rw [hsaved] at hr
      cases hsavedBefore : w.connection.saved with
      | none =>
          rw [hsavedBefore] at hr
          exact (hinserts r hr).imp
            (fun hr => List.mem_map_of_mem (List.mem_append_left _ hr)) id
      | some d =>
          rw [hsavedBefore] at hr
          refine .inl (List.mem_map_of_mem (List.mem_append_right _ ?_))
          unfold Session.durable
          rw [hsavedBefore]
          exact hr
  · have hafter : ({ w with connection := c' } : World).hasRow (bindText payload.uri) = false := by
      rw [← hbefore]
      unfold World.hasRow
      rw [hcurrent]
    rw [hafter, if_neg (by decide)] at hout
    rw [hout]
    refine .inr ⟨hfailed, ?_⟩
    simp [World.payloadRows, Session.durable, hcurrent, hsaved]

end Save

end AgentMemory
