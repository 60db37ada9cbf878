import AgentMemory.Model.Runtime
import AgentMemory.Verification.Store.Statements

/-! # What appending an event does, and how its row is read -/

namespace AgentMemory

open Foundation

/-- The event table has one more row at its end, with the values of the event. -/
def Appended (event : MemoryEvent) (db db' : Database) : Prop :=
  ∃ metadataJson now i, db' = { db with events := db'.events } ∧
    db'.events.rows = db.events.rows ++
      [(i, { event.values metadataJson with createdAt := now })]

theorem effect_insertEvent {event : MemoryEvent} {metadataJson now : Text} {db db' : Database}
    (h : (Write.insertEvent (event.values metadataJson)).effect now db = some db') :
    Appended event db db' := by
  obtain ⟨events, hins, h⟩ := Option.bind_eq_some_iff.mp h
  cases h
  obtain ⟨i, -, hrows⟩ := Table.insert_eq_some hins
  exact ⟨metadataJson, now, i, rfl, hrows⟩

/-- The store cursor of an event names its row. -/
theorem eq_of_readEventRow_eq {host : Host} {events : Table EventRow} {row row' : Rowid × EventRow}
    (hrow : row ∈ events.rows) (hrow' : row' ∈ events.rows)
    (h : readEventRow host row' = readEventRow host row) : row' = row := by
  have hcursor : decimal row'.1.val = decimal row.1.val := congrArg MemoryEvent.storeCursor h
  rw [decimal_natCast, decimal_natCast] at hcursor
  exact List.inj_on_of_nodup_map events.rowids_nodup hrow' hrow
    (Fin.ext (decimalNat_injective hcursor))

theorem run_saveEventUnlocked (host : Host) (event : MemoryEvent) (c : Connection) :
    ∃ reply c', (saveEventUnlocked event).runOn host c = (reply, c') ∧ c'.saved = c.saved ∧
      ((reply = .ok (.ok ()) ∧ Appended event c.current c'.current) ∨
        (reply ≠ .ok (.ok ()) ∧ c'.current = c.current)) := by
  unfold saveEventUnlocked
  rw [run_andThen]
  rcases run_step host .prepare c with ⟨db, heffect, hrun⟩ | ⟨message, hrun⟩
  · cases heffect
    rw [hrun]
    dsimp only
    cases (if event.metadata.isObject then event.metadata.dump else (Json.object []).dump) with
    | error e => exact ⟨_, _, rfl, rfl, .inr ⟨by simp, rfl⟩⟩
    | ok metadataJson =>
        change ∃ reply c', (step (.insertEvent (event.values metadataJson))).runOn host
          { c with clock := c.clock + 1 } = (reply, c') ∧ _
        rcases run_step host (.insertEvent (event.values metadataJson))
          { c with clock := c.clock + 1 } with ⟨db, heffect, hrun⟩ | ⟨message, hrun⟩
        · rw [hrun]
          exact ⟨_, _, rfl, rfl, .inl ⟨rfl, effect_insertEvent heffect⟩⟩
        · rw [hrun]
          exact ⟨_, _, rfl, rfl, .inr ⟨by simp, rfl⟩⟩
  · rw [hrun]
    exact ⟨_, _, rfl, rfl, .inr ⟨by simp, rfl⟩⟩

/-- Appending an event leaves the transaction state alone, and either succeeds with the event
stored, or stores nothing. -/
theorem run_appendEvent (host : Host) (services : RuntimeServices) (event : MemoryEvent)
    (c : Connection) :
    ∃ reply c', (appendEvent services event).runOn host c = (reply, c') ∧ c'.saved = c.saved ∧
      ((reply = .ok memorySuccess ∧ Appended event c.current c'.current) ∨
        ((∀ result, reply = .ok result → result.succeeded = false) ∧ c'.current = c.current)) := by
  unfold appendEvent
  cases services.store with
  | false =>
      refine ⟨_, _, rfl, rfl, .inr ⟨?_, rfl⟩⟩
      intro result h
      cases h
      rfl
  | true =>
      have hsave := run_reporting host "SaveEvent" (saveEventUnlocked event) c
      obtain ⟨reply, c', hrun, hsaved, hcases⟩ := run_saveEventUnlocked host event c
      rw [hrun] at hsave
      simp only [Bool.not_true, Bool.false_eq_true, if_false]
      unfold SqlM.runOn at hsave ⊢
      rw [Program.run_bind, saveEvent, hsave]
      rcases hcases with ⟨rfl, happended⟩ | ⟨hreply, hcurrent⟩
      · exact ⟨_, c', rfl, hsaved, .inl ⟨rfl, happended⟩⟩
      · rcases reply with e | message | _
        · exact ⟨_, c', rfl, hsaved, .inr ⟨by simp, hcurrent⟩⟩
        · refine ⟨_, c', rfl, hsaved, .inr ⟨?_, hcurrent⟩⟩
          intro result h
          cases h
          rfl
        · exact absurd rfl hreply

end AgentMemory
