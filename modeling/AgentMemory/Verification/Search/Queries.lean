import AgentMemory.Foundation.Window
import AgentMemory.Model.Search

/-! # What the queries return -/

namespace AgentMemory

open Foundation

/-- The statement with this number is accepted. -/
def Host.Accepts (host : Host) (n : ℕ) : Prop :=
  (host.outcome n).accepted = true

section Select

variable {α : Type} {host : Host} {query : Database → List α} {c : Connection}

theorem selectRows_of_accepts (h : host.Accepts c.clock) :
    selectRows host query c = (.rows (query c.current), { c with clock := c.clock + 1 }) := by
  have haccepted : (host.outcome c.clock).accepted = true := h
  simp [selectRows, haccepted]

theorem selectRows_cases (host : Host) (query : Database → List α) (c : Connection) :
    (host.Accepts c.clock ∧
      selectRows host query c = (.rows (query c.current), { c with clock := c.clock + 1 })) ∨
    (¬host.Accepts c.clock ∧ selectRows host query c =
      (.refused (host.outcome c.clock).atPrepare (host.outcome c.clock).errmsg,
        { c with clock := c.clock + 1 })) := by
  by_cases h : host.Accepts c.clock
  · exact .inl ⟨h, selectRows_of_accepts h⟩
  · refine .inr ⟨h, ?_⟩
    simp only [Host.Accepts, Bool.not_eq_true] at h
    simp [selectRows, h]

end Select

/-! ## Snapshots -/

/-- The newest records, at most `n` of each kind. -/
def snapshotOf (host : QueryHost) (agentId sessionId : Text) (n : ℕ) (db : Database) :
    LongTermMemorySnapshot where
  summaries := (host.summaryOrder.top n (summariesOf agentId sessionId db)).map
    (readSummaryRow host.toHost)
  entities := (host.entityOrder.top n (activeEntities agentId db)).map (readEntityRow host.toHost)
  relations := (host.relationOrder.top n (activeRelations agentId db)).map
    (readRelationRow host.toHost)

section Load

variable {host : QueryHost} {agentId sessionId : Text} {limit : Int32} {c : Connection}

/-- Three accepted statements give the snapshot of the tables. -/
theorem loadLongTermMemory_of_accepts (h : ∀ i < 3, host.Accepts (c.clock + i)) :
    loadLongTermMemory host agentId limit sessionId c =
      ({ succeeded := true
         snapshot := snapshotOf host agentId sessionId (effectiveLimit limit 100) c.current },
        { c with clock := c.clock + 3 }) := by
  unfold loadLongTermMemory
  dsimp only
  rw [selectRows_of_accepts (h 0 (by omega))]
  dsimp only
  rw [selectRows_of_accepts (h 1 (by omega))]
  dsimp only
  rw [selectRows_of_accepts (h 2 (by omega))]
  rfl

/-- A call that succeeds gives the snapshot of the tables. -/
theorem loadLongTermMemory_succeeded
    (h : (loadLongTermMemory host agentId limit sessionId c).1.succeeded = true) :
    (loadLongTermMemory host agentId limit sessionId c).1.snapshot =
      snapshotOf host agentId sessionId (effectiveLimit limit 100) c.current := by
  have haccepts : ∀ i < 3, host.Accepts (c.clock + i) := by
    revert h
    unfold loadLongTermMemory
    rcases selectRows_cases host.toHost (fun db => (host.summaryOrder.top
      (effectiveLimit limit 100) (summariesOf agentId sessionId db)).map
        (readSummaryRow host.toHost)) c with ⟨h₀, hrun⟩ | ⟨-, hrun⟩
    · dsimp only
      rw [hrun]
      dsimp only
      rcases selectRows_cases host.toHost (fun db => (host.entityOrder.top
        (effectiveLimit limit 100) (activeEntities agentId db)).map (readEntityRow host.toHost))
          { c with clock := c.clock + 1 } with ⟨h₁, hrun⟩ | ⟨-, hrun⟩
      · rw [hrun]
        dsimp only
        rcases selectRows_cases host.toHost (fun db => (host.relationOrder.top
          (effectiveLimit limit 100) (activeRelations agentId db)).map
            (readRelationRow host.toHost)) { c with clock := c.clock + 1 + 1 } with
          ⟨h₂, hrun⟩ | ⟨-, hrun⟩
        · intro _ i hi
          interval_cases i
          · exact h₀
          · exact h₁
          · exact h₂
        · rw [hrun]
          intro h
          cases h
      · rw [hrun]
        intro h
        cases h
    · dsimp only
      rw [hrun]
      intro h
      cases h
  rw [loadLongTermMemory_of_accepts haccepts]

end Load

theorem lastRows_eq_rtake {α : Type} (n : ℕ) (rows : List α) : lastRows n rows = rows.rtake n :=
  (List.rtake_eq_reverse_take_reverse rows n).symm

end AgentMemory
