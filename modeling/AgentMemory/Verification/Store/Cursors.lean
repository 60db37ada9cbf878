import AgentMemory.Verification.Store.Statements

/-! # The persisted cursor of a scope -/

namespace AgentMemory

open Foundation

theorem cursorToInt_decimal (x : Int64) : cursorToInt (decimal x.toInt) = x := by
  unfold cursorToInt
  rw [if_neg (by simp [decimal_ne_nil]), stoll_decimal]
  rfl

/-- The cursor column of the first row of a scope. -/
def cursorOf (agentId sessionId : SqlText) (rows : List CursorRow) : Option Int64 :=
  (rows.find? (CursorRow.isFor agentId sessionId)).map (·.cursor)

theorem cursorOf_upsert_self (agentId sessionId : SqlText) (cursor : Int64) (now : Text)
    (rows : List CursorRow) (h : rows.any (CursorRow.isFor agentId sessionId) = true) :
    cursorOf agentId sessionId (rows.map fun r =>
      if r.isFor agentId sessionId then { r with cursor, updatedAt := now } else r) =
        some cursor := by
  induction rows with
  | nil => cases h
  | cons r rows ih =>
      unfold cursorOf at ih ⊢
      rw [List.map_cons, List.find?_cons]
      cases hr : r.isFor agentId sessionId with
      | true =>
          have hnew : ({ r with cursor, updatedAt := now } : CursorRow).isFor agentId sessionId =
              true := hr
          simp [hnew]
      | false =>
          rw [List.any_cons, hr, Bool.false_or] at h
          simpa [hr] using ih h

theorem cursor?_eq (agentId sessionId : Text) (db : Database) :
    db.cursor? agentId sessionId = cursorOf (bindText agentId) (bindText sessionId) db.cursors :=
  rfl

/-- What is changed of the rows of one scope is not seen in another one. -/
theorem cursorOf_map_other {agentId sessionId agentId' sessionId' : SqlText}
    {f : CursorRow → CursorRow}
    (hf : ∀ r, (f r).agentId = r.agentId ∧ (f r).sessionId = r.sessionId)
    (hkey : (agentId', sessionId') ≠ (agentId, sessionId)) (rows : List CursorRow) :
    cursorOf agentId' sessionId' (rows.map fun r => if r.isFor agentId sessionId then f r else r) =
      cursorOf agentId' sessionId' rows := by
  induction rows with
  | nil => rfl
  | cons r rows ih =>
      unfold cursorOf at ih ⊢
      rw [List.map_cons, List.find?_cons, List.find?_cons]
      cases hr : r.isFor agentId sessionId with
      | false =>
          rw [if_neg Bool.false_ne_true]
          cases r.isFor agentId' sessionId' with
          | true => rfl
          | false => exact ih
      | true =>
          have hother : r.isFor agentId' sessionId' = false := by
            unfold CursorRow.isFor at hr ⊢
            rw [Bool.and_eq_true, beq_iff_eq, beq_iff_eq] at hr
            rw [hr.1, hr.2]
            by_contra hsame
            rw [Bool.not_eq_false, Bool.and_eq_true, beq_iff_eq, beq_iff_eq] at hsame
            exact hkey (by rw [hsame.1, hsame.2])
          have hother' : (f r).isFor agentId' sessionId' = false := by
            rw [CursorRow.isFor, (hf r).1, (hf r).2]
            exact hother
          rw [if_pos rfl, hother, hother']
          exact ih

/-- A cursor that is saved for another scope. -/
theorem cursor?_of_upsertCursor_other {agentId sessionId now : Text} {agentId' sessionId' : SqlText}
    {cursor : Int64} {db db' : Database}
    (h : (Write.upsertCursor agentId' sessionId' cursor).effect now db = some db')
    (hkey : (bindText agentId, bindText sessionId) ≠ (agentId', sessionId')) :
    db'.cursor? agentId sessionId = db.cursor? agentId sessionId := by
  rw [cursor?_eq, cursor?_eq]
  simp only [Write.effect] at h
  split at h
  · cases h
    exact cursorOf_map_other (f := fun r => { r with cursor, updatedAt := now })
      (fun r => ⟨rfl, rfl⟩) hkey db.cursors
  · cases h
    unfold cursorOf
    rw [List.find?_append]
    cases db.cursors.find? (CursorRow.isFor (bindText agentId) (bindText sessionId)) with
    | some r => rfl
    | none =>
        rw [Option.none_or, List.find?_cons_of_neg, List.find?_nil]
        intro hrow
        unfold CursorRow.isFor at hrow
        rw [Bool.and_eq_true, beq_iff_eq, beq_iff_eq] at hrow
        exact hkey (by rw [← hrow.1, ← hrow.2])

/-- A saved cursor is the one that is loaded next. -/
theorem cursor?_of_upsertCursor {agentId sessionId now : Text} {cursor : Int64}
    {db db' : Database}
    (h : (Write.upsertCursor (bindText agentId) (bindText sessionId) cursor).effect now db =
      some db') : db'.cursor? agentId sessionId = some cursor := by
  simp only [Write.effect] at h
  split at h
  · next hany =>
      cases h
      exact cursorOf_upsert_self _ _ _ _ _ hany
  · next hany =>
      cases h
      rw [Bool.not_eq_true, List.any_eq_false] at hany
      have hfind : db.cursors.find? (CursorRow.isFor (bindText agentId) (bindText sessionId)) =
          none := by
        rw [List.find?_eq_none]
        exact hany
      simp [cursor?_eq, cursorOf, List.find?_append, hfind, CursorRow.isFor]

end AgentMemory
