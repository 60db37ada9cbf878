import AgentMemory.Verification.Store.Events

/-! # The exits of a transaction

`RunInTransaction` ends the transaction it began on both of its return paths. It has no handler
for an exception of its callback. -/

namespace AgentMemory

open Foundation

/-- `BEGIN IMMEDIATE TRANSACTION`. -/
def begin (host : Host) (c : Connection) : SqlResult × Connection :=
  host.execute .beginTransaction c

section Work

variable {α : Type} (host : Host)

/-- Runs a callback under any handler of the statements. -/
def Work.runUnder (h : Handler (Command.signature Write Text) Connection) (work : Work α)
    (c : Connection) : Except CxxException α × Connection :=
  work.run (fun (op : TransactionOp) => op.body.run h) c

theorem Work.run_interpret_under (h : Handler (Command.signature Write Text) Connection)
    (work : Work α) (c : Connection) :
    (work.interpret TransactionOp.body).run h c = work.runUnder h c :=
  Program.run_interpret h TransactionOp.body work c

theorem Work.run_interpret (work : Work α) (c : Connection) :
    (work.interpret TransactionOp.body).run host.execute c = work.runOn host c :=
  Work.run_interpret_under host.execute work c

theorem Work.run_bind {β : Type} (work : Work α) (f : α → Work β) (c : Connection) :
    (work >>= f).runOn host c =
      match work.runOn host c with
      | (.ok a, c') => (f a).runOn host c'
      | (.error e, c') => (.error e, c') := by
  unfold Work.runOn
  rw [Program.run_bind]
  rcases Program.run host.perform work c with ⟨e | a, c'⟩ <;> rfl

/-- What every operation of a callback preserves, the callback preserves. -/
theorem Work.run_invariant {I : Connection → Prop}
    (hstep : ∀ (op : TransactionOp) c, I c → I (op.body.runOn host c).2) (work : Work α)
    {c : Connection} (hc : I c) : I (work.runOn host c).2 :=
  (Program.all_true work).run_invariant (fun op c _ h => hstep op c h) hc

theorem TransactionOp.run_body_saved (op : TransactionOp) (c : Connection) :
    (op.body.runOn host c).2.saved = c.saved := by
  rcases op.run_body host c with ⟨e, -, hrun⟩ | ⟨ws, c', -, hsaved, hrun⟩
  · rw [hrun]
  · rcases hrun with ⟨-, hrun, -⟩ | ⟨message, hrun⟩
    · rw [hrun]
      exact hsaved
    · rw [hrun]
      exact hsaved

/-- A callback neither begins nor ends a transaction. -/
theorem Work.run_saved (work : Work α) (c : Connection) :
    (work.runOn host c).2.saved = c.saved := by
  refine Work.run_invariant host (I := fun c' => c'.saved = c.saved) ?_ work rfl
  intro op c' hc'
  rw [TransactionOp.run_body_saved, hc']

end Work

/-! ## The exits of `RunInTransaction` -/

section Exits

variable {γ : Type} (host : Host) (captured : γ) (work : Work (MemoryOperationResult × γ))
  (c : Connection)

/-- What follows the callback. -/
def finish (result : MemoryOperationResult) (captured : γ) : SqlM (MemoryOperationResult × γ) := do
  if result.succeeded then
    match ← executeUnlocked .commit with
    | .error errmsg =>
        let _ ← executeUnlocked .rollback
        return (sqliteFailure errmsg "RunInTransaction::commit", captured)
    | .ok () => return (memorySuccess, captured)
  else
    let _ ← executeUnlocked .rollback
    return (if result.error.hasError then result
      else memoryFailure (ascii "transaction_failed") (ascii "transaction work failed"), captured)

theorem run_executeUnlocked (h : Handler (Command.signature Write Text) Connection)
    (command : Command Write) :
    (executeUnlocked command).run h c = (.ok (h command c).1, (h command c).2) :=
  rfl

/-- The call under any handler of the statements. -/
theorem run_runInTransaction_under (h : Handler (Command.signature Write Text) Connection) :
    (runInTransaction captured work).run h c =
      match h .beginTransaction c with
      | (.error errmsg, c₁) => (.ok (sqliteFailure errmsg "RunInTransaction::begin", captured), c₁)
      | (.ok (), c₁) =>
          match work.runUnder h c₁ with
          | (.error e, c₂) => (.error e, c₂)
          | (.ok (result, captured), c₂) => (finish result captured).run h c₂ := by
  unfold runInTransaction
  rw [Program.run_bind, run_executeUnlocked]
  rcases h .beginTransaction c with ⟨errmsg | _, c₁⟩
  · rfl
  · dsimp only
    rw [Program.run_bind, Work.run_interpret_under]
    rcases work.runUnder h c₁ with ⟨e | ⟨result, captured⟩, c₂⟩
    · rfl
    · rfl

theorem run_runInTransaction :
    (runInTransaction captured work).runOn host c =
      match begin host c with
      | (.error errmsg, c₁) => (.ok (sqliteFailure errmsg "RunInTransaction::begin", captured), c₁)
      | (.ok (), c₁) =>
          match work.runOn host c₁ with
          | (.error e, c₂) => (.error e, c₂)
          | (.ok (result, captured), c₂) => (finish result captured).runOn host c₂ :=
  run_runInTransaction_under captured work c host.execute

/-- The end of a transaction that is open: committed, or as before it began and with an error. -/
theorem run_finish_under (E : Engine Write Database Text) (result : MemoryOperationResult)
    {c : Connection} {d : Database} (hsaved : c.saved = some d) :
    (result.succeeded = true ∧ (Session.execute E .commit c).1.isOk = true ∧
      (finish result captured).run (Session.execute E) c =
        (.ok (memorySuccess, captured), { c with saved := none, clock := c.clock + 1 })) ∨
    ((result.succeeded && (Session.execute E .commit c).1.isOk) = false ∧
      ∃ failure clock, failure.succeeded = false ∧ failure.error.hasError = true ∧
        (finish result captured).run (Session.execute E) c =
          (.ok (failure, captured), { current := d, saved := none, clock })) := by
  unfold finish
  cases hresult : result.succeeded with
  | true =>
      simp only [if_true]
      rw [Program.run_bind, run_executeUnlocked]
      rcases Session.execute_commit_cases E c with ⟨-, hrun⟩ | hrun
      · rw [hrun]
        exact .inl ⟨trivial, rfl, rfl⟩
      · rw [hrun]
        -- the engine has rolled back with the refused `COMMIT`, or `ROLLBACK` does
        have hrollback : ∃ clock, (Session.execute E .rollback (c.refused E)).2 =
            { current := d, saved := none, clock } := by
          rcases Session.refused_cases E c with h | h
          · rw [h]
            exact ⟨_, congrArg Prod.snd
              (Session.execute_rollback_of_saved (s := { c with clock := c.clock + 1 }) hsaved)⟩
          · rw [h, Session.durable_of_open hsaved, Session.execute_rollback_of_none rfl]
            exact ⟨_, rfl⟩
        obtain ⟨clock, hrollback⟩ := hrollback
        exact .inr ⟨rfl, sqliteFailure (E.message c.clock) "RunInTransaction::commit", clock, rfl,
          rfl, congrArg (Prod.mk _) hrollback⟩
  | false =>
      simp only [Bool.false_eq_true, if_false]
      refine .inr ⟨rfl, _, c.clock + 1, ?_, ?_,
        congrArg (Prod.mk _) (congrArg Prod.snd (Session.execute_rollback_of_saved hsaved))⟩
      · split
        · exact hresult
        · rfl
      · split
        · assumption
        · rfl

/-- The end of a transaction that is not open any more: an error. -/
theorem run_finish_of_closed (E : Engine Write Database Text) (result : MemoryOperationResult)
    {c : Connection} (hclosed : c.saved = none) :
    ∃ failure clock, failure.succeeded = false ∧
      (finish result captured).run (Session.execute E) c =
        (.ok (failure, captured), { c with clock }) := by
  unfold finish
  cases hresult : result.succeeded with
  | true =>
      simp only [if_true]
      rw [Program.run_bind, run_executeUnlocked]
      rcases Session.execute_commit_cases E c with ⟨hopen, -⟩ | hrun
      · rw [hclosed] at hopen
        cases hopen
      · rw [hrun, Session.refused_of_closed hclosed]
        have hrollback := congrArg Prod.snd (Session.execute_rollback_of_none (E := E)
          (s := { c with clock := c.clock + 1 }) hclosed)
        exact ⟨sqliteFailure (E.message c.clock) "RunInTransaction::commit", c.clock + 2, rfl,
          congrArg (Prod.mk _) hrollback⟩
  | false =>
      have hrollback := congrArg Prod.snd (Session.execute_rollback_of_none (E := E) hclosed)
      simp only [Bool.false_eq_true, if_false]
      refine ⟨_, c.clock + 1, ?_, congrArg (Prod.mk _) hrollback⟩
      split
      · exact hresult
      · rfl

theorem run_finish {result : MemoryOperationResult} {c : Connection} {d : Database}
    (hsaved : c.saved = some d) :
    (result.succeeded = true ∧ (host.execute .commit c).1.isOk = true ∧
      (finish result captured).runOn host c =
        (.ok (memorySuccess, captured), { c with saved := none, clock := c.clock + 1 })) ∨
    ((result.succeeded && (host.execute .commit c).1.isOk) = false ∧
      ∃ failure clock, failure.succeeded = false ∧ failure.error.hasError = true ∧
        (finish result captured).runOn host c =
          (.ok (failure, captured), { current := d, saved := none, clock })) :=
  run_finish_under captured host.engine _ hsaved

/-- The connection once `BEGIN` is accepted. -/
def begun (c : Connection) : Connection :=
  { c with saved := some c.current, clock := c.clock + 1 }

theorem begin_cases :
    (∃ message, begin host c = (.error message, { c with clock := c.clock + 1 })) ∨
    (c.saved = none ∧ begin host c = (.ok (), begun c)) := by
  rcases Session.execute_begin_cases host.engine c with ⟨hnone, hrun⟩ | hrun
  · exact .inr ⟨hnone, hrun⟩
  · exact .inl ⟨_, hrun⟩

end Exits

end AgentMemory
