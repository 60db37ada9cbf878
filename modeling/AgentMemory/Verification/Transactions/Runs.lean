import AgentMemory.Verification.Store.Statements

/-! # Runs of operations

The operations of the store one after another, inside transactions or outside, and what an
invariant of the operations gives for every state of such a run. -/

namespace AgentMemory

open Foundation

/-- A connection with the operations whose effects it shows, and those it would show after a
rollback. -/
structure Ledger where
  connection : Connection
  saves : List TransactionOp := []
  atBegin : List TransactionOp := []

/-- The ledger of a new database. -/
def Ledger.start : Ledger :=
  { connection := { current := .empty } }

/-- One operation, or one of the transaction commands around them, which may be refused. An
operation that throws has no effect. One that is refused inside a transaction is the last of the
callback, and `RunInTransaction` rolls back. -/
inductive OperationStep (host : Host) (admits : Database → TransactionOp → Prop) :
    Ledger → Ledger → Prop where
  | operation (l : Ledger) (op : TransactionOp) (admitted : admits l.connection.current op)
      (ok : (op.unlocked.runOn host l.connection).1 = .ok (.ok ())) :
      OperationStep host admits l { l with
        connection := (op.unlocked.runOn host l.connection).2
        saves := l.saves ++ [op] }
  | threw (l : Ledger) (op : TransactionOp) (e : CxxException)
      (threw : (op.unlocked.runOn host l.connection).1 = .error e) :
      OperationStep host admits l { l with
        connection := (op.unlocked.runOn host l.connection).2 }
  | refused (l : Ledger) (op : TransactionOp) (inside : l.connection.saved.isSome = true)
      (message : Text)
      (refused : (op.unlocked.runOn host l.connection).1 = .ok (.error message)) :
      OperationStep host admits l { l with
        connection := (host.execute .rollback (op.unlocked.runOn host l.connection).2).2
        saves := l.atBegin }
  | beginTransaction (l : Ledger) :
      OperationStep host admits l { l with
        connection := (host.execute .beginTransaction l.connection).2
        atBegin := if l.connection.saved.isNone then l.saves else l.atBegin }
  | commit (l : Ledger) :
      OperationStep host admits l { l with
        connection := (host.execute .commit l.connection).2 }
  | rollback (l : Ledger) :
      OperationStep host admits l { l with
        connection := (host.execute .rollback l.connection).2
        saves := if l.connection.saved.isNone then l.saves else l.atBegin }

theorem OperationStep.mono {host : Host} {admits admits' : Database → TransactionOp → Prop}
    {l l' : Ledger} (h : OperationStep host admits l l')
    (hadmits : ∀ db op, admits db op → admits' db op) : OperationStep host admits' l l' := by
  cases h with
  | operation op admitted ok => exact .operation l op (hadmits _ _ admitted) ok
  | threw op e threw => exact .threw l op e threw
  | refused op inside message refused => exact .refused l op inside message refused
  | beginTransaction => exact .beginTransaction l
  | commit => exact .commit l
  | rollback => exact .rollback l

/-- The property holds of the connection's view and of the state a rollback restores. -/
structure Ledger.Keeps (I : List TransactionOp → Database → Prop) (l : Ledger) : Prop where
  current : I l.saves l.connection.current
  saved : ∀ db, l.connection.saved = some db → I l.atBegin db

section Runs

variable {host : Host} {admits : Database → TransactionOp → Prop}
  {I : List TransactionOp → Database → Prop} {l l' : Ledger}

theorem Ledger.keeps_start (h : I [] .empty) : Ledger.start.Keeps I :=
  ⟨h, fun db hdb => by cases hdb⟩

/-- What every operation of a run keeps, every step keeps. -/
theorem Ledger.Keeps.step
    (hoperation : ∀ saves op ws db db', admits db op → I saves db → op.statements = .ok ws →
      Session.Applied host.engine ws db db' → I (saves ++ [op]) db')
    (hstep : OperationStep host admits l l') (h : l.Keeps I) : l'.Keeps I := by
  cases hstep with
  | operation op admitted ok =>
      rcases op.run_unlocked host l.connection with ⟨e, -, hrun⟩ | ⟨ws, c', hws, hsaved, hrun⟩
      · rw [hrun] at ok
        cases ok
      · rcases hrun with ⟨hrun, happlied⟩ | ⟨message, hrun⟩
        · rw [hrun]
          refine ⟨hoperation _ _ _ _ _ admitted h.current hws happlied, ?_⟩
          intro db hdb
          exact h.saved db (hsaved.symm.trans hdb)
        · rw [hrun] at ok
          cases ok
  | threw op e threw =>
      rcases op.run_unlocked host l.connection with ⟨e', -, hrun⟩ | ⟨ws, c', -, -, hrun⟩
      · rw [hrun]
        exact ⟨h.current, h.saved⟩
      · rcases hrun with ⟨hrun, -⟩ | ⟨message, hrun⟩
        · rw [hrun] at threw
          cases threw
        · rw [hrun] at threw
          cases threw
  | refused op inside message refused =>
      obtain ⟨db, hdb⟩ := Option.isSome_iff_exists.mp inside
      have hsaved : (op.unlocked.runOn host l.connection).2.saved = some db := by
        rcases op.run_unlocked host l.connection with ⟨e, -, hrun⟩ | ⟨ws, c', -, hsaved, hrun⟩
        · rw [hrun]
          exact hdb
        · rcases hrun with ⟨hrun, -⟩ | ⟨message, hrun⟩
          · rw [hrun, hsaved, hdb]
          · rw [hrun, hsaved, hdb]
      rw [Host.execute, Session.execute_rollback_of_saved hsaved]
      exact ⟨h.saved db hdb, fun db' hdb' => by cases hdb'⟩
  | beginTransaction =>
      rcases Session.execute_begin_cases host.engine l.connection with ⟨hnone, hrun⟩ | hrun
      · rw [Host.execute, hrun]
        refine ⟨h.current, ?_⟩
        intro db hdb
        cases hdb
        simpa [hnone] using h.current
      · rw [Host.execute, hrun]
        refine ⟨h.current, ?_⟩
        intro db hdb
        have hsome : l.connection.saved = some db := hdb
        simpa [hsome] using h.saved db hsome
  | commit =>
      rcases Session.execute_commit_cases host.engine l.connection with ⟨-, hrun⟩ | hrun
      · rw [Host.execute, hrun]
        exact ⟨h.current, fun db hdb => by cases hdb⟩
      · rw [Host.execute, hrun]
        exact ⟨h.current, h.saved⟩
  | rollback =>
      cases hsaved : l.connection.saved with
      | none =>
          rw [Host.execute, Session.execute_rollback_of_none hsaved]
          exact ⟨h.current, h.saved⟩
      | some db =>
          rw [Host.execute, Session.execute_rollback_of_saved hsaved]
          exact ⟨h.saved db hsaved, fun db' hdb => by cases hdb⟩

/-- What holds of a new database and is kept by every operation holds along the run. -/
theorem Ledger.keeps_of_run
    (hoperation : ∀ saves op ws db db', admits db op → I saves db → op.statements = .ok ws →
      Session.Applied host.engine ws db db' → I (saves ++ [op]) db') (hstart : I [] .empty)
    (h : Relation.ReflTransGen (OperationStep host admits) .start l) : l.Keeps I := by
  induction h with
  | refl => exact Ledger.keeps_start hstart
  | tail _ hstep ih => exact ih.step hoperation hstep

end Runs

end AgentMemory
