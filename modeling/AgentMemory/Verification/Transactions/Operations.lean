import AgentMemory.Verification.Transactions.Atomicity

/-! # Operations until the first failure

Callbacks execute their operations in order and return at the first one that fails. The list is
left in one of three ways: all its statements are applied, a statement was refused, or an
operation was reached whose arguments cannot be serialised. -/

namespace AgentMemory

open Foundation

/-- Operations in order, until one fails; what the failed one returned. -/
def saveAll : List TransactionOp → Work (Option MemoryOperationResult)
  | [] => return none
  | op :: ops => do
      let operation ← transaction op
      if operation.succeeded then saveAll ops else return some operation

theorem saveAll_append (ops ops' : List TransactionOp) :
    saveAll (ops ++ ops') = (do
      match ← saveAll ops with
      | none => saveAll ops'
      | some failed => return some failed) := by
  induction ops with
  | nil => rfl
  | cons op ops ih =>
      simp only [List.cons_append, saveAll, Program.bind_assoc]
      congr 1
      funext operation
      cases operation.succeeded with
      | true => exact ih
      | false => rfl

/-! ## Running the list -/

/-- The statements of operations in order, if all of them can be serialised. -/
def statementsOf : List TransactionOp → Except CxxException (List Write)
  | [] => .ok []
  | op :: ops => do
      let ws ← op.statements
      let rest ← statementsOf ops
      return ws ++ rest

theorem statementsOf_cons {op : TransactionOp} {ops : List TransactionOp} {ws : List Write}
    (h : statementsOf (op :: ops) = .ok ws) :
    ∃ ws₁ ws₂, op.statements = .ok ws₁ ∧ statementsOf ops = .ok ws₂ ∧ ws = ws₁ ++ ws₂ := by
  unfold statementsOf at h
  cases hop : op.statements with
  | error e =>
      rw [hop] at h
      cases h
  | ok ws₁ =>
      cases hops : statementsOf ops with
      | error e =>
          rw [hop, hops] at h
          cases h
      | ok ws₂ =>
          rw [hop, hops] at h
          cases h
          exact ⟨ws₁, ws₂, rfl, rfl, rfl⟩

theorem statementsOf_append {ops ops' : List TransactionOp} {ws : List Write}
    (h : statementsOf (ops ++ ops') = .ok ws) :
    ∃ ws₁ ws₂, statementsOf ops = .ok ws₁ ∧ statementsOf ops' = .ok ws₂ ∧ ws = ws₁ ++ ws₂ := by
  induction ops generalizing ws with
  | nil => exact ⟨[], ws, rfl, h, rfl⟩
  | cons op ops ih =>
      obtain ⟨ws₁, ws₂, hop, hrest, rfl⟩ := statementsOf_cons h
      obtain ⟨ws₃, ws₄, hops, hops', rfl⟩ := ih hrest
      refine ⟨ws₁ ++ ws₃, ws₄, ?_, hops', (List.append_assoc _ _ _).symm⟩
      rw [statementsOf, hop, hops]
      rfl

/-- Each statement of the list is one of some operation. -/
theorem mem_statementsOf {ops : List TransactionOp} {ws : List Write}
    (h : statementsOf ops = .ok ws) {w : Write} (hw : w ∈ ws) :
    ∃ op ∈ ops, ∃ ws', op.statements = .ok ws' ∧ w ∈ ws' := by
  induction ops generalizing ws with
  | nil =>
      cases h
      cases hw
  | cons op ops ih =>
      obtain ⟨ws₁, ws₂, hop, hrest, rfl⟩ := statementsOf_cons h
      rcases List.mem_append.mp hw with hw | hw
      · exact ⟨op, List.mem_cons_self, ws₁, hop, hw⟩
      · obtain ⟨op', hop', hws'⟩ := ih hrest hw
        exact ⟨op', List.mem_cons_of_mem _ hop', hws'⟩

/-- An operation that cannot be serialised is reached: all those before it succeed. -/
def ReachesUnserialisable (host : Host) (ops : List TransactionOp) (c : Connection) : Prop :=
  ∃ before op after e, ops = before ++ op :: after ∧ op.statements = .error e ∧
    ((saveAll before).runOn host c).1 = .ok none

theorem interpret_transaction (op : TransactionOp) :
    (transaction op).interpret TransactionOp.body = op.body := by
  change op.body.tryBind (fun r => (Program.ofExcept r : Work MemoryOperationResult).interpret
    TransactionOp.body) = op.body
  simp only [Program.interpret_ofExcept]
  exact Program.tryBind_ofExcept _

/-- The program of statements that a list of operations amounts to. -/
def savingAll (ops : List TransactionOp) : SqlM (Option MemoryOperationResult) :=
  (saveAll ops).interpret TransactionOp.body

theorem savingAll_cons (op : TransactionOp) (ops : List TransactionOp) :
    savingAll (op :: ops) = (do
      let operation ← op.body
      if operation.succeeded then savingAll ops else return some operation) := by
  unfold savingAll
  rw [saveAll, Program.interpret_bind, interpret_transaction]
  congr 1
  funext operation
  cases operation.succeeded <;> rfl

section Run

variable (host : Host)

theorem run_savingAll (ops : List TransactionOp) (c : Connection) :
    (savingAll ops).runOn host c = (saveAll ops).runOn host c :=
  Work.run_interpret host (saveAll ops) c

theorem run_saveAll_cons (op : TransactionOp) (ops : List TransactionOp) (c : Connection) :
    (saveAll (op :: ops)).runOn host c =
      match op.body.runOn host c with
      | (.ok operation, c') =>
          if operation.succeeded then (saveAll ops).runOn host c' else (.ok (some operation), c')
      | (.error e, c') => (.error e, c') := by
  simp only [← run_savingAll, savingAll_cons, SqlM.runOn, Program.run_bind]
  rcases op.body.run host.execute c with ⟨e | operation, c'⟩
  · rfl
  · dsimp only
    cases operation.succeeded <;> rfl

/-- A list of operations applies all their statements, or fails, or throws. -/
theorem run_saveAll_cases (ops : List TransactionOp) (c : Connection) :
    (∃ ws c', statementsOf ops = .ok ws ∧ (saveAll ops).runOn host c = (.ok none, c') ∧
        Session.Applied host.engine ws c.current c'.current) ∨
      (∃ failure c', (saveAll ops).runOn host c = (.ok (some failure), c') ∧
        failure.succeeded = false) ∨
      ∃ before op after e ws c', ops = before ++ op :: after ∧ op.statements = .error e ∧
        statementsOf before = .ok ws ∧ (saveAll ops).runOn host c = (.error e, c') ∧
        Session.Applied host.engine ws c.current c'.current := by
  induction ops generalizing c with
  | nil => exact .inl ⟨[], c, rfl, rfl, .nil _⟩
  | cons op ops ih =>
      rw [run_saveAll_cons]
      rcases op.run_body host c with ⟨e, hws, hrun⟩ | ⟨ws, c₁, hws, -, ⟨-, hrun, happlied⟩ |
        ⟨message, hrun⟩⟩
      · rw [hrun]
        exact .inr (.inr ⟨[], op, ops, e, [], c, rfl, hws, rfl, rfl, .nil _⟩)
      · rw [hrun]
        rcases ih c₁ with ⟨ws', c', hws', hrest, happlied'⟩ | hfailed |
          ⟨before, bad, after, e, ws', c', rfl, hbad, hws', hrest, happlied'⟩
        · refine .inl ⟨ws ++ ws', c', ?_, hrest, happlied.append happlied'⟩
          rw [statementsOf, hws, hws']
          rfl
        · exact .inr (.inl hfailed)
        · refine .inr (.inr ⟨op :: before, bad, after, e, ws ++ ws', c', rfl, hbad, ?_, hrest,
            happlied.append happlied'⟩)
          rw [statementsOf, hws, hws']
          rfl
      · rw [hrun]
        exact .inr (.inl ⟨_, c₁, rfl, rfl⟩)

/-- The exception is that of an operation that cannot be serialised. -/
theorem run_saveAll_error_iff (ops : List TransactionOp) (c : Connection) :
    (∃ e, ((saveAll ops).runOn host c).1 = .error e) ↔ ReachesUnserialisable host ops c := by
  induction ops generalizing c with
  | nil =>
      constructor
      · rintro ⟨e, h⟩
        cases h
      · rintro ⟨before, op, after, e, h, -⟩
        simp at h
  | cons op ops ih =>
      rw [run_saveAll_cons]
      rcases op.run_body host c with ⟨e, hws, hrun⟩ | ⟨ws, c₁, hws, -, ⟨-, hrun, -⟩ |
        ⟨message, hrun⟩⟩
      · rw [hrun]
        exact ⟨fun _ => ⟨[], op, ops, e, rfl, hws, rfl⟩, fun _ => ⟨e, rfl⟩⟩
      · rw [hrun]
        refine (ih c₁).trans ⟨?_, ?_⟩
        · rintro ⟨before, bad, after, e, rfl, hbad, hbefore⟩
          refine ⟨op :: before, bad, after, e, rfl, hbad, ?_⟩
          rw [run_saveAll_cons, hrun]
          exact hbefore
        · rintro ⟨before, bad, after, e, heq, hbad, hbefore⟩
          cases before with
          | nil =>
              cases heq
              rw [hws] at hbad
              cases hbad
          | cons first before =>
              cases heq
              rw [run_saveAll_cons, hrun] at hbefore
              exact ⟨before, bad, after, e, rfl, hbad, hbefore⟩
      · rw [hrun]
        constructor
        · rintro ⟨e, h⟩
          cases h
        · rintro ⟨before, bad, after, e, heq, hbad, hbefore⟩
          cases before with
          | nil =>
              cases heq
              rw [hws] at hbad
              cases hbad
          | cons first before =>
              cases heq
              rw [run_saveAll_cons, hrun] at hbefore
              cases hbefore

end Run

/-! ## Refused statements -/

/-- Some statement that the program reaches is refused. -/
def SqlM.refuses {α : Type} (host : Host) (p : SqlM α) (c : Connection) : Bool :=
  (p.trace host.execute c).any fun call => !call.2.isOk

section Refuses

variable {α β : Type} (host : Host)

theorem refuses_bind (p : SqlM α) (f : α → SqlM β) (c : Connection) :
    (p >>= f).refuses host c = (p.refuses host c ||
      match p.runOn host c with
      | (.ok a, c') => (f a).refuses host c'
      | (.error _, _) => false) := by
  unfold SqlM.refuses SqlM.runOn
  rw [Program.trace_bind, List.any_append]
  rcases p.run host.execute c with ⟨e | a, c'⟩ <;> rfl

theorem refuses_pure (a : α) (c : Connection) : (pure a : SqlM α).refuses host c = false := rfl

theorem refuses_executeUnlocked (command : Command Write) (c : Connection) :
    (executeUnlocked command).refuses host c = !(host.execute command c).1.isOk := by
  unfold SqlM.refuses executeUnlocked
  rw [Program.trace_perform]
  simp

/-- A list of statements ends with an error exactly when one of them is refused. -/
theorem refuses_executeAll (ws : List Write) (c : Connection) :
    (executeAll ws).refuses host c = true ↔
      ∃ message, ((executeAll ws).runOn host c).1 = .ok (.error message) := by
  induction ws generalizing c with
  | nil =>
      constructor
      · intro h
        cases h
      · rintro ⟨message, h⟩
        cases h
  | cons w ws ih =>
      simp only [executeAll, Session.writeAll, SqlM.refuses, Program.trace, SqlM.runOn,
        Program.run, List.any_cons, Host.execute]
      rcases Session.execute_write_cases host.engine w c with ⟨db, -, -, h⟩ | h
      · rw [h]
        exact ih _
      · rw [h]
        exact ⟨fun _ => ⟨_, rfl⟩, fun _ => rfl⟩

theorem refuses_unlocked (op : TransactionOp) (c : Connection) :
    op.unlocked.refuses host c = true ↔
      ∃ message, (op.unlocked.runOn host c).1 = .ok (.error message) := by
  rw [TransactionOp.unlocked_eq]
  cases op.statements with
  | error e =>
      constructor
      · intro h
        cases h
      · rintro ⟨message, h⟩
        cases h
  | ok ws => exact refuses_executeAll host ws c

/-- An operation fails exactly when one of its statements is refused. -/
theorem refuses_body (op : TransactionOp) (c : Connection) :
    op.body.refuses host c = true ↔
      ∃ failure, (op.body.runOn host c).1 = .ok failure ∧ failure.succeeded = false := by
  have hunlocked := refuses_unlocked host op c
  unfold TransactionOp.body
  rw [run_reporting]
  unfold reporting
  rw [refuses_bind]
  rcases hrun : op.unlocked.runOn host c with ⟨e | message | _, c'⟩
  · rw [hrun] at hunlocked
    simpa using hunlocked
  · rw [hrun] at hunlocked
    simpa [refuses_pure, sqliteFailure_not_succeeded] using hunlocked
  · rw [hrun] at hunlocked
    simpa [refuses_pure, memorySuccess] using hunlocked

/-- A list of operations fails exactly when a statement is refused. -/
theorem refuses_savingAll (ops : List TransactionOp) (c : Connection) :
    (savingAll ops).refuses host c = true ↔
      ∃ failure, ((saveAll ops).runOn host c).1 = .ok (some failure) := by
  induction ops generalizing c with
  | nil =>
      constructor
      · intro h
        cases h
      · rintro ⟨failure, h⟩
        cases h
  | cons op ops ih =>
      rw [savingAll_cons, refuses_bind, run_saveAll_cons, Bool.or_eq_true, refuses_body]
      rcases op.run_body host c with ⟨e, -, hrun⟩ | ⟨ws, c₁, -, -, ⟨-, hrun, -⟩ |
        ⟨message, hrun⟩⟩
      · rw [hrun]
        simp
      · rw [hrun]
        simpa [memorySuccess] using ih c₁
      · rw [hrun]
        simp [sqliteFailure_not_succeeded]

theorem refuses_finish {γ : Type} {result : MemoryOperationResult} (captured : γ)
    {c : Connection} {d : Database} (hsaved : c.saved = some d) :
    (finish result captured).refuses host c =
      (result.succeeded && !(host.execute .commit c).1.isOk) := by
  have hrollback : ∀ s : Connection, s.saved = some d →
      (host.execute .rollback s).1.isOk = true := by
    intro s hs
    rw [Host.execute, Session.execute_rollback_of_saved hs]
    rfl
  unfold finish
  cases result.succeeded with
  | false =>
      simp only [Bool.false_eq_true, if_false, Bool.false_and]
      rw [refuses_bind, refuses_executeUnlocked, hrollback c hsaved]
      rfl
  | true =>
      simp only [if_true, Bool.true_and]
      rw [refuses_bind, refuses_executeUnlocked]
      have hrun : (executeUnlocked .commit).runOn host c =
          (.ok (host.execute .commit c).1, (host.execute .commit c).2) := rfl
      rw [hrun]
      rcases Session.execute_commit_cases host.engine c with ⟨-, hcommit⟩ | hcommit
      · rw [Host.execute, hcommit]
        rfl
      · rw [Host.execute, hcommit]
        rfl

theorem refuses_runInTransaction {γ : Type} (captured : γ)
    (work : Work (MemoryOperationResult × γ)) (c : Connection) :
    (runInTransaction captured work).refuses host c =
      match begin host c with
      | (.error _, _) => true
      | (.ok (), c₁) => SqlM.refuses host (work.interpret TransactionOp.body) c₁ ||
          match work.runOn host c₁ with
          | (.ok (result, captured), c₂) => (finish result captured).refuses host c₂
          | (.error _, _) => false := by
  have hbegin : (executeUnlocked .beginTransaction).runOn host c =
      (.ok (begin host c).1, (begin host c).2) := rfl
  unfold runInTransaction
  rw [refuses_bind, refuses_executeUnlocked, hbegin]
  change (!(begin host c).1.isOk || _) = _
  rcases begin host c with ⟨errmsg | _, c₁⟩
  · rfl
  · dsimp only
    rw [refuses_bind, SqlM.runOn, Work.run_interpret]
    rcases work.runOn host c₁ with ⟨e | ⟨result, captured⟩, c₂⟩
    · rfl
    · rfl

end Refuses

/-! ## Callbacks that execute a list of operations -/

/-- The callback executes the operations until one fails; if none does it succeeds and leaves
`saved` in its captured variables. -/
def Executes {γ : Type} (work : Work (MemoryOperationResult × γ)) (ops : List TransactionOp)
    (saved : γ) : Prop :=
  (do let x ← work
      return if x.1.succeeded then some x.2 else none) =
    (do let failure ← saveAll ops
        return if failure.isNone then some saved else none : Work (Option γ))

section Executes

variable {γ : Type} (host : Host) {work : Work (MemoryOperationResult × γ)}
  {ops : List TransactionOp} {saved : γ}

theorem Executes.run (h : Executes work ops saved) (c : Connection) :
    (work.runOn host c).2 = ((saveAll ops).runOn host c).2 ∧
      (work.runOn host c).1.map (fun x => if x.1.succeeded then some x.2 else none) =
        ((saveAll ops).runOn host c).1.map (fun failure =>
          if failure.isNone then some saved else none) := by
  have hrun := congrArg (fun p => Work.runOn host p c) h
  simp only [Work.runOn, Program.run_map, Prod.mk.injEq] at hrun
  exact ⟨hrun.2, hrun.1⟩

theorem Executes.run_applied (h : Executes work ops saved) {c c' : Connection}
    (hops : (saveAll ops).runOn host c = (.ok none, c')) :
    ∃ result, work.runOn host c = (.ok (result, saved), c') ∧ result.succeeded = true := by
  obtain ⟨hstate, hreply⟩ := h.run host c
  rw [hops] at hstate hreply
  rcases hwork : work.runOn host c with ⟨e | ⟨result, captured⟩, c₂⟩
  · rw [hwork] at hreply
    cases hreply
  · rw [hwork] at hstate hreply
    subst hstate
    cases hresult : result.succeeded with
    | false => simp [Except.map, hresult] at hreply
    | true =>
        simp only [Except.map, hresult, if_true, Option.isNone_none, Except.ok.injEq,
          Option.some.injEq] at hreply
        exact ⟨result, by rw [hreply], hresult⟩

theorem Executes.run_failed (h : Executes work ops saved) {c c' : Connection}
    {failure : MemoryOperationResult}
    (hops : (saveAll ops).runOn host c = (.ok (some failure), c')) :
    ∃ result captured, work.runOn host c = (.ok (result, captured), c') ∧
      result.succeeded = false := by
  obtain ⟨hstate, hreply⟩ := h.run host c
  rw [hops] at hstate hreply
  rcases hwork : work.runOn host c with ⟨e | ⟨result, captured⟩, c₂⟩
  · rw [hwork] at hreply
    cases hreply
  · rw [hwork] at hstate hreply
    subst hstate
    refine ⟨result, captured, rfl, ?_⟩
    cases hresult : result.succeeded with
    | false => rfl
    | true => simp [Except.map, hresult] at hreply

theorem Executes.run_thrown (h : Executes work ops saved) {c c' : Connection} {e : CxxException}
    (hops : (saveAll ops).runOn host c = (.error e, c')) :
    work.runOn host c = (.error e, c') := by
  obtain ⟨hstate, hreply⟩ := h.run host c
  rw [hops] at hstate hreply
  rcases hwork : work.runOn host c with ⟨e' | x, c₂⟩
  · rw [hwork] at hstate hreply
    cases hreply
    exact congrArg (Prod.mk _) hstate
  · rw [hwork] at hreply
    cases hreply

theorem trace_interpret_map {α β : Type} (p : Work α) (f : α → β) (c : Connection) :
    Program.trace host.execute ((do return f (← p) : Work β).interpret TransactionOp.body) c =
      Program.trace host.execute (p.interpret TransactionOp.body) c := by
  rw [Program.interpret_bind]
  exact Program.trace_map host.execute _ f c

theorem Executes.refuses (h : Executes work ops saved) (c : Connection) :
    SqlM.refuses host (work.interpret TransactionOp.body) c = (savingAll ops).refuses host c := by
  have htrace := congrArg (fun p : Work (Option γ) =>
    Program.trace host.execute (p.interpret TransactionOp.body) c) h
  simp only [trace_interpret_map] at htrace
  unfold SqlM.refuses
  rw [htrace]
  rfl

/-- The outcomes of a transaction that executes a list of operations: a statement was refused and
everything is as before, or all statements are applied and committed, or an operation that cannot
be serialised was reached. -/
theorem Executes.transaction_cases (h : Executes work ops saved) (captured : γ)
    (c : Connection) :
    ((runInTransaction captured work).refuses host c = true ∧
      ¬((begin host c).1 = .ok () ∧ ReachesUnserialisable host ops (begun c)) ∧
      ∃ failure captured' clock, failure.succeeded = false ∧ failure.error.hasError = true ∧
        (runInTransaction captured work).runOn host c =
          (.ok (failure, captured'), { c with clock })) ∨
    ((runInTransaction captured work).refuses host c = false ∧
      ¬((begin host c).1 = .ok () ∧ ReachesUnserialisable host ops (begun c)) ∧
      c.saved = none ∧ ∃ ws c', statementsOf ops = .ok ws ∧
        Session.Applied host.engine ws c.current c'.current ∧ c'.saved = none ∧
        (runInTransaction captured work).runOn host c = (.ok (memorySuccess, saved), c')) ∨
    ((runInTransaction captured work).refuses host c = false ∧
      ((begin host c).1 = .ok () ∧ ReachesUnserialisable host ops (begun c)) ∧
      ∃ before op after e ws c', ops = before ++ op :: after ∧ op.statements = .error e ∧
        statementsOf before = .ok ws ∧ Session.Applied host.engine ws c.current c'.current ∧
        c.saved = none ∧ c'.saved = some c.current ∧
        (runInTransaction captured work).runOn host c = (.error e, c')) := by
  rw [refuses_runInTransaction, run_runInTransaction]
  rcases begin_cases host c with ⟨message, hbegin⟩ | ⟨hnone, hbegin⟩
  · rw [hbegin]
    refine .inl ⟨rfl, ?_, _, captured, c.clock + 1, rfl, rfl, rfl⟩
    rintro ⟨hok, -⟩
    cases hok
  · rw [hbegin]
    dsimp only
    rw [h.refuses]
    have hrefuses := refuses_savingAll host ops (begun c)
    have hreaches := run_saveAll_error_iff host ops (begun c)
    have hsaved := Work.run_saved host work (begun c)
    rcases run_saveAll_cases host ops (begun c) with
      ⟨ws, c₂, hws, hops, happlied⟩ | ⟨failure, c₂, hops, -⟩ |
        ⟨before, bad, after, e, ws, c₂, hsplit, hbad, hws, hops, happlied⟩
    · obtain ⟨result, hwork, hresult⟩ := h.run_applied host hops
      have hopen : c₂.saved = some c.current := by
        rw [hwork] at hsaved
        exact hsaved
      rw [hwork]
      dsimp only
      have hnot : ¬ReachesUnserialisable host ops (begun c) := by
        rw [← hreaches, hops]
        simp
      have hfalse : (savingAll ops).refuses host (begun c) = false := by
        rw [Bool.eq_false_iff, Ne, hrefuses, hops]
        simp
      rw [hfalse, Bool.false_or, refuses_finish host saved hopen, hresult, Bool.true_and]
      rcases run_finish host saved hopen with ⟨-, hcommit, hfinish⟩ | ⟨hcommit, failure, clock,
        hfailed, herror, hfinish⟩
      · rw [hcommit, hfinish]
        exact .inr (.inl ⟨rfl, fun hand => hnot hand.2, hnone, ws,
          { c₂ with saved := none, clock := c₂.clock + 1 }, hws, happlied, rfl, rfl⟩)
      · rw [hresult, Bool.true_and] at hcommit
        rw [hcommit, hfinish]
        refine .inl ⟨rfl, fun hand => hnot hand.2, failure, saved, clock, hfailed, herror, ?_⟩
        rw [← hnone]
    · obtain ⟨result, captured', hwork, hresult⟩ := h.run_failed host hops
      have hopen : c₂.saved = some c.current := by
        rw [hwork] at hsaved
        exact hsaved
      rw [hwork]
      dsimp only
      have hnot : ¬ReachesUnserialisable host ops (begun c) := by
        rw [← hreaches, hops]
        simp
      have htrue : (savingAll ops).refuses host (begun c) = true := by
        rw [hrefuses, hops]
        exact ⟨failure, rfl⟩
      rcases run_finish host captured' hopen with ⟨hsucceeded, -, -⟩ | ⟨-, failure, clock,
        hfailed, herror, hfinish⟩
      · rw [hresult] at hsucceeded
        cases hsucceeded
      · rw [htrue, hfinish]
        refine .inl ⟨rfl, fun hand => hnot hand.2, failure, captured', clock, hfailed, herror, ?_⟩
        rw [← hnone]
    · have hwork := h.run_thrown host hops
      have hopen : c₂.saved = some c.current := by
        rw [hwork] at hsaved
        exact hsaved
      rw [hwork]
      have hfalse : (savingAll ops).refuses host (begun c) = false := by
        rw [Bool.eq_false_iff, Ne, hrefuses, hops]
        simp
      have hreached : ReachesUnserialisable host ops (begun c) := by
        rw [← hreaches, hops]
        exact ⟨e, rfl⟩
      rw [hfalse]
      exact .inr (.inr ⟨rfl, ⟨rfl, hreached⟩, before, bad, after, e, ws, c₂, hsplit, hbad, hws,
        happlied, hnone, hopen, rfl⟩)

end Executes

end AgentMemory
