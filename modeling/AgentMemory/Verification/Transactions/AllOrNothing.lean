import AgentMemory.Verification.Store.Events
import AgentMemory.Verification.Transactions.Operations

/-! # When a transaction is all or nothing

An exception of the callback leaves the transaction open. And when SQLite has rolled the
transaction back with a statement that it refused, a callback that goes on has its next
statements committed one by one. -/

namespace AgentMemory

open Foundation

/-! ## Statements outside a transaction -/

/-- The commands of an operation: it neither begins nor ends a transaction. -/
def IsWrite : Command Write → Prop
  | .write _ => True
  | _ => False

theorem all_isWrite_andThen {first second : SqlM SqlResult} (hfirst : first.All IsWrite)
    (hsecond : second.All IsWrite) : (andThen first second).All IsWrite := by
  refine hfirst.bind ?_
  rintro (message | _)
  · trivial
  · exact hsecond

theorem all_isWrite_reporting {context : String} {p : SqlM SqlResult} (hp : p.All IsWrite) :
    (reporting context p).All IsWrite := by
  refine hp.bind ?_
  rintro (message | _) <;> trivial

theorem all_isWrite_step (w : Write) : (step w).All IsWrite :=
  ⟨trivial, fun _ => trivial⟩

theorem all_isWrite_ofExcept_bind {α β : Type} {x : Except CxxException α} {f : α → SqlM β}
    (hf : ∀ a, (f a).All IsWrite) : (Program.ofExcept x >>= f).All IsWrite := by
  refine Program.All.bind ?_ hf
  cases x <;> trivial

theorem all_isWrite_executeAll (ws : List Write) : (executeAll ws).All IsWrite := by
  induction ws with
  | nil => trivial
  | cons w ws ih =>
      refine ⟨trivial, ?_⟩
      rintro (message | _)
      · trivial
      · exact ih

theorem all_isWrite_appendEvent (services : RuntimeServices) (event : MemoryEvent) :
    (appendEvent services event).All IsWrite := by
  unfold appendEvent
  split
  · trivial
  · refine Program.All.bind (all_isWrite_reporting (all_isWrite_andThen (all_isWrite_step _) ?_))
      fun _ => trivial
    exact all_isWrite_ofExcept_bind fun _ => all_isWrite_step _

theorem all_isWrite_body (op : TransactionOp) : op.body.All IsWrite := by
  unfold TransactionOp.body
  rw [TransactionOp.unlocked_eq]
  exact all_isWrite_reporting (all_isWrite_ofExcept_bind all_isWrite_executeAll)

section Closed

variable {α : Type} {p : SqlM α} {c : Connection}

/-- Writes outside a transaction leave none open. -/
theorem run_closed (E : Engine Write Database Text) (hp : p.All IsWrite) (hc : c.saved = none) :
    (p.run (Session.execute E) c).2.saved = none := by
  refine hp.run_invariant (I := fun c' : Connection => c'.saved = none) ?_ hc
  intro op c' hop hc'
  cases op with
  | write w => exact Session.execute_write_closed hc'
  | beginTransaction => exact absurd hop id
  | commit => exact absurd hop id
  | rollback => exact absurd hop id

/-- Outside a transaction no refusal has anything to roll back. -/
theorem run_executeWith_of_closed (host : Host) (rollsBack : ℕ → Bool) (hp : p.All IsWrite)
    (hc : c.saved = none) : p.run (host.executeWith rollsBack) c = p.runOn host c := by
  induction p generalizing c with
  | pure a => rfl
  | throw e => rfl
  | call op next ih =>
      cases op with
      | write w =>
          simp only [SqlM.runOn, Program.run, Host.executeWith]
          rw [Session.execute_write_of_closed rollsBack w hc]
          exact ih _ (hp.2 _) (Session.execute_write_closed hc)
      | beginTransaction => exact absurd hp.1 id
      | commit => exact absurd hp.1 id
      | rollback => exact absurd hp.1 id

end Closed

/-! ## The writes of a callback -/

/-- The writes among these statements that were not refused. -/
def acceptedWrites (statements : List ((_ : Command Write) × SqlResult)) : List Write :=
  statements.filterMap fun
    | ⟨.write w, .ok ()⟩ => some w
    | _ => none

/-- The writes that the callback executes on the connection, without those refused. -/
def Work.writes {α : Type} (h : Handler (Command.signature Write Text) Connection)
    (work : Work α) (c : Connection) : List Write :=
  acceptedWrites ((work.interpret TransactionOp.body).trace h c)

section Writes

variable {α : Type} (E : Engine Write Database Text)

/-- What writes leave of a transaction that began on `d`: it is still open and holds them, or it
has been rolled back. -/
theorem run_writes_of_open {p : SqlM α} (hp : p.All IsWrite) {c : Connection} {d : Database}
    (hc : c.saved = some d) :
    ((p.run (Session.execute E) c).2.saved = some d ∧
      Session.Applied E (acceptedWrites (p.trace (Session.execute E) c)) c.current
        (p.run (Session.execute E) c).2.current) ∨
      (p.run (Session.execute E) c).2.saved = none := by
  induction p generalizing c with
  | pure a => exact .inl ⟨hc, .nil _⟩
  | throw e => exact .inl ⟨hc, .nil _⟩
  | call op next ih =>
      cases op with
      | beginTransaction => exact absurd hp.1 id
      | commit => exact absurd hp.1 id
      | rollback => exact absurd hp.1 id
      | write w =>
          simp only [Program.run, Program.trace]
          rcases Session.execute_write_cases E w c with ⟨d', -, heffect, h⟩ | h
          · rw [h]
            rcases ih _ (hp.2 _) (c := { c with current := d', clock := c.clock + 1 }) hc with
              ⟨hsaved, happlied⟩ | hclosed
            · exact .inl ⟨hsaved, .cons heffect happlied⟩
            · exact .inr hclosed
          · rw [h]
            rcases Session.refused_cases E c with hrefused | hrefused
            · rw [hrefused]
              exact ih _ (hp.2 _) (c := { c with clock := c.clock + 1 }) hc
            · rw [hrefused]
              exact .inr (run_closed E (hp.2 _) rfl)

end Writes

/-! ## All or nothing -/

/-- The call returned success. -/
def returnsSuccess {γ : Type} : Except CxxException (MemoryOperationResult × γ) → Bool
  | .ok (result, _) => result.succeeded
  | .error _ => false

section AllOrNothing

variable {γ : Type} (host : Host) (rollsBack : ℕ → Bool)

/-- An event whose append succeeds is in the tables that survive a crash. -/
def AppendIsDurable (c : Connection) : Prop :=
  ∀ services event c', (appendEvent services event).run (host.executeWith rollsBack) c =
    (.ok memorySuccess, c') → Appended event c.durable c'.durable

/-- What a caller of `RunInTransaction` relies on when it exits with `reply` on `c'`: no
transaction is left open, the surviving tables hold all of the callback's writes or are the ones
from before, events appended later are durable and a later transaction can begin. -/
structure AllOrNothing (work : Work (MemoryOperationResult × γ)) (c : Connection)
    (reply : Except CxxException (MemoryOperationResult × γ)) (c' : Connection) : Prop where
  closed : c'.saved = none
  all : returnsSuccess reply = true →
    Session.Applied (host.engine.rollingBack rollsBack)
      (work.writes (host.executeWith rollsBack) (begun c)) c.durable c'.durable
  nothing : returnsSuccess reply = false → c'.durable = c.durable
  appendIsDurable : AppendIsDurable host rollsBack c'
  canBegin : (host.outcome c'.clock).accepted = true →
    (host.executeWith rollsBack .beginTransaction c').1 = .ok ()

/-- How the callback ends, when its transaction has begun: without an exception as long as the
transaction is open; and if SQLite has rolled the transaction back, then the statements that the
callback still executes leave the tables as they were. -/
structure CallbackEnds (work : Work (MemoryOperationResult × γ)) (c : Connection) : Prop where
  returns : (work.runUnder (host.executeWith rollsBack) (begun c)).2.saved.isSome = true →
    ∃ returned, (work.runUnder (host.executeWith rollsBack) (begun c)).1 = .ok returned
  idle : (work.runUnder (host.executeWith rollsBack) (begun c)).2.saved = none →
    (work.runUnder (host.executeWith rollsBack) (begun c)).2.current = c.current

theorem appendIsDurable_of_closed {c : Connection} (h : c.saved = none) :
    AppendIsDurable host rollsBack c := by
  intro services event c' hrun
  rw [run_executeWith_of_closed host rollsBack (all_isWrite_appendEvent services event) h] at hrun
  obtain ⟨reply, c'', hrun', hsaved, hcases⟩ := run_appendEvent host services event c
  rw [hrun] at hrun'
  cases hrun'
  rcases hcases with ⟨-, happended⟩ | ⟨hfailed, -⟩
  · rw [Session.durable_of_closed h, Session.durable_of_closed (hsaved.trans h)]
    exact happended
  · cases hfailed _ rfl

theorem canBegin_of_closed {c : Connection} (h : c.saved = none)
    (haccepted : (host.outcome c.clock).accepted = true) :
    (host.executeWith rollsBack .beginTransaction c).1 = .ok () := by
  simp [Host.executeWith, Session.execute, Engine.rollingBack, Host.engine, h, haccepted]

/-- A failed call that leaves no transaction open is all or nothing exactly when it has left the
tables alone. -/
theorem allOrNothing_of_failed {work : Work (MemoryOperationResult × γ)} {c c' : Connection}
    {reply : Except CxxException (MemoryOperationResult × γ)}
    (hfailed : returnsSuccess reply = false) (hclosed : c'.saved = none) :
    AllOrNothing host rollsBack work c reply c' ↔ c'.current = c.durable := by
  rw [← Session.durable_of_closed hclosed]
  constructor
  · intro h
    exact h.nothing hfailed
  · intro h
    exact {
      closed := hclosed
      all := fun hsucceeded => by rw [hfailed] at hsucceeded; cases hsucceeded
      nothing := fun _ => h
      appendIsDurable := appendIsDurable_of_closed host rollsBack hclosed
      canBegin := canBegin_of_closed host rollsBack hclosed }

theorem runUnder_of_open (work : Work (MemoryOperationResult × γ)) {c : Connection} {d : Database}
    (hc : c.saved = some d) :
    ((work.runUnder (host.executeWith rollsBack) c).2.saved = some d ∧
      Session.Applied (host.engine.rollingBack rollsBack)
        (work.writes (host.executeWith rollsBack) c) c.current
        (work.runUnder (host.executeWith rollsBack) c).2.current) ∨
      (work.runUnder (host.executeWith rollsBack) c).2.saved = none := by
  have hwrites : (work.interpret TransactionOp.body).All IsWrite :=
    Program.All.interpret (Program.all_true work) fun op _ => all_isWrite_body op
  rw [← Work.run_interpret_under]
  exact run_writes_of_open (host.engine.rollingBack rollsBack) hwrites hc

section CallbackEnds

variable {host rollsBack} {work : Work (MemoryOperationResult × γ)} {c : Connection}

/-- With its transaction still open, the callback has to return. -/
theorem callbackEnds_of_open
    (h : (work.runUnder (host.executeWith rollsBack) (begun c)).2.saved.isSome = true) :
    CallbackEnds host rollsBack work c ↔
      ∃ returned, (work.runUnder (host.executeWith rollsBack) (begun c)).1 = .ok returned := by
  constructor
  · exact fun hends => hends.returns h
  · intro hreturned
    refine ⟨fun _ => hreturned, fun hclosed => ?_⟩
    rw [hclosed] at h
    cases h

/-- Once SQLite has rolled back, it has to leave the tables as they were. -/
theorem callbackEnds_of_closed
    (h : (work.runUnder (host.executeWith rollsBack) (begun c)).2.saved = none) :
    CallbackEnds host rollsBack work c ↔
      (work.runUnder (host.executeWith rollsBack) (begun c)).2.current = c.current := by
  constructor
  · exact fun hends => hends.idle h
  · intro hcurrent
    refine ⟨fun hopen => ?_, fun _ => hcurrent⟩
    rw [h] at hopen
    cases hopen

end CallbackEnds

/-- Once the transaction has begun, the call is all or nothing exactly when the callback ends
well. -/
theorem allOrNothing_of_begun {captured : γ} {work : Work (MemoryOperationResult × γ)}
    {c : Connection} (hnone : c.saved = none)
    (hbegin : host.executeWith rollsBack .beginTransaction c = (.ok (), begun c)) :
    AllOrNothing host rollsBack work c
        ((runInTransaction captured work).run (host.executeWith rollsBack) c).1
        ((runInTransaction captured work).run (host.executeWith rollsBack) c).2 ↔
      CallbackEnds host rollsBack work c := by
  have hends := runUnder_of_open host rollsBack work (c := begun c) rfl
  have hdurable := Session.durable_of_closed hnone
  rw [run_runInTransaction_under, hbegin]
  dsimp only
  rcases hwork : work.runUnder (host.executeWith rollsBack) (begun c) with
    ⟨e | ⟨result, captured'⟩, c₂⟩
  · rw [hwork] at hends
    dsimp only at hends ⊢
    rcases hends with ⟨hopen, -⟩ | hclosed
    · -- the exception leaves at once
      rw [callbackEnds_of_open (by rw [hwork, hopen]; rfl), hwork]
      refine iff_of_false (fun h => ?_) fun ⟨returned, hreturned⟩ => by cases hreturned
      have hclosed := h.closed
      rw [hopen] at hclosed
      cases hclosed
    · rw [callbackEnds_of_closed (by rw [hwork]; exact hclosed), hwork, ← hdurable]
      exact allOrNothing_of_failed host rollsBack rfl hclosed
  · rw [hwork] at hends
    dsimp only at hends ⊢
    rcases hends with ⟨hopen, happlied⟩ | hclosed
    · rw [callbackEnds_of_open (by rw [hwork, hopen]; rfl), hwork]
      refine iff_of_true ?_ ⟨_, rfl⟩
      rcases run_finish_under captured' (host.engine.rollingBack rollsBack) result hopen with
        ⟨-, -, hfinish⟩ | ⟨-, failure, clock, hfailed, -, hfinish⟩
      · rw [Host.executeWith, hfinish]
        exact {
          closed := rfl
          all := fun _ => by rw [hdurable]; exact happlied
          nothing := fun h => by cases h
          appendIsDurable := appendIsDurable_of_closed host rollsBack rfl
          canBegin := canBegin_of_closed host rollsBack rfl }
      · rw [Host.executeWith, hfinish]
        have hreply : returnsSuccess (.ok (failure, captured')) = false := hfailed
        exact (allOrNothing_of_failed host rollsBack hreply rfl).mpr hdurable.symm
    · -- SQLite has rolled back: neither `COMMIT` nor `ROLLBACK` has a transaction to end
      obtain ⟨failure, clock, hfailed, hfinish⟩ := run_finish_of_closed captured'
        (host.engine.rollingBack rollsBack) result hclosed
      have hreply : returnsSuccess (.ok (failure, captured')) = false := hfailed
      rw [callbackEnds_of_closed (by rw [hwork]; exact hclosed), hwork, ← hdurable,
        Host.executeWith, hfinish]
      exact @allOrNothing_of_failed γ host rollsBack work c { c₂ with clock } _ hreply hclosed

/-- `RunInTransaction` is all or nothing exactly when no transaction is open before the call, or
SQLite rolls it back with the `BEGIN` that it refuses, and the callback, if it is called, ends
well. -/
theorem runInTransaction_allOrNothing_iff (captured : γ)
    (work : Work (MemoryOperationResult × γ)) (c : Connection) :
    AllOrNothing host rollsBack work c
        ((runInTransaction captured work).run (host.executeWith rollsBack) c).1
        ((runInTransaction captured work).run (host.executeWith rollsBack) c).2 ↔
      (c.saved = none ∨ rollsBack c.clock = true) ∧
        ((host.executeWith rollsBack .beginTransaction c).1 = .ok () →
          CallbackEnds host rollsBack work c) := by
  rcases Session.execute_begin_cases (host.engine.rollingBack rollsBack) c with
    ⟨hnone, hbegin⟩ | hbegin
  · rw [allOrNothing_of_begun host rollsBack hnone hbegin]
    change _ ↔ _ ∧ ((Session.execute _ _ _).1 = _ → _)
    rw [hbegin]
    simp [hnone]
  · have hrun : (runInTransaction captured work).run (host.executeWith rollsBack) c =
        (.ok (sqliteFailure (host.outcome c.clock).errmsg "RunInTransaction::begin", captured),
          c.refused (host.engine.rollingBack rollsBack)) := by
      rw [run_runInTransaction_under, Host.executeWith, hbegin]
      rfl
    have hrefused : (host.executeWith rollsBack .beginTransaction c).1 ≠ .ok () := by
      rw [Host.executeWith, hbegin]
      rintro ⟨⟩
    rw [hrun, and_iff_left fun hok => absurd hok hrefused]
    change _ ↔ _ ∨ (host.engine.rollingBack rollsBack).rollsBack c.clock = true
    rw [← Session.refused_closed_iff]
    constructor
    · intro h
      exact h.closed
    · intro h
      refine (allOrNothing_of_failed host rollsBack rfl h).mpr ?_
      rw [← Session.durable_of_closed h, Session.durable_refused]

end AllOrNothing

/-- A callback that saves one summary, whose source ref is not valid UTF-8. -/
def saveUnserialisable : Work (MemoryOperationResult × Unit) := do
  let operation ← transaction (.saveSummary (ascii "alice") (ascii "s") (ascii "topic")
    (ascii "auto") (ascii "summary") (1 / 2) [[0xFF]])
  return (operation, ())

/-- On a new database that callback throws out of `RunInTransaction` and leaves its transaction
open. -/
theorem saveUnserialisable_not_allOrNothing :
    let outcome := (runInTransaction () saveUnserialisable).run
      (Host.obliging.executeWith fun _ => false) { current := .empty }
    ¬AllOrNothing .obliging (fun _ => false) saveUnserialisable { current := .empty } outcome.1
      outcome.2 := by
  intro outcome h
  have hopen : outcome.2.saved = some .empty := rfl
  rw [h.closed] at hopen
  cases hopen

/-- A host that refuses one statement of a connection. -/
def refusing (n : ℕ) : Host where
  outcome clock := { accepted := clock != n, errmsg := ascii "database or disk is full" }
  parseJson _ := none

/-- A callback that saves two summaries and returns what became of the second one. -/
def saveTwice : Work (MemoryOperationResult × Unit) := do
  let _ ← transaction (.saveSummary (ascii "alice") (ascii "s") (ascii "topic") (ascii "auto")
    (ascii "first") (1 / 2) [])
  let operation ← transaction (.saveSummary (ascii "alice") (ascii "s") (ascii "topic")
    (ascii "auto") (ascii "second") (1 / 2) [])
  return (operation, ())

/-- If SQLite rolls back with the first of them, the second one stays although the call fails. -/
theorem saveTwice_not_allOrNothing :
    let host := refusing 1
    let outcome := (runInTransaction () saveTwice).run (host.executeWith fun _ => true)
      { current := .empty }
    ¬AllOrNothing host (fun _ => true) saveTwice { current := .empty } outcome.1 outcome.2 := by
  intro host outcome h
  have hkept : outcome.2.durable.summaries.rows.length = 1 := by decide +kernel
  rw [h.nothing (by decide +kernel)] at hkept
  cases hkept

/-! ## Callbacks that stop at a refusal -/

/-- Once an operation has failed the callback executes nothing and returns a failure. -/
def StopsAtFailure {γ : Type} : Work (MemoryOperationResult × γ) → Prop
  | .pure _ => True
  | .throw _ => True
  | .call _ next => (∀ failure : MemoryOperationResult, failure.succeeded = false →
      ∃ returned, next (.ok failure) = .pure returned ∧ returned.1.succeeded = false) ∧
    ∀ reply, StopsAtFailure (next reply)

section Stops

variable {γ : Type} {work : Work (MemoryOperationResult × γ)} {ops : List TransactionOp} {saved : γ}

theorem pure_of_map_pure {α β : Type} {p : Work α} {f : α → β} {b : β}
    (h : (do return f (← p) : Work β) = .pure b) : ∃ a, p = .pure a ∧ f a = b := by
  cases p with
  | pure a =>
      cases h
      exact ⟨a, rfl, rfl⟩
  | throw e => cases h
  | call op next => cases h

theorem throw_of_map_throw {α β : Type} {p : Work α} {f : α → β} {e : CxxException}
    (h : (do return f (← p) : Work β) = .throw e) : p = .throw e := by
  cases p with
  | pure a => cases h
  | throw e' =>
      cases h
      rfl
  | call op next => cases h

/-- The consolidation's callbacks execute a list of operations until the first failure. -/
theorem Executes.stopsAtFailure (h : Executes work ops saved) : StopsAtFailure work := by
  induction ops generalizing work with
  | nil =>
      obtain ⟨a, rfl, -⟩ := pure_of_map_pure h
      trivial
  | cons op ops ih =>
      cases work with
      | pure a => cases h
      | throw e => cases h
      | call op' next =>
          injection h with hop hnext
          subst hop
          have hreply := congrFun hnext
          -- what follows an operation that returned
          have hreturned : ∀ operation : MemoryOperationResult,
              (do let x ← (next (.ok operation) : Work (MemoryOperationResult × γ))
                  return if x.1.succeeded then some x.2 else none) =
                (do let failure ← (if operation.succeeded then saveAll ops
                      else return some operation : Work (Option MemoryOperationResult))
                    return if failure.isNone then some saved else none) :=
            fun operation => hreply (.ok operation)
          have hfailed : ∀ failure : MemoryOperationResult, failure.succeeded = false →
              ∃ returned, next (.ok failure) = .pure returned ∧ returned.1.succeeded = false := by
            intro failure hfailure
            have h := hreturned failure
            rw [hfailure] at h
            obtain ⟨returned, hnext, hnone⟩ := pure_of_map_pure h
            exact ⟨returned, hnext, by simpa using hnone⟩
          refine ⟨hfailed, ?_⟩
          rintro (e | operation)
          · rw [throw_of_map_throw (hreply (.error e))]
            trivial
          · cases hoperation : operation.succeeded with
            | true =>
                have h := hreturned operation
                rw [hoperation] at h
                exact ih h
            | false =>
                obtain ⟨returned, hnext, -⟩ := hfailed operation hoperation
                rw [hnext]
                trivial

/-- An operation inside a transaction returns the same result. If it does not leave the same
state, it failed and the transaction was rolled back with its statement. -/
theorem run_body_executeWith (host : Host) (rollsBack : ℕ → Bool) (op : TransactionOp)
    {c : Connection} {d : Database} (hc : c.saved = some d) :
    op.body.run (host.executeWith rollsBack) c = op.body.runOn host c ∨
      ∃ failure c₁ c₂, failure.succeeded = false ∧ Session.RolledBack c₁ c₂ ∧
        op.body.run (host.executeWith rollsBack) c = (.ok failure, c₁) ∧
        op.body.runOn host c = (.ok failure, c₂) := by
  unfold TransactionOp.body
  rw [TransactionOp.unlocked_eq, run_reporting_under, run_reporting]
  cases op.statements with
  | error e => exact .inl rfl
  | ok ws =>
      rw [Program.ofExcept_ok_bind, SqlM.runOn, Host.executeWith, Host.execute, executeAll]
      rcases Session.run_writeAll_rollingBack (ε := CxxException) (E := host.engine) rollsBack
        (fun _ => rfl) ws hc with heq | ⟨message, c₁, c₂, hrolled, h₁, h₂⟩
      · rw [heq]
        exact .inl rfl
      · rw [h₁, h₂]
        exact .inr ⟨_, c₁, c₂, rfl, hrolled, rfl, rfl⟩

/-- So does a callback that stops at a failure. -/
theorem run_work_executeWith (host : Host) (rollsBack : ℕ → Bool) (h : StopsAtFailure work)
    {c : Connection} {d : Database} (hc : c.saved = some d) :
    work.runUnder (host.executeWith rollsBack) c = work.runOn host c ∨
      ∃ returned c₁ c₂, returned.1.succeeded = false ∧ Session.RolledBack c₁ c₂ ∧
        work.runUnder (host.executeWith rollsBack) c = (.ok returned, c₁) ∧
        work.runOn host c = (.ok returned, c₂) := by
  induction work generalizing c with
  | pure a => exact .inl rfl
  | throw e => exact .inl rfl
  | call op next ih =>
      simp only [Work.runUnder, Work.runOn, Program.run, Host.perform]
      rcases run_body_executeWith host rollsBack op hc with heq |
        ⟨failure, c₁, c₂, hfailure, hrolled, h₁, h₂⟩
      · rw [heq]
        exact ih _ (h.2 _) ((op.run_body_saved host c).trans hc)
      · obtain ⟨returned, hnext, hreturned⟩ := h.1 failure hfailure
        rw [h₁, h₂]
        simp only [hnext]
        exact .inr ⟨returned, c₁, c₂, hreturned, hrolled, rfl, rfl⟩

/-- After a failure the transaction ends by `ROLLBACK`, unless the engine has ended it. -/
theorem run_finish_of_failed (h : Handler (Command.signature Write Text) Connection)
    {result : MemoryOperationResult} (captured : γ) (hfailed : result.succeeded = false)
    (c : Connection) :
    (finish result captured).run h c =
      (.ok (if result.error.hasError then result
          else memoryFailure (ascii "transaction_failed") (ascii "transaction work failed"),
        captured), (h .rollback c).2) := by
  unfold finish
  rw [hfailed]
  rfl

theorem run_finish_of_rolledBack (host : Host) (rollsBack : ℕ → Bool)
    {result : MemoryOperationResult} (captured : γ) (hfailed : result.succeeded = false)
    {c₁ c₂ : Connection} (h : Session.RolledBack c₁ c₂) :
    (finish result captured).run (host.executeWith rollsBack) c₁ =
      (finish result captured).runOn host c₂ := by
  rw [SqlM.runOn, run_finish_of_failed _ captured hfailed, run_finish_of_failed _ captured hfailed]
  exact congrArg (Prod.mk _) (h.execute_rollback rollsBack)

theorem run_finish_executeWith (host : Host) (rollsBack : ℕ → Bool)
    (result : MemoryOperationResult) (captured : γ) {c : Connection} {d : Database}
    (hc : c.saved = some d) :
    (finish result captured).run (host.executeWith rollsBack) c =
      (finish result captured).runOn host c := by
  have hrollback {c : Connection} (hc : c.saved = some d) :
      host.executeWith rollsBack .rollback c = host.execute .rollback c := by
    rw [Host.executeWith, Host.execute, Session.execute_rollback_of_saved hc,
      Session.execute_rollback_of_saved hc]
  cases hresult : result.succeeded with
  | false =>
      rw [SqlM.runOn, run_finish_of_failed _ captured hresult,
        run_finish_of_failed _ captured hresult, hrollback hc]
  | true =>
      unfold finish SqlM.runOn
      simp only [hresult, if_true]
      rw [Program.run_bind, Program.run_bind, run_executeUnlocked, run_executeUnlocked]
      rcases Session.execute_commit_rollingBack (E := host.engine) rollsBack c with heq | ⟨h₁, h₂⟩
      · rw [Host.executeWith, heq]
        rcases Session.execute_commit_cases host.engine c with ⟨-, h⟩ | h
        · rw [Host.execute, h]
          rfl
        · rw [Host.execute, h]
          exact congrArg (Prod.mk _) (congrArg Prod.snd (hrollback hc))
      · rw [Host.executeWith, Host.execute, h₁, h₂]
        rcases Session.rolledBack_refused rollsBack (E := host.engine) (fun _ => rfl) hc with
          heq | hrolled
        · rw [heq]
          exact congrArg (Prod.mk _) (congrArg Prod.snd (hrollback hc))
        · exact congrArg (Prod.mk _) (hrolled.execute_rollback rollsBack)

/-- A callback that executes nothing after a refusal cannot tell whether the transaction has been
rolled back with it: the whole call does the same. -/
theorem Executes.run_executeWith (host : Host) (rollsBack : ℕ → Bool) (captured : γ)
    (h : Executes work ops saved) {c : Connection} (hc : c.saved = none) :
    (runInTransaction captured work).run (host.executeWith rollsBack) c =
      (runInTransaction captured work).runOn host c := by
  have hbegins : host.executeWith rollsBack .beginTransaction c = begin host c :=
    Session.execute_begin_of_closed rollsBack hc
  rw [run_runInTransaction_under, run_runInTransaction, hbegins]
  rcases begin_cases host c with ⟨message, hbegin⟩ | ⟨-, hbegin⟩
  · rw [hbegin]
  · rw [hbegin]
    dsimp only
    have hopen := Work.run_saved host work (begun c)
    rcases run_work_executeWith host rollsBack h.stopsAtFailure (c := begun c) rfl with
      heq | ⟨⟨result, captured'⟩, c₁, c₂, hfailed, hrolled, h₁, h₂⟩
    · rw [heq]
      rcases hwork : work.runOn host (begun c) with ⟨e | ⟨result, captured'⟩, c₂⟩
      · rfl
      · rw [hwork] at hopen
        exact run_finish_executeWith host rollsBack result captured' hopen
    · rw [h₁, h₂]
      exact run_finish_of_rolledBack host rollsBack captured' hfailed hrolled

end Stops

end AgentMemory
