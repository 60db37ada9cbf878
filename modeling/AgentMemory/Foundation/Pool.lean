import AgentMemory.Foundation.Program
import Mathlib.Data.List.Perm.Lattice
import Mathlib.Logic.Hydra

/-! # Threads that share a state

A pool holds programs, each at its own place, that take their steps in any order on one state. A
program may take locks and give them back, and has to wait for a lock that another one holds.
What the threads have done is kept: by each its own log, and by the pool the history of all. -/

namespace AgentMemory.Foundation

/-- An operation, or the taking or giving back of a lock. -/
inductive LockOp (L : Type) (S : Signature) where
  | acquire (l : L)
  | release (l : L)
  | operation (op : S.Op)

/-- What holds of the operations, with the locks left aside. -/
def LockOp.Satisfies {L : Type} {S : Signature} (P : S.Op → Prop) : LockOp L S → Prop
  | .operation op => P op
  | _ => True

abbrev Signature.locking (S : Signature) (L : Type) : Signature where
  Op := LockOp L S
  Reply
    | .acquire _ => Unit
    | .release _ => Unit
    | .operation op => S.Reply op

/-- A call with what it replied. -/
abbrev Signature.Called (S : Signature) : Type := (op : S.Op) × S.Reply op

variable {S T : Signature} {L ε α β σ : Type}

namespace Program

def operate (op : S.Op) : Program (S.locking L) ε (S.Reply op) :=
  .call (.operation op) .pure

/-- A program that holds a lock, which it gives back on an exception, too. -/
def locked (l : L) (p : Program (S.locking L) ε α) : Program (S.locking L) ε α :=
  .call (.acquire l) fun _ => p.tryBind fun r => .call (.release l) fun _ => .ofExcept r

/-- A program is done when it has returned or thrown. -/
def Done : Program (S.locking L) ε α → Prop
  | .call _ _ => False
  | _ => True

/-- With the calls of the log a program comes to another one, and what it calls next is there. -/
inductive Follows : Program (S.locking L) ε α → List S.Called → Program (S.locking L) ε α → Prop where
  | refl (p) : Follows p [] p
  | acquire {l next log q} (rest : Follows (next ()) log q) :
      Follows (.call (.acquire l) next) log q
  | release {l next log q} (rest : Follows (next ()) log q) :
      Follows (.call (.release l) next) log q
  | operation {op next reply log q} (rest : Follows (next reply) log q) :
      Follows (.call (.operation op) next) (⟨op, reply⟩ :: log) q

namespace Follows

theorem trans {p q r : Program (S.locking L) ε α} {log log' : List S.Called}
    (h : Follows p log q) (h' : Follows q log' r) : Follows p (log ++ log') r := by
  induction h with
  | refl => exact h'
  | acquire rest ih => exact .acquire (ih h')
  | release rest ih => exact .release (ih h')
  | operation rest ih => exact .operation (ih h')

/-- What holds of every operation that a program can call holds of those in its log. -/
theorem all {P : S.Op → Prop} {p q : Program (S.locking L) ε α} {log : List S.Called}
    (h : Follows p log q) (hp : p.All (LockOp.Satisfies P)) : ∀ called ∈ log, P called.1 := by
  induction h with
  | refl => simp
  | acquire rest ih => exact ih (hp.2 ())
  | release rest ih => exact ih (hp.2 ())
  | operation rest ih => exact List.forall_mem_cons.mpr ⟨hp.1, ih (hp.2 _)⟩

end Follows

theorem done_iff {q : Program (S.locking L) ε α} : q.Done ↔ ∃ outcome, q = .ofExcept outcome := by
  constructor
  · intro h
    cases q with
    | pure a => exact ⟨.ok a, rfl⟩
    | throw e => exact ⟨.error e, rfl⟩
    | call op next => cases h
  · rintro ⟨e | a, rfl⟩ <;> trivial

/-! ### Without the locks -/

/-- The program without its locks, which is what it is when it runs alone. -/
def unlocked : Program (S.locking L) ε α → Program S ε α
  | .pure a => .pure a
  | .throw e => .throw e
  | .call (.acquire _) next => (next ()).unlocked
  | .call (.release _) next => (next ()).unlocked
  | .call (.operation op) next => .call op fun reply => (next reply).unlocked

section Unlocked

theorem unlocked_tryBind (p : Program (S.locking L) ε α)
    (f : Except ε α → Program (S.locking L) ε β) :
    (p.tryBind f).unlocked = p.unlocked.tryBind fun r => (f r).unlocked := by
  induction p with
  | pure a => rfl
  | throw e => rfl
  | call op next ih =>
      cases op with
      | acquire l => exact ih ()
      | release l => exact ih ()
      | operation op => exact congrArg (call op) (funext ih)

@[simp] theorem unlocked_pure (a : α) :
    (Pure.pure a : Program (S.locking L) ε α).unlocked = Pure.pure a := rfl

@[simp] theorem unlocked_ofExcept (outcome : Except ε α) :
    (ofExcept outcome : Program (S.locking L) ε α).unlocked = ofExcept outcome := by
  cases outcome <;> rfl

@[simp] theorem unlocked_bind (p : Program (S.locking L) ε α)
    (f : α → Program (S.locking L) ε β) :
    (p >>= f).unlocked = p.unlocked >>= fun a => (f a).unlocked := by
  change (p.tryBind _).unlocked = p.unlocked.tryBind _
  rw [unlocked_tryBind]
  congr 1
  funext r
  cases r <;> rfl

@[simp] theorem unlocked_operate (op : S.Op) :
    (operate op : Program (S.locking L) ε _).unlocked = perform op := rfl

@[simp] theorem unlocked_locked (l : L) (p : Program (S.locking L) ε α) :
    (locked l p).unlocked = p.unlocked := by
  have hrelease : (fun r : Except ε α => Program.unlocked (S := S)
      (.call (.release l) fun _ => .ofExcept r)) = ofExcept :=
    funext fun r => unlocked_ofExcept r
  change (p.tryBind _).unlocked = _
  rw [unlocked_tryBind, hrelease, tryBind_ofExcept]

theorem unlocked_interpret (body : (op : T.Op) → Program (S.locking L) ε (T.Reply op))
    (p : Program (T.fallible ε) ε α) :
    (p.interpret body).unlocked = p.interpret fun op => (body op).unlocked := by
  induction p with
  | pure a => rfl
  | throw e => rfl
  | call op next ih =>
      change ((body op).tryBind _).unlocked = _
      rw [unlocked_tryBind]
      exact congrArg (fun g => (body op).unlocked.tryBind g) (funext ih)

theorem unlocked_translate {δ : Type} (thrown : δ → ε)
    (body : (op : T.Op) → Program (S.locking L) ε (T.Reply op)) (p : Program T δ α) :
    (p.translate thrown body).unlocked = p.translate thrown fun op => (body op).unlocked := by
  induction p with
  | pure a => rfl
  | throw e => rfl
  | call op next ih =>
      change (body op >>= _).unlocked = _
      rw [unlocked_bind]
      exact congrArg (fun g => (body op).unlocked >>= g) (funext ih)

end Unlocked

theorem All.unlocked {P : S.Op → Prop} {p : Program (S.locking L) ε α}
    (hp : p.All (LockOp.Satisfies P)) : p.unlocked.All P := by
  induction p with
  | pure a => trivial
  | throw e => trivial
  | call op next ih =>
      cases op with
      | acquire l => exact ih () (hp.2 ())
      | release l => exact ih () (hp.2 ())
      | operation op => exact ⟨hp.1, fun reply => ih reply (hp.2 reply)⟩

/-- A program that has come to its end has made the calls of its log. -/
theorem Follows.ends {p q : Program (S.locking L) ε α} {log : List S.Called}
    (h : Follows p log q) {outcome : Except ε α} (hq : q = .ofExcept outcome) :
    p.unlocked.Ends log outcome := by
  induction h with
  | refl p =>
      rw [hq, unlocked_ofExcept]
      exact ends_ofExcept.mpr ⟨rfl, rfl⟩
  | acquire rest ih => exact ih hq
  | release rest ih => exact ih hq
  | operation rest ih => exact ⟨_, _, rfl, ih hq⟩

/-- What is left of a program after a call. -/
def Next (q p : Program S ε α) : Prop :=
  ∃ op next reply, p = .call op next ∧ q = next reply

theorem wellFounded_next : WellFounded (Next (S := S) (ε := ε) (α := α)) := by
  constructor
  intro p
  induction p with
  | pure a => exact ⟨_, fun q ⟨_, _, _, hp, _⟩ => by cases hp⟩
  | throw e => exact ⟨_, fun q ⟨_, _, _, hp, _⟩ => by cases hp⟩
  | call op next ih =>
      refine ⟨_, fun q ⟨_, _, reply, hp, hq⟩ => ?_⟩
      cases hp
      rw [hq]
      exact ih reply

end Program

/-! ## Pools -/

/-- A thread: what it was started as, what it has called, the locks it holds, the last one first,
and what is left of it. -/
structure Thread (S : Signature) (L ε α : Type) where
  program : Program (S.locking L) ε α
  log : List S.Called := []
  locks : List L := []
  rest : Program (S.locking L) ε α := program

structure Pool (S : Signature) (L ε α σ : Type) where
  state : σ
  threads : List (Thread S L ε α) := []
  history : List S.Called := []

namespace Pool

/-- A lock is free when no thread holds it. -/
def Free (pool : Pool S L ε α σ) (l : L) : Prop :=
  ∀ thread ∈ pool.threads, l ∉ thread.locks

/-- One step of a thread. -/
inductive ThreadStep (h : Handler S σ) : Pool S L ε α σ → Pool S L ε α σ → Prop where
  | acquire (pool) (before after : List (Thread S L ε α)) (thread : Thread S L ε α) (l next)
      (split : pool.threads = before ++ thread :: after)
      (call : thread.rest = .call (.acquire l) next) (free : pool.Free l) :
      ThreadStep h pool { pool with
        threads := before ++ { thread with locks := l :: thread.locks, rest := next () } :: after }
  | release (pool) (before after : List (Thread S L ε α)) (thread : Thread S L ε α) (l locks next)
      (split : pool.threads = before ++ thread :: after)
      (call : thread.rest = .call (.release l) next) (held : thread.locks = l :: locks) :
      ThreadStep h pool { pool with
        threads := before ++ { thread with locks, rest := next () } :: after }
  | operation (pool) (before after : List (Thread S L ε α)) (thread : Thread S L ε α) (op next)
      (split : pool.threads = before ++ thread :: after)
      (call : thread.rest = .call (.operation op) next) :
      ThreadStep h pool {
        state := (h op pool.state).2
        threads := before ++ { thread with
          log := thread.log ++ [⟨op, (h op pool.state).1⟩]
          rest := next (h op pool.state).1 } :: after
        history := pool.history ++ [⟨op, (h op pool.state).1⟩] }

/-- A step of a thread, the start of one, or a change of the state by something else. -/
inductive Step (h : Handler S σ) (admits : Program (S.locking L) ε α → Prop)
    (environment : σ → σ → Prop) : Pool S L ε α σ → Pool S L ε α σ → Prop where
  | thread {pool pool'} (step : ThreadStep h pool pool') : Step h admits environment pool pool'
  | spawn (pool) (program) (admitted : admits program) :
      Step h admits environment pool { pool with threads := pool.threads ++ [{ program }] }
  | environment (pool) (state) (changed : environment pool.state state) :
      Step h admits environment pool { pool with state }

/-- What a pool comes to that starts without threads. -/
def Reachable (h : Handler S σ) (admits : Program (S.locking L) ε α → Prop)
    (environment : σ → σ → Prop) (state : σ) : Pool S L ε α σ → Prop :=
  Relation.ReflTransGen (Step h admits environment) { state }

section Runs

variable {h : Handler S σ} {admits : Program (S.locking L) ε α → Prop}
  {environment : σ → σ → Prop} {state : σ} {pool pool' : Pool S L ε α σ}

/-! ### What holds of each thread -/

/-- A property of threads that each kind of step keeps for the thread that takes it. -/
structure ThreadInvariant (P : Thread S L ε α → Prop) : Prop where
  acquire : ∀ thread l next, thread.rest = .call (.acquire l) next → P thread →
    P { thread with locks := l :: thread.locks, rest := next () }
  release : ∀ thread l locks next, thread.rest = .call (.release l) next →
    thread.locks = l :: locks → P thread → P { thread with locks, rest := next () }
  operation : ∀ thread op next reply, thread.rest = .call (.operation op) next → P thread →
    P { thread with log := thread.log ++ [⟨op, reply⟩], rest := next reply }

theorem ThreadInvariant.step {P : Thread S L ε α → Prop} (hP : ThreadInvariant P)
    (hstep : ThreadStep h pool pool') (hpool : ∀ thread ∈ pool.threads, P thread) :
    ∀ thread ∈ pool'.threads, P thread := by
  cases hstep with
  | acquire before after thread l next split call free =>
      rw [split] at hpool
      simp only [List.forall_mem_append, List.forall_mem_cons] at hpool ⊢
      exact ⟨hpool.1, hP.acquire _ _ _ call hpool.2.1, hpool.2.2⟩
  | release before after thread l locks next split call held =>
      rw [split] at hpool
      simp only [List.forall_mem_append, List.forall_mem_cons] at hpool ⊢
      exact ⟨hpool.1, hP.release _ _ _ _ call held hpool.2.1, hpool.2.2⟩
  | operation before after thread op next split call =>
      rw [split] at hpool
      simp only [List.forall_mem_append, List.forall_mem_cons] at hpool ⊢
      exact ⟨hpool.1, hP.operation _ _ _ _ call hpool.2.1, hpool.2.2⟩

/-- What a thread is started with and keeps holds of every thread of a run. -/
theorem ThreadInvariant.reachable {P : Thread S L ε α → Prop} (hP : ThreadInvariant P)
    (hstart : ∀ program, admits program → P { program })
    (hpool : Reachable h admits environment state pool) : ∀ thread ∈ pool.threads, P thread := by
  induction hpool with
  | refl => simp
  | tail _ hstep ih =>
      cases hstep with
      | thread step => exact hP.step step ih
      | spawn program admitted =>
          simp only [List.forall_mem_append, List.forall_mem_singleton]
          exact ⟨ih, hstart program admitted⟩
      | environment state changed => exact ih

/-- A thread has come to where it is with the calls of its log. -/
theorem follows_of_reachable (hpool : Reachable h admits environment state pool) :
    ∀ thread ∈ pool.threads, thread.program.Follows thread.log thread.rest := by
  have hinvariant : ThreadInvariant fun thread : Thread S L ε α =>
      thread.program.Follows thread.log thread.rest := {
    acquire := by
      intro thread l next call hthread
      rw [call] at hthread
      have hstep := hthread.trans (.acquire (.refl (next ())))
      rwa [List.append_nil] at hstep
    release := by
      intro thread l locks next call held hthread
      rw [call] at hthread
      have hstep := hthread.trans (.release (.refl (next ())))
      rwa [List.append_nil] at hstep
    operation := by
      intro thread op next reply call hthread
      rw [call] at hthread
      exact hthread.trans (.operation (.refl (next reply))) }
  exact hinvariant.reachable (fun program _ => .refl program) hpool

theorem admitted_of_reachable (hpool : Reachable h admits environment state pool) :
    ∀ thread ∈ pool.threads, admits thread.program := by
  have hinvariant : ThreadInvariant fun thread : Thread S L ε α => admits thread.program :=
    ⟨fun _ _ _ _ h => h, fun _ _ _ _ _ _ h => h, fun _ _ _ _ _ h => h⟩
  exact hinvariant.reachable (fun program admitted => admitted) hpool

theorem ThreadStep.programs (hstep : ThreadStep h pool pool') :
    pool'.threads.map (·.program) = pool.threads.map (·.program) := by
  cases hstep with
  | acquire before after thread l next split call free => simp [split]
  | release before after thread l locks next split call held => simp [split]
  | operation before after thread op next split call => simp [split]

/-- What is true of the programs of all threads was true when they were started. -/
theorem reachable_restrict {admits' : Program (S.locking L) ε α → Prop}
    (hpool : Reachable h admits environment state pool)
    (hprograms : ∀ thread ∈ pool.threads, admits' thread.program) :
    Reachable h admits' environment state pool := by
  induction hpool with
  | refl => exact .refl
  | @tail before _ _ hstep ih =>
      cases hstep with
      | thread step =>
          have hkept : ∀ program ∈ before.threads.map (·.program), admits' program := by
            rw [← step.programs]
            simpa using hprograms
          exact (ih (by simpa using hkept)).tail (.thread step)
      | spawn program admitted =>
          simp only [List.forall_mem_append, List.forall_mem_singleton] at hprograms
          exact (ih hprograms.1).tail (.spawn _ program hprograms.2)
      | environment state changed => exact (ih hprograms).tail (.environment _ state changed)

/-! ### The locks -/

/-- No lock is held twice, be it by two threads or by one. -/
theorem exclusive_of_reachable (hpool : Reachable h admits environment state pool) :
    (pool.threads.flatMap (·.locks)).Nodup := by
  induction hpool with
  | refl => exact .nil
  | tail hbefore hstep ih =>
      cases hstep with
      | thread step =>
          cases step with
          | acquire before after thread l next split call free =>
              have hperm : (before ++ { thread with
                  locks := l :: thread.locks, rest := next () } :: after).flatMap (·.locks) |>.Perm
                  (l :: (before ++ thread :: after).flatMap (·.locks)) := by
                simp only [List.flatMap_append, List.flatMap_cons, List.cons_append]
                exact List.perm_middle
              rw [split] at ih
              refine hperm.nodup_iff.mpr (List.nodup_cons.mpr ⟨?_, ih⟩)
              rw [← split, List.mem_flatMap]
              rintro ⟨holder, hholder, hl⟩
              exact free holder hholder hl
          | release before after thread l locks next split call held =>
              rw [split] at ih
              refine ih.sublist ?_
              simp only [List.flatMap_append, List.flatMap_cons, held]
              exact .append_left (.append_right (List.sublist_cons_self l locks) _) _
          | operation before after thread op next split call =>
              rw [split] at ih
              simpa using ih
      | spawn program admitted => simpa using ih
      | environment state changed => exact ih

/-- Of two threads at different places no lock is held by both. -/
theorem not_mem_locks_of_split (hpool : Reachable h admits environment state pool)
    {before after : List (Thread S L ε α)} {thread other : Thread S L ε α}
    (hsplit : pool.threads = before ++ thread :: after) (hother : other ∈ before ++ after) :
    ∀ l ∈ thread.locks, l ∉ other.locks := by
  have hnodup := exclusive_of_reachable hpool
  rw [hsplit] at hnodup
  have hperm : (before ++ thread :: after).flatMap (·.locks) |>.Perm
      (thread.locks ++ (before ++ after).flatMap (·.locks)) :=
    (List.perm_middle.flatMap_right _).trans (by rw [List.flatMap_cons])
  have hdisjoint := (List.nodup_append.mp (hperm.nodup_iff.mp hnodup)).2.2
  intro l hl hmem
  exact hdisjoint l hl l (List.mem_flatMap.mpr ⟨other, hother, hmem⟩) rfl

/-! ### The history -/

/-- The history is made up of the logs of the threads. -/
theorem history_perm (hpool : Reachable h admits environment state pool) :
    pool.history.Perm (pool.threads.flatMap (·.log)) := by
  induction hpool with
  | refl => exact .refl _
  | tail _ hstep ih =>
      cases hstep with
      | thread step =>
          cases step with
          | acquire before after thread l next split call free =>
              rw [split] at ih
              simpa using ih
          | release before after thread l locks next split call held =>
              rw [split] at ih
              simpa using ih
          | operation before after thread op next split call =>
              rw [split] at ih
              simp only [List.flatMap_append, List.flatMap_cons] at ih ⊢
              refine (ih.append_right _).trans ?_
              simp only [List.append_assoc]
              refine .append_left _ (.append_left _ ?_)
              exact List.perm_append_comm
      | spawn program admitted => simpa using ih
      | environment state changed => exact ih

/-- What every operation keeps of the history and the state holds of a run. -/
theorem history_invariant {I : List S.Called → σ → Prop} {P : S.Op → Prop}
    (hoperation : ∀ history op s, P op → I history s →
      I (history ++ [⟨op, (h op s).1⟩]) (h op s).2)
    (henvironment : ∀ history s s', environment s s' → I history s → I history s')
    (hprograms : ∀ program, admits program → program.All (LockOp.Satisfies P))
    (hstart : I [] state) (hpool : Reachable h admits environment state pool) :
    I pool.history pool.state := by
  have hinvariant : ThreadInvariant fun thread : Thread S L ε α =>
      thread.rest.All (LockOp.Satisfies P) := {
    acquire := fun thread l next call hthread => by
      rw [call] at hthread
      exact hthread.2 ()
    release := fun thread l locks next call held hthread => by
      rw [call] at hthread
      exact hthread.2 ()
    operation := fun thread op next reply call hthread => by
      rw [call] at hthread
      exact hthread.2 reply }
  induction hpool with
  | refl => exact hstart
  | tail hbefore hstep ih =>
      cases hstep with
      | thread step =>
          cases step with
          | acquire before after thread l next split call free => exact ih
          | release before after thread l locks next split call held => exact ih
          | operation before after thread op next split call =>
              have hthread := hinvariant.reachable hprograms hbefore thread (by simp [split])
              rw [call] at hthread
              exact hoperation _ op _ hthread.1 ih
      | spawn program admitted => exact ih
      | environment state changed => exact henvironment _ _ _ changed ih

/-! ### Threads come to an end -/

/-- What is left of the threads. -/
def rests (pool : Pool S L ε α σ) : Multiset (Program (S.locking L) ε α) :=
  (pool.threads.map (·.rest) : List _)

theorem cutExpand_split {before after : List (Thread S L ε α)} {thread thread' : Thread S L ε α}
    (hsplit : pool.threads = before ++ thread :: after)
    (hsplit' : pool'.threads = before ++ thread' :: after)
    (hnext : Program.Next thread'.rest thread.rest) :
    Relation.CutExpand Program.Next pool'.rests pool.rests := by
  refine ⟨{thread'.rest}, thread.rest, by simpa using hnext, ?_⟩
  unfold rests
  rw [hsplit, hsplit']
  simp only [List.map_append, List.map_cons, ← Multiset.coe_add, ← Multiset.cons_coe,
    ← Multiset.singleton_add]
  ac_rfl

theorem ThreadStep.cutExpand (hstep : ThreadStep h pool pool') :
    Relation.CutExpand Program.Next pool'.rests pool.rests := by
  cases hstep with
  | acquire before after thread l next split call free =>
      exact cutExpand_split split rfl ⟨_, next, (), call, rfl⟩
  | release before after thread l locks next split call held =>
      exact cutExpand_split split rfl ⟨_, next, (), call, rfl⟩
  | operation before after thread op next split call =>
      exact cutExpand_split split rfl ⟨_, next, _, call, rfl⟩

/-- The threads of a pool take only finitely many steps. -/
theorem wellFounded_threadStep (h : Handler S σ) :
    WellFounded fun pool' pool : Pool S L ε α σ => ThreadStep h pool pool' :=
  Subrelation.wf ThreadStep.cutExpand (InvImage.wf rests Program.wellFounded_next.cutExpand)

/-! ### One program after the other -/

/-- Among threads that are done there is only one place for another one. -/
theorem split_unique {before after before' after' : List (Thread S L ε α)}
    {thread thread' : Thread S L ε α} (hdone : ∀ other ∈ before ++ after, other.rest.Done)
    (hbusy : ¬thread'.rest.Done) (h : before ++ thread :: after = before' ++ thread' :: after') :
    before' = before ∧ thread' = thread ∧ after' = after := by
  induction before generalizing before' with
  | nil =>
      cases before' with
      | nil =>
          obtain ⟨hthread, hafter⟩ := List.cons.inj h
          exact ⟨rfl, hthread.symm, hafter.symm⟩
      | cons first before' =>
          refine absurd (hdone thread' ?_) hbusy
          rw [List.nil_append, (List.cons.inj h).2]
          simp
  | cons first before ih =>
      cases before' with
      | nil => exact absurd (hdone thread' (by rw [← (List.cons.inj h).1]; simp)) hbusy
      | cons first' before' =>
          obtain ⟨hfirst, hrest⟩ := List.cons.inj h
          obtain ⟨hbefore, hthread, hafter⟩ := ih (fun other hother => hdone other (by simp_all)) hrest
          exact ⟨by rw [hfirst, hbefore], hthread, hafter⟩

/-- While the others are done, one thread goes on, and runs as it would without the locks. -/
theorem run_alone {before after : List (Thread S L ε α)} {thread : Thread S L ε α}
    (hsplit : pool.threads = before ++ thread :: after)
    (hdone : ∀ other ∈ before ++ after, other.rest.Done)
    (hsteps : Relation.ReflTransGen (ThreadStep h) pool pool') :
    ∃ thread', pool'.threads = before ++ thread' :: after ∧
      thread'.rest.unlocked.run h pool'.state = thread.rest.unlocked.run h pool.state := by
  induction hsteps with
  | refl => exact ⟨thread, hsplit, rfl⟩
  | tail _ hstep ih =>
      obtain ⟨current, hcurrent, hrun⟩ := ih
      cases hstep with
      | acquire before' after' _ l next split call free =>
          obtain ⟨rfl, rfl, rfl⟩ :=
            split_unique hdone (by rw [call]; exact id) (hcurrent.symm.trans split)
          rw [call] at hrun
          exact ⟨_, rfl, hrun⟩
      | release before' after' _ l locks next split call held =>
          obtain ⟨rfl, rfl, rfl⟩ :=
            split_unique hdone (by rw [call]; exact id) (hcurrent.symm.trans split)
          rw [call] at hrun
          exact ⟨_, rfl, hrun⟩
      | operation before' after' _ op next split call =>
          obtain ⟨rfl, rfl, rfl⟩ :=
            split_unique hdone (by rw [call]; exact id) (hcurrent.symm.trans split)
          rw [call] at hrun
          exact ⟨_, rfl, hrun⟩

/-- Programs are started one after the other, each when all threads are done. The environment does
nothing meanwhile. -/
inductive InTurn (h : Handler S σ) : Pool S L ε α σ → List (Program (S.locking L) ε α) →
    Pool S L ε α σ → Prop where
  | nil (start : Pool S L ε α σ) : InTurn h start [] start
  | cons {start middle final : Pool S L ε α σ} {program programs}
      (steps : Relation.ReflTransGen (ThreadStep h)
        { start with threads := start.threads ++ [{ program }] } middle)
      (done : ∀ thread ∈ middle.threads, thread.rest.Done)
      (rest : InTurn h middle programs final) : InTurn h start (program :: programs) final

/-- Programs that are started one after the other run one after the other. -/
theorem InTurn.run {programs : List (Program (S.locking L) ε α)} (hturn : InTurn h pool programs pool')
    (hdone : ∀ thread ∈ pool.threads, thread.rest.Done) :
    ∃ threads, pool'.threads = pool.threads ++ threads ∧
      threads.map (·.rest) =
        (Program.runAll h (programs.map (·.unlocked)) pool.state).1.map .ofExcept ∧
      pool'.state = (Program.runAll h (programs.map (·.unlocked)) pool.state).2 := by
  induction hturn with
  | nil start => exact ⟨[], (List.append_nil _).symm, rfl, rfl⟩
  | @cons start middle final program programs steps done rest ih =>
      have hsplit : ({ start with threads := start.threads ++ [{ program }] } :
          Pool S L ε α σ).threads =
            start.threads ++ ({ program } : Thread S L ε α) :: [] := rfl
      obtain ⟨thread, hthreads, hrun⟩ := run_alone hsplit (by simpa using hdone) steps
      obtain ⟨outcome, houtcome⟩ := Program.done_iff.mp (done thread (by simp [hthreads]))
      rw [houtcome, Program.unlocked_ofExcept, Program.run_ofExcept] at hrun
      obtain ⟨threads, hrest, hmap, hstate⟩ := ih done
      have hall : Program.runAll h ((program :: programs).map (·.unlocked)) start.state =
          (outcome :: (Program.runAll h (programs.map (·.unlocked)) middle.state).1,
            (Program.runAll h (programs.map (·.unlocked)) middle.state).2) := by
        change Program.runAll h (program.unlocked :: programs.map (·.unlocked)) start.state = _
        rw [Program.runAll_cons, ← hrun]
      rw [hall]
      refine ⟨thread :: threads, ?_, ?_, hstate⟩
      · rw [hrest, hthreads]
        simp
      · rw [List.map_cons, houtcome, hmap]
        rfl

theorem InTurn.reachable {programs : List (Program (S.locking L) ε α)}
    (hturn : InTurn h pool programs pool') (hpool : Reachable h admits environment state pool)
    (hadmits : ∀ program ∈ programs, admits program) :
    Reachable h admits environment state pool' := by
  induction hturn with
  | nil start => exact hpool
  | cons steps done rest ih =>
      obtain ⟨hadmitted, hrest⟩ := List.forall_mem_cons.mp hadmits
      exact ih ((hpool.tail (.spawn _ _ hadmitted)).trans (steps.lift id fun _ _ => .thread)) hrest

theorem programs_of_steps (hsteps : Relation.ReflTransGen (ThreadStep h) pool pool') :
    pool'.threads.map (·.program) = pool.threads.map (·.program) := by
  induction hsteps with
  | refl => rfl
  | tail _ hstep ih => rw [hstep.programs, ih]

theorem InTurn.programs {programs : List (Program (S.locking L) ε α)}
    (hturn : InTurn h pool programs pool') :
    pool'.threads.map (·.program) = pool.threads.map (·.program) ++ programs := by
  induction hturn with
  | nil start => exact (List.append_nil _).symm
  | @cons start middle final program programs steps done rest ih =>
      rw [ih, programs_of_steps steps]
      simp

end Runs

end Pool

end AgentMemory.Foundation
