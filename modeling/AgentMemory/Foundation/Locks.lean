import AgentMemory.Foundation.Outline
import AgentMemory.Foundation.Pool
import Mathlib.Data.Set.Finite.Lemmas

/-! # Locks taken in order

Programs that take locks in the order of their ranks and give all of them back never wait for each
other in a circle. An assertion about what a lock protects need only be stable under what the
others may do without that lock. -/

namespace AgentMemory.Foundation

variable {S T : Signature} {L ε α β σ : Type}

/-! ## Discipline -/

namespace Program

/-- A lock is taken above all that are held, the last one taken is given back first, and at the end
those in `final` are held. Every operation is called under the locks that it needs. -/
def Disciplined [LinearOrder L] (needs : S.Op → List L → Prop) (final : List L) :
    Program (S.locking L) ε α → List L → Prop
  | .pure _, locks => locks = final
  | .throw _, locks => locks = final
  | .call (.acquire l) next, locks =>
      (∀ held ∈ locks, held < l) ∧ (next ()).Disciplined needs final (l :: locks)
  | .call (.release l) next, locks =>
      ∃ rest, locks = l :: rest ∧ (next ()).Disciplined needs final rest
  | .call (.operation op) next, locks =>
      needs op locks ∧ ∀ reply, (next reply).Disciplined needs final locks

section Disciplined

variable [LinearOrder L] {needs : S.Op → List L → Prop} {final middle locks : List L}

theorem Disciplined.all {P : S.Op → Prop} (hneeds : ∀ op locks, needs op locks → P op)
    {p : Program (S.locking L) ε α} (hp : p.Disciplined needs final locks) :
    p.All (LockOp.Satisfies P) := by
  induction p generalizing locks with
  | pure a => trivial
  | throw e => trivial
  | call op next ih =>
      cases op with
      | acquire l => exact ⟨trivial, fun _ => ih () hp.2⟩
      | release l =>
          obtain ⟨rest, -, hnext⟩ := hp
          exact ⟨trivial, fun _ => ih () hnext⟩
      | operation op => exact ⟨hneeds op locks hp.1, fun reply => ih reply (hp.2 reply)⟩

theorem Disciplined.weaken {needs' : S.Op → List L → Prop}
    (hneeds : ∀ op locks, needs op locks → needs' op locks) {p : Program (S.locking L) ε α}
    (hp : p.Disciplined needs final locks) : p.Disciplined needs' final locks := by
  induction p generalizing locks with
  | pure a => exact hp
  | throw e => exact hp
  | call op next ih =>
      cases op with
      | acquire l => exact ⟨hp.1, ih () hp.2⟩
      | release l =>
          obtain ⟨rest, hlocks, hnext⟩ := hp
          exact ⟨rest, hlocks, ih () hnext⟩
      | operation op => exact ⟨hneeds op locks hp.1, fun reply => ih reply (hp.2 reply)⟩

theorem Disciplined.tryBind {p : Program (S.locking L) ε α}
    {f : Except ε α → Program (S.locking L) ε β} (hp : p.Disciplined needs middle locks)
    (hf : ∀ r, (f r).Disciplined needs final middle) :
    (p.tryBind f).Disciplined needs final locks := by
  induction p generalizing locks with
  | pure a =>
      rw [show locks = middle from hp]
      exact hf _
  | throw e =>
      rw [show locks = middle from hp]
      exact hf _
  | call op next ih =>
      cases op with
      | acquire l => exact ⟨hp.1, ih () hp.2⟩
      | release l =>
          obtain ⟨rest, hlocks, hnext⟩ := hp
          exact ⟨rest, hlocks, ih () hnext⟩
      | operation op => exact ⟨hp.1, fun reply => ih reply (hp.2 reply)⟩

theorem Disciplined.bind {p : Program (S.locking L) ε α} {f : α → Program (S.locking L) ε β}
    (hp : p.Disciplined needs locks locks) (hf : ∀ a, (f a).Disciplined needs locks locks) :
    (p >>= f).Disciplined needs locks locks := by
  refine Disciplined.tryBind hp ?_
  rintro (e | a)
  · rfl
  · exact hf a

theorem disciplined_ofExcept (outcome : Except ε α) :
    (ofExcept outcome : Program (S.locking L) ε α).Disciplined needs locks locks := by
  cases outcome <;> rfl

theorem disciplined_operate {op : S.Op} (h : needs op locks) :
    (operate op : Program (S.locking L) ε _).Disciplined needs locks locks :=
  ⟨h, fun _ => rfl⟩

theorem disciplined_locked {l : L} {p : Program (S.locking L) ε α} (hl : ∀ held ∈ locks, held < l)
    (hp : p.Disciplined needs (l :: locks) (l :: locks)) :
    (locked l p).Disciplined needs locks locks :=
  ⟨hl, hp.tryBind fun outcome => ⟨locks, rfl, disciplined_ofExcept outcome⟩⟩

/-- Bodies that keep the locks they find make up a program that does. -/
theorem Disciplined.interpret {body : (op : T.Op) → Program (S.locking L) ε (T.Reply op)}
    (hbody : ∀ op, (body op).Disciplined needs locks locks) (p : Program (T.fallible ε) ε α) :
    (p.interpret body).Disciplined needs locks locks := by
  induction p with
  | pure a => rfl
  | throw e => rfl
  | call op next ih => exact (hbody op).tryBind ih

theorem Disciplined.translate {δ : Type} {thrown : δ → ε}
    {body : (op : T.Op) → Program (S.locking L) ε (T.Reply op)}
    (hbody : ∀ op, (body op).Disciplined needs locks locks) (p : Program T δ α) :
    (p.translate thrown body).Disciplined needs locks locks := by
  induction p with
  | pure a => rfl
  | throw e => rfl
  | call op next ih => exact (hbody op).bind ih

end Disciplined

end Program

/-! ## What the discipline keeps in a pool -/

/-- A thread's locks are in the order of their ranks and what is left of it gives them back. -/
def Thread.Orderly [LinearOrder L] (needs : S.Op → List L → Prop) (thread : Thread S L ε α) : Prop :=
  thread.locks.Pairwise (fun l held => held < l) ∧ thread.rest.Disciplined needs [] thread.locks

/-- A thread that holds a lock is not done. -/
theorem Thread.Orderly.not_done [LinearOrder L] {needs : S.Op → List L → Prop}
    {thread : Thread S L ε α}
    (hthread : thread.Orderly needs) {l : L} (hl : l ∈ thread.locks) : ¬thread.rest.Done := by
  intro hdone
  have hrest := hthread.2
  cases h : thread.rest with
  | pure a =>
      rw [h] at hrest
      rw [show thread.locks = [] from hrest] at hl
      cases hl
  | throw e =>
      rw [h] at hrest
      rw [show thread.locks = [] from hrest] at hl
      cases hl
  | call op next =>
      rw [h] at hdone
      exact hdone

namespace Pool

section Runs

variable [LinearOrder L] {h : Handler S σ} {admits : Program (S.locking L) ε α → Prop}
  {environment : σ → σ → Prop} {state : σ} {pool : Pool S L ε α σ}
  {needs : S.Op → List L → Prop}

theorem orderly_of_reachable
    (hprograms : ∀ program, admits program → program.Disciplined needs [] [])
    (hpool : Reachable h admits environment state pool) :
    ∀ thread ∈ pool.threads, Thread.Orderly needs thread := by
  have hinvariant : ThreadInvariant (Thread.Orderly (ε := ε) (α := α) needs) := {
    acquire := by
      rintro thread l next call ⟨hsorted, hrest⟩
      rw [call] at hrest
      exact ⟨List.pairwise_cons.mpr ⟨hrest.1, hsorted⟩, hrest.2⟩
    release := by
      rintro thread l locks next call held ⟨hsorted, hrest⟩
      rw [call] at hrest
      obtain ⟨rest, hlocks, hnext⟩ := hrest
      rw [held] at hlocks hsorted
      cases hlocks
      exact ⟨hsorted.of_cons, hnext⟩
    operation := by
      rintro thread op next reply call ⟨hsorted, hrest⟩
      rw [call] at hrest
      exact ⟨hsorted, hrest.2 reply⟩ }
  exact hinvariant.reachable (fun program admitted => ⟨.nil, hprograms program admitted⟩) hpool

/-! ### Nobody waits for ever -/

/-- A thread that cannot go on waits for a lock that is held. -/
theorem waits_of_stuck
    (hprograms : ∀ program, admits program → program.Disciplined needs [] [])
    (hpool : Reachable h admits environment state pool)
    (hstuck : ¬∃ pool', ThreadStep h pool pool') {thread : Thread S L ε α}
    (hthread : thread ∈ pool.threads) (hbusy : ¬thread.rest.Done) :
    ∃ l next, thread.rest = .call (.acquire l) next ∧ ¬pool.Free l := by
  obtain ⟨before, after, hsplit⟩ := List.append_of_mem hthread
  have horderly := (orderly_of_reachable hprograms hpool thread hthread).2
  cases hrest : thread.rest with
  | pure a => exact (hbusy (by rw [hrest]; trivial)).elim
  | throw e => exact (hbusy (by rw [hrest]; trivial)).elim
  | call op next =>
      cases op with
      | acquire l =>
          refine ⟨l, next, rfl, fun hfree => ?_⟩
          exact hstuck ⟨_, .acquire pool before after thread l next hsplit hrest hfree⟩
      | release l =>
          rw [hrest] at horderly
          obtain ⟨rest, hlocks, -⟩ := horderly
          exact (hstuck ⟨_, .release pool before after thread l rest next hsplit hrest hlocks⟩).elim
      | operation op =>
          exact (hstuck ⟨_, .operation pool before after thread op next hsplit hrest⟩).elim

/-- As long as a thread is not done, some thread can go on. -/
theorem exists_threadStep
    (hprograms : ∀ program, admits program → program.Disciplined needs [] [])
    (hpool : Reachable h admits environment state pool)
    (hbusy : ∃ thread ∈ pool.threads, ¬thread.rest.Done) : ∃ pool', ThreadStep h pool pool' := by
  by_contra hstuck
  have hheld {l : L} (hl : ¬pool.Free l) : l ∈ pool.threads.flatMap (·.locks) := by
    simpa [Free] using hl
  obtain ⟨thread, hthread, hrest⟩ := hbusy
  obtain ⟨l, next, -, hl⟩ := waits_of_stuck hprograms hpool hstuck hthread hrest
  -- the holder of the greatest lock that is held waits for a greater one
  obtain ⟨top, htop, hmax⟩ := Set.exists_max_image {l | l ∈ pool.threads.flatMap Thread.locks} id
    (List.finite_toSet _) ⟨l, hheld hl⟩
  obtain ⟨holder, hholder, hmem⟩ := List.mem_flatMap.mp htop
  have horderly := orderly_of_reachable hprograms hpool holder hholder
  obtain ⟨l', next', hwaits, hl'⟩ :=
    waits_of_stuck hprograms hpool hstuck hholder (horderly.not_done hmem)
  have hrank := horderly.2
  rw [hwaits] at hrank
  exact absurd (hrank.1 top hmem) (not_lt_of_ge (hmax l' (hheld hl')))

/-- The threads can come to their ends. -/
theorem exists_done
    (hprograms : ∀ program, admits program → program.Disciplined needs [] [])
    (hpool : Reachable h admits environment state pool) :
    ∃ pool', Relation.ReflTransGen (ThreadStep h) pool pool' ∧
      ∀ thread ∈ pool'.threads, thread.rest.Done := by
  induction pool using (wellFounded_threadStep h).induction with
  | _ pool ih =>
      by_cases hbusy : ∃ thread ∈ pool.threads, ¬thread.rest.Done
      · obtain ⟨next, hstep⟩ := exists_threadStep hprograms hpool hbusy
        obtain ⟨pool', hsteps, hdone⟩ := ih next hstep (hpool.tail (.thread hstep))
        exact ⟨pool', hsteps.head hstep, hdone⟩
      · push Not at hbusy
        exact ⟨pool, .refl, hbusy⟩

/-- Programs can be started one after the other. -/
theorem exists_inTurn
    (hprograms : ∀ program, admits program → program.Disciplined needs [] [])
    (hpool : Reachable h admits environment state pool) {programs : List (Program (S.locking L) ε α)}
    (hadmits : ∀ program ∈ programs, admits program) : ∃ pool', InTurn h pool programs pool' := by
  induction programs generalizing pool with
  | nil => exact ⟨pool, .nil pool⟩
  | cons program programs ih =>
      obtain ⟨hadmitted, hrest⟩ := List.forall_mem_cons.mp hadmits
      have hspawned := hpool.tail (.spawn pool program hadmitted)
      obtain ⟨middle, hsteps, hdone⟩ := exists_done hprograms hspawned
      obtain ⟨final, hturn⟩ := ih (hspawned.trans (hsteps.lift id fun _ _ => .thread)) hrest
      exact ⟨final, .cons hsteps hdone hturn⟩

end Runs

end Pool

/-! ## Outlines of threads -/

/-- What has been called by all threads, and the state. -/
abbrev Shared (S : Signature) (σ : Type) : Type := List S.Called × σ

/-- What a thread's assertions are about: what all share, and the locks that it holds itself. -/
structure View (S : Signature) (L σ : Type) where
  shared : Shared S σ
  locks : List L

def Shared.after (h : Handler S σ) (op : S.Op) (shared : Shared S σ) : Shared S σ :=
  (shared.1 ++ [⟨op, (h op shared.2).1⟩], (h op shared.2).2)

def viewing (h : Handler S σ) : Handler (S.locking L) (View S L σ)
  | .acquire l, v => ((), { v with locks := l :: v.locks })
  | .release _, v => ((), { v with locks := v.locks.tail })
  | .operation op, v => ((h op v.shared.2).1, { v with shared := v.shared.after h op })

/-- What the others may do to what a thread sees: under the locks that it holds they keep to `rely`,
and they keep the invariant. -/
def Interference (rely : List L → Shared S σ → Shared S σ → Prop) (I : Shared S σ → Prop)
    (v v' : View S L σ) : Prop :=
  v'.locks = v.locks ∧ rely v.locks v.shared v'.shared ∧ (I v.shared → I v'.shared)

section Outlines

variable {h : Handler S σ} {needs : S.Op → List L → Prop}
  {rely : List L → Shared S σ → Shared S σ → Prop} {I : Shared S σ → Prop} {P : S.Op → Prop}

/-- An outline of a program of a pool with the invariant `I`. -/
abbrev Guarded (h : Handler S σ) (rely : List L → Shared S σ → Shared S σ → Prop)
    (I : Shared S σ → Prop) (post : Except ε α → View S L σ → Prop)
    (p : Program (S.locking L) ε α) (P : View S L σ → Prop) : Prop :=
  Outline (viewing h) (Interference rely I) (fun _ _ => True) (fun v => I v.shared) post p P

theorem stable_invariant (locks : List L) :
    Stable (Interference rely I) fun v => I v.shared ∧ v.locks = locks :=
  fun _ _ hstep hv => ⟨hstep.2.2 hv.1, hstep.1.trans hv.2⟩

/-- A program of operations each of which keeps the invariant. -/
theorem guarded_of_all [LinearOrder L] (hkeeps : ∀ op shared, P op → I shared → I (shared.after h op))
    {final locks : List L} {p : Program (S.locking L) ε α}
    (hp : p.Disciplined needs final locks) (hall : p.All (LockOp.Satisfies P)) :
    Guarded h rely I (fun _ v => I v.shared ∧ v.locks = final) p
      fun v => I v.shared ∧ v.locks = locks := by
  induction p generalizing locks with
  | pure a =>
      rw [show locks = final from hp]
      exact .pure (stable_invariant final) (fun _ hv => hv.1) fun _ hv => hv
  | throw e =>
      rw [show locks = final from hp]
      exact .throw (stable_invariant final) (fun _ hv => hv.1) fun _ hv => hv
  | call op next ih =>
      cases op with
      | acquire l =>
          refine .call (fun _ v => I v.shared ∧ v.locks = l :: locks) (stable_invariant locks)
            (fun _ hv => hv.1) ?_ fun _ => ih () hp.2 (hall.2 ())
          intro v hv _
          exact ⟨hv.1, congrArg (List.cons l) hv.2⟩
      | release l =>
          obtain ⟨rest, rfl, hnext⟩ := hp
          refine .call (fun _ v => I v.shared ∧ v.locks = rest) (stable_invariant _)
            (fun _ hv => hv.1) ?_ fun _ => ih () hnext (hall.2 ())
          intro v hv _
          exact ⟨hv.1, congrArg List.tail hv.2⟩
      | operation op =>
          refine .call (fun _ v => I v.shared ∧ v.locks = locks) (stable_invariant locks)
            (fun _ hv => hv.1) ?_ fun reply => ih reply (hp.2 reply) (hall.2 reply)
          intro v hv _
          exact ⟨hkeeps op v.shared hall.1 hv.1, hv.2⟩

/-- An assertion about what is shared, at a place where these locks are held. -/
def holding (F : Shared S σ → Prop) (locks : List L) (v : View S L σ) : Prop :=
  F v.shared ∧ v.locks = locks

/-- An assertion that implies the invariant and that the others keep while these locks are held. -/
structure Kept (rely : List L → Shared S σ → Shared S σ → Prop) (I : Shared S σ → Prop)
    (locks : List L) (F : Shared S σ → Prop) : Prop where
  invariant : ∀ shared, F shared → I shared
  stable : ∀ shared shared', rely locks shared shared' → I shared' → F shared → F shared'

section Kept

variable {locks : List L} {F F' : Shared S σ → Prop} {G : α → Shared S σ → Prop}

theorem kept_invariant (locks : List L) : Kept rely I locks I :=
  ⟨fun _ h => h, fun _ _ _ h _ => h⟩

theorem Kept.stable_holding (hF : Kept rely I locks F) :
    Stable (Interference rely I) (holding F locks) := by
  intro v v' hstep hv
  have hrely : rely locks v.shared v'.shared := by
    rw [← hv.2]
    exact hstep.2.1
  exact ⟨hF.stable _ _ hrely (hstep.2.2 (hF.invariant _ hv.1)) hv.1, hstep.1.trans hv.2⟩

/-- A lock that is taken in addition only makes fewer interferences possible. -/
theorem Kept.cons {l : L}
    (hmono : ∀ shared shared', rely (l :: locks) shared shared' → rely locks shared shared')
    (hF : Kept rely I locks F) : Kept rely I (l :: locks) F :=
  ⟨hF.invariant, fun _ _ hrely => hF.stable _ _ (hmono _ _ hrely)⟩

/-- What holds of what is shared when a program has returned or thrown. -/
def returned (G : α → Shared S σ → Prop) (I : Shared S σ → Prop) : Except ε α → Shared S σ → Prop
  | .ok a => G a
  | .error _ => I

theorem Kept.returned {G : α → Shared S σ → Prop} (hG : ∀ a, Kept rely I locks (G a)) :
    ∀ r : Except ε α, Kept rely I locks (returned G I r)
  | .ok a => hG a
  | .error _ => kept_invariant locks

/-- An outline of a part of a program, at a place where these locks are held. -/
abbrev Outlined (h : Handler S σ) (rely : List L → Shared S σ → Shared S σ → Prop)
    (I : Shared S σ → Prop) (locks : List L) (F : Shared S σ → Prop)
    (p : Program (S.locking L) ε α) (G : α → Shared S σ → Prop) : Prop :=
  Guarded h rely I (fun r => holding (returned G I r) locks) p (holding F locks)

theorem outlined_pure (hF : Kept rely I locks F) {a : α} (hG : ∀ shared, F shared → G a shared) :
    Outlined h rely I locks F (pure a : Program (S.locking L) ε α) G :=
  .pure hF.stable_holding (fun _ hv => hF.invariant _ hv.1) fun _ hv => ⟨hG _ hv.1, hv.2⟩

theorem outlined_ofExcept (hF : Kept rely I locks F) {outcome : Except ε α}
    (hG : ∀ a, outcome = .ok a → ∀ shared, F shared → G a shared) :
    Outlined h rely I locks F (.ofExcept outcome : Program (S.locking L) ε α) G := by
  cases outcome with
  | ok a => exact outlined_pure hF (hG a rfl)
  | error e =>
      exact .throw hF.stable_holding (fun _ hv => hF.invariant _ hv.1)
        fun _ hv => ⟨hF.invariant _ hv.1, hv.2⟩

theorem outlined_bind {p : Program (S.locking L) ε α} {f : α → Program (S.locking L) ε β}
    {G' : β → Shared S σ → Prop} (hp : Outlined h rely I locks F p G)
    (hf : ∀ a, Outlined h rely I locks (G a) (f a) G') :
    Outlined h rely I locks F (p >>= f) G' :=
  Outline.bind hp (fun _ _ hv => hv) hf

theorem outlined_operate {op : S.Op} {G : S.Reply op → Shared S σ → Prop}
    (hF : Kept rely I locks F) (hG : ∀ reply, Kept rely I locks (G reply))
    (hstep : ∀ shared, F shared → G (h op shared.2).1 (shared.after h op)) :
    Outlined h rely I locks F (.operate op : Program (S.locking L) ε _) G := by
  refine .call (fun reply => holding (G reply) locks) hF.stable_holding
    (fun _ hv => hF.invariant _ hv.1) ?_ fun reply => outlined_pure (hG reply) fun _ hG => hG
  intro v hv _
  exact ⟨hstep _ hv.1, hv.2⟩

theorem outlined_locked {l : L} {p : Program (S.locking L) ε α}
    (hmono : ∀ shared shared', rely (l :: locks) shared shared' → rely locks shared shared')
    (hF : Kept rely I locks F) (hG : ∀ a, Kept rely I locks (G a))
    (hp : Outlined h rely I (l :: locks) F p G) : Outlined h rely I locks F (.locked l p) G := by
  refine .call (fun _ => holding F (l :: locks)) hF.stable_holding
    (fun _ hv => hF.invariant _ hv.1) ?_ fun _ => hp.tryBind fun r => ?_
  · intro v hv _
    exact ⟨hv.1, congrArg (List.cons l) hv.2⟩
  · have hkept : Kept rely I (l :: locks) (returned G I r) := (Kept.returned hG r).cons hmono
    refine .call (fun _ => holding (returned G I r) locks) hkept.stable_holding
      (fun _ hv => hkept.invariant _ hv.1) ?_ fun _ => ?_
    · intro v hv _
      exact ⟨hv.1, congrArg List.tail hv.2⟩
    · cases r with
      | ok a => exact outlined_pure (hG a) fun _ hG => hG
      | error e =>
          exact .throw (kept_invariant locks).stable_holding (fun _ hv => hv.1) fun _ hv => hv

end Kept

end Outlines

section Safe

variable {h : Handler S σ} {rely : List L → Shared S σ → Shared S σ → Prop} {I : Shared S σ → Prop}
  {shared : Shared S σ} {thread : Thread S L ε α}

/-- A thread is at an assertion of an outline that holds of what it sees. -/
def Thread.Safe (h : Handler S σ) (rely : List L → Shared S σ → Shared S σ → Prop)
    (I : Shared S σ → Prop) (shared : Shared S σ) (thread : Thread S L ε α) : Prop :=
  ∃ P, Guarded h rely I (fun _ _ => True) thread.rest P ∧ P { shared, locks := thread.locks }

/-- The others may do what is relied on. -/
theorem Thread.Safe.interfere (hsafe : Thread.Safe h rely I shared thread) {shared' : Shared S σ}
    (hrely : rely thread.locks shared shared') (hI : I shared → I shared') :
    Thread.Safe h rely I shared' thread := by
  obtain ⟨P, houtline, hP⟩ := hsafe
  have hstep : Interference rely I { shared, locks := thread.locks }
      { shared := shared', locks := thread.locks } := ⟨rfl, hrely, hI⟩
  exact ⟨P, houtline, houtline.stable _ _ hstep hP⟩

/-- A thread goes on. -/
theorem Thread.Safe.call (hsafe : Thread.Safe h rely I shared thread) {op : LockOp L S}
    {next : (S.locking L).Reply op → Program (S.locking L) ε α} (hcall : thread.rest = .call op next)
    {thread' : Thread S L ε α} {shared' : Shared S σ}
    (hview : (viewing h op { shared, locks := thread.locks }).2 =
      { shared := shared', locks := thread'.locks })
    (hrest : thread'.rest = next (viewing h op { shared, locks := thread.locks }).1) :
    Thread.Safe h rely I shared' thread' ∧ I shared' := by
  obtain ⟨P, houtline, hP⟩ := hsafe
  rw [hcall] at houtline
  obtain ⟨Q, hnext, hQ⟩ := houtline.advance hP trivial
  have hQ' : Q { shared := shared', locks := thread'.locks } := by
    rw [← hview]
    exact hQ
  refine ⟨⟨Q, ?_, hQ'⟩, hnext.invariant _ hQ'⟩
  rw [hrest]
  exact hnext

end Safe

namespace Pool

variable {h : Handler S σ} {admits : Program (S.locking L) ε α → Prop}
  {environment : σ → σ → Prop} {state : σ} {pool : Pool S L ε α σ}
  {needs : S.Op → List L → Prop} {rely : List L → Shared S σ → Shared S σ → Prop}
  {I : Shared S σ → Prop}

variable (needs rely) in
/-- What the outlines of all programs have as their invariant holds of every run, if no operation
does more than the holders of other locks rely on. -/
theorem invariant_of_guarded [LinearOrder L]
    (hprograms : ∀ program, admits program → program.Disciplined needs [] [])
    (houtlines : ∀ program, admits program → Guarded h rely I (fun _ _ => True) program
      fun v => I v.shared ∧ v.locks = [])
    (hrely : ∀ mine others op shared, needs op mine → (∀ l ∈ mine, l ∉ others) →
      rely others shared (shared.after h op))
    (henvironment : ∀ locks history s s', environment s s' →
      rely locks (history, s) (history, s') ∧ (I (history, s) → I (history, s')))
    (hstart : I ([], state)) (hpool : Reachable h admits environment state pool) :
    I (pool.history, pool.state) := by
  suffices hall : I (pool.history, pool.state) ∧ ∀ thread ∈ pool.threads,
      Thread.Safe h rely I (pool.history, pool.state) thread from hall.1
  induction hpool with
  | refl => exact ⟨hstart, by simp⟩
  | @tail pool _ hbefore hstep ih =>
      obtain ⟨hI, hsafe⟩ := ih
      cases hstep with
      | thread step =>
          cases step with
          | acquire before after thread l next split call free =>
              rw [split] at hsafe
              simp only [List.forall_mem_append, List.forall_mem_cons] at hsafe ⊢
              exact ⟨hI, hsafe.1, (hsafe.2.1.call call rfl rfl).1, hsafe.2.2⟩
          | release before after thread l locks next split call held =>
              rw [split] at hsafe
              simp only [List.forall_mem_append, List.forall_mem_cons] at hsafe ⊢
              refine ⟨hI, hsafe.1, (hsafe.2.1.call call ?_ rfl).1, hsafe.2.2⟩
              simp [viewing, held]
          | operation before after thread op next split call =>
              have hneeds := (orderly_of_reachable hprograms hbefore thread (by simp [split])).2
              rw [call] at hneeds
              have hdisjoint : ∀ other ∈ before ++ after, ∀ l ∈ thread.locks, l ∉ other.locks :=
                fun other hother => not_mem_locks_of_split hbefore split hother
              rw [split] at hsafe
              simp only [List.forall_mem_append, List.forall_mem_cons] at hsafe hdisjoint ⊢
              let shared : Shared S σ := (pool.history, pool.state)
              obtain ⟨hafter, hI'⟩ : Thread.Safe h rely I (shared.after h op) { thread with
                  log := thread.log ++ [⟨op, (h op pool.state).1⟩]
                  rest := next (h op pool.state).1 } ∧ I (shared.after h op) :=
                hsafe.2.1.call call rfl rfl
              have hothers (other : Thread S L ε α) (hlocks : ∀ l ∈ thread.locks, l ∉ other.locks)
                  (hother : Thread.Safe h rely I shared other) :
                  Thread.Safe h rely I (shared.after h op) other :=
                hother.interfere (hrely _ _ op _ hneeds.1 hlocks) fun _ => hI'
              exact ⟨hI',
                fun other hother => hothers other (hdisjoint.1 other hother) (hsafe.1 other hother),
                hafter,
                fun other hother => hothers other (hdisjoint.2 other hother) (hsafe.2.2 other hother)⟩
      | spawn program admitted =>
          simp only [List.forall_mem_append, List.forall_mem_singleton]
          exact ⟨hI, hsafe, _, houtlines program admitted, hI, rfl⟩
      | environment state changed =>
          refine ⟨(henvironment [] _ _ _ changed).2 hI, fun thread hthread => ?_⟩
          obtain ⟨hkept, hI'⟩ := henvironment thread.locks _ _ _ changed
          exact (hsafe thread hthread).interfere hkept hI'

end Pool

end AgentMemory.Foundation
