import AgentMemory.Foundation.Program

/-! # Proof outlines under interference

A program is run one operation at a time, and an environment may change the state in between. A
proof outline gives an assertion before each operation that the environment keeps, so that some
assertion of the outline holds whenever the program is looked at. -/

namespace AgentMemory.Foundation

variable {S : Signature} {ε α β σ : Type}

/-- No step of the environment makes the assertion false. -/
def Stable (environment : σ → σ → Prop) (P : σ → Prop) : Prop :=
  ∀ s s', environment s s' → P s → P s'

theorem stable_true {environment : σ → σ → Prop} : Stable environment fun _ => True :=
  fun _ _ _ _ => trivial

theorem Stable.and {environment : σ → σ → Prop} {P Q : σ → Prop} (hP : Stable environment P)
    (hQ : Stable environment Q) : Stable environment fun s => P s ∧ Q s :=
  fun s s' hstep h => ⟨hP s s' hstep h.1, hQ s s' hstep h.2⟩

/-- `P` is the first assertion of an outline of the program, in which all assertions imply `I` and
the last one `post`. Only operations that are admitted in the state they are called in count. -/
inductive Outline (handler : Handler S σ) (environment : σ → σ → Prop)
    (admitted : S.Op → σ → Prop) (I : σ → Prop) (post : Except ε α → σ → Prop) :
    Program S ε α → (σ → Prop) → Prop where
  | pure {a : α} {P : σ → Prop} (stable : Stable environment P) (invariant : ∀ s, P s → I s)
      (done : ∀ s, P s → post (.ok a) s) : Outline handler environment admitted I post (.pure a) P
  | throw {e : ε} {P : σ → Prop} (stable : Stable environment P) (invariant : ∀ s, P s → I s)
      (done : ∀ s, P s → post (.error e) s) :
      Outline handler environment admitted I post (.throw e) P
  | call {op : S.Op} {next : S.Reply op → Program S ε α} {P : σ → Prop}
      (Q : S.Reply op → σ → Prop) (stable : Stable environment P) (invariant : ∀ s, P s → I s)
      (step : ∀ s, P s → admitted op s → Q (handler op s).1 (handler op s).2)
      (continued : ∀ r, Outline handler environment admitted I post (next r) (Q r)) :
      Outline handler environment admitted I post (.call op next) P

namespace Outline

variable {handler : Handler S σ} {environment : σ → σ → Prop} {admitted : S.Op → σ → Prop}
  {I : σ → Prop} {post : Except ε α → σ → Prop} {p : Program S ε α} {P : σ → Prop}

theorem stable (h : Outline handler environment admitted I post p P) : Stable environment P := by
  cases h with
  | pure stable => exact stable
  | throw stable => exact stable
  | call Q stable => exact stable

theorem invariant (h : Outline handler environment admitted I post p P) : ∀ s, P s → I s := by
  cases h with
  | pure stable invariant => exact invariant
  | throw stable invariant => exact invariant
  | call Q stable invariant => exact invariant

/-- A stronger first assertion, if it is stable. -/
theorem strengthen {P' : σ → Prop} (h : Outline handler environment admitted I post p P)
    (hstable : Stable environment P') (himp : ∀ s, P' s → P s) :
    Outline handler environment admitted I post p P' := by
  have hinvariant : ∀ s, P' s → I s := fun s hs => h.invariant s (himp s hs)
  cases h with
  | pure stable invariant done =>
      exact .pure hstable hinvariant fun s hs => done s (himp s hs)
  | throw stable invariant done =>
      exact .throw hstable hinvariant fun s hs => done s (himp s hs)
  | call Q stable invariant step continued =>
      exact .call Q hstable hinvariant (fun s hs => step s (himp s hs)) continued

/-- A weaker last assertion. -/
theorem weaken {post' : Except ε α → σ → Prop} (h : Outline handler environment admitted I post p P)
    (hpost : ∀ r s, post r s → post' r s) : Outline handler environment admitted I post' p P := by
  induction h with
  | pure stable invariant done => exact .pure stable invariant fun s hs => hpost _ s (done s hs)
  | throw stable invariant done => exact .throw stable invariant fun s hs => hpost _ s (done s hs)
  | call Q stable invariant step continued ih => exact .call Q stable invariant step ih

/-- An outline of a sequence: what the first program establishes is where the second starts. -/
theorem bind {f : α → Program S ε β} {post' : Except ε β → σ → Prop}
    (h : Outline handler environment admitted I post p P)
    (hthrow : ∀ e s, post (.error e) s → post' (.error e) s)
    (hf : ∀ a, Outline handler environment admitted I post' (f a) (post (.ok a))) :
    Outline handler environment admitted I post' (p >>= f) P := by
  induction h with
  | pure stable invariant done => exact (hf _).strengthen stable done
  | throw stable invariant done =>
      exact .throw stable invariant fun s hs => hthrow _ s (done s hs)
  | call Q stable invariant step continued ih => exact .call Q stable invariant step ih

/-- An outline of a sequence in which the second program also sees an exception. -/
theorem tryBind {f : Except ε α → Program S ε β} {post' : Except ε β → σ → Prop}
    (h : Outline handler environment admitted I post p P)
    (hf : ∀ r, Outline handler environment admitted I post' (f r) (post r)) :
    Outline handler environment admitted I post' (p.tryBind f) P := by
  induction h with
  | pure stable invariant done => exact (hf _).strengthen stable done
  | throw stable invariant done => exact (hf _).strengthen stable done
  | call Q stable invariant step continued ih => exact .call Q stable invariant step ih

/-- Bodies that keep an assertion make up a program that does. -/
theorem interpret {T : Signature} {Q : T.Op → Prop}
    {body : (op : T.Op) → Program S ε (T.Reply op)} {p : Program (T.fallible ε) ε α}
    (hstable : Stable environment P) (hinvariant : ∀ s, P s → I s)
    (hbody : ∀ op, Q op → Outline handler environment admitted I (fun _ => P) (body op) P)
    (hp : p.All (S := T.fallible ε) Q) :
    Outline handler environment admitted I (fun _ => P) (p.interpret body) P := by
  induction p with
  | pure a => exact .pure hstable hinvariant fun _ hs => hs
  | throw e => exact .throw hstable hinvariant fun _ hs => hs
  | call op next ih => exact (hbody op hp.1).tryBind fun r => ih r (hp.2 r)

end Outline

/-! ## One step of a program -/

/-- The program after its next operation, and the state this leaves. -/
def Program.advance (handler : Handler S σ) : Program S ε α → σ → Program S ε α × σ
  | .call op next, s => (next (handler op s).1, (handler op s).2)
  | p, s => (p, s)

/-- The operation that comes next is admitted. -/
def Program.Admits (admitted : S.Op → σ → Prop) : Program S ε α → σ → Prop
  | .call op _, s => admitted op s
  | _, _ => True

instance {admitted : S.Op → σ → Prop} [∀ op s, Decidable (admitted op s)] (s : σ) :
    ∀ p : Program S ε α, Decidable (p.Admits admitted s)
  | .call op _ => inferInstanceAs (Decidable (admitted op s))
  | .pure _ | .throw _ => isTrue trivial

/-- After a step there is again an outline, with an assertion that holds. -/
theorem Outline.advance {handler : Handler S σ} {environment : σ → σ → Prop}
    {admitted : S.Op → σ → Prop} {I : σ → Prop} {post : Except ε α → σ → Prop}
    {p : Program S ε α} {P : σ → Prop} (h : Outline handler environment admitted I post p P)
    {s : σ} (hs : P s) (hadmits : p.Admits admitted s) :
    ∃ Q, Outline handler environment admitted I post (p.advance handler s).1 Q ∧
      Q (p.advance handler s).2 := by
  cases h with
  | pure stable invariant done => exact ⟨P, .pure stable invariant done, hs⟩
  | throw stable invariant done => exact ⟨P, .throw stable invariant done, hs⟩
  | call Q stable invariant step continued => exact ⟨Q _, continued _, step s hs hadmits⟩

/-! ## Whole runs under interference -/

/-- A run to the end, with the operations it calls and their replies, in which the environment may
act at any point. -/
inductive Interleaved (handler : Handler S σ) (environment : σ → σ → Prop) :
    Program S ε α → σ → List ((op : S.Op) × S.Reply op) → Except ε α → σ → Prop where
  | pure (a : α) (s : σ) : Interleaved handler environment (.pure a) s [] (.ok a) s
  | throw (e : ε) (s : σ) : Interleaved handler environment (.throw e) s [] (.error e) s
  | interfere {p : Program S ε α} {s s₁ s' : σ} {trace : List ((op : S.Op) × S.Reply op)}
      {r : Except ε α} (step : environment s s₁)
      (rest : Interleaved handler environment p s₁ trace r s') :
      Interleaved handler environment p s trace r s'
  | call {op : S.Op} {next : S.Reply op → Program S ε α} {s s' : σ}
      {trace : List ((op : S.Op) × S.Reply op)} {r : Except ε α}
      (rest : Interleaved handler environment (next (handler op s).1) (handler op s).2 trace r s') :
      Interleaved handler environment (.call op next) s (⟨op, (handler op s).1⟩ :: trace) r s'

section Interleaved

variable {handler : Handler S σ} {environment : σ → σ → Prop} {s s' : σ}
  {trace : List ((op : S.Op) × S.Reply op)}

/-- An environment that does nothing leaves the run as it is. -/
theorem interleaved_run (p : Program S ε α) (s : σ) :
    Interleaved handler environment p s (p.trace handler s) (p.run handler s).1
      (p.run handler s).2 := by
  induction p generalizing s with
  | pure a => exact .pure a s
  | throw e => exact .throw e s
  | call op next ih => exact .call (ih _ _)

/-- At the end of a run, an assertion still holds that the environment keeps. -/
theorem Interleaved.of_pure {a : α} {r : Except ε α} {P : σ → Prop}
    (h : Interleaved handler environment (.pure a) s trace r s') (hstable : Stable environment P)
    (hs : P s) : trace = [] ∧ r = .ok a ∧ P s' := by
  generalize hp : (Program.pure a : Program S ε α) = p at h
  induction h with
  | pure b s =>
      cases hp
      exact ⟨rfl, rfl, hs⟩
  | throw e s => cases hp
  | interfere step rest ih => exact ih (hstable _ _ step hs) hp
  | call rest ih => cases hp

theorem Interleaved.of_throw {e : ε} {r : Except ε α}
    (h : Interleaved handler environment (.throw e) s trace r s') : r = .error e := by
  generalize hp : (Program.throw e : Program S ε α) = p at h
  induction h with
  | pure b s => cases hp
  | throw e s =>
      cases hp
      rfl
  | interfere step rest ih => exact ih hp
  | call rest ih => cases hp

/-- The next operation is called in a state in which the assertion still holds. -/
theorem Interleaved.of_call {op : S.Op} {next : S.Reply op → Program S ε α} {r : Except ε α}
    {P : σ → Prop} (h : Interleaved handler environment (.call op next) s trace r s')
    (hstable : Stable environment P) (hs : P s) :
    ∃ s₁ rest, P s₁ ∧ trace = ⟨op, (handler op s₁).1⟩ :: rest ∧
      Interleaved handler environment (next (handler op s₁).1) (handler op s₁).2 rest r s' := by
  generalize hp : (Program.call op next) = p at h
  induction h with
  | pure b s => cases hp
  | throw e s => cases hp
  | interfere step rest ih => exact ih (hstable _ _ step hs) hp
  | call rest ih =>
      cases hp
      exact ⟨_, _, hs, rfl, rest⟩

/-- A run of a sequence that returns has run its first part, and then the second. -/
theorem Interleaved.of_bind {p : Program S ε α} {f : α → Program S ε β} {b : β}
    (h : Interleaved handler environment (p >>= f) s trace (.ok b) s') :
    ∃ a s₁ first second, trace = first ++ second ∧
      Interleaved handler environment p s first (.ok a) s₁ ∧
        Interleaved handler environment (f a) s₁ second (.ok b) s' := by
  generalize hq : p >>= f = q at h
  generalize hr : (Except.ok b : Except ε β) = r at h
  induction h generalizing p with
  | pure c s =>
      cases p with
      | pure a =>
          cases hr
          have hf : f a = .pure b := hq
          exact ⟨a, s, [], [], rfl, .pure a s, hf ▸ .pure b s⟩
      | throw e => cases hq
      | call op next => cases hq
  | throw e s => cases hr
  | interfere step rest ih =>
      obtain ⟨a, s₁, first, second, htrace, hfirst, hsecond⟩ := ih hq hr
      exact ⟨a, s₁, first, second, htrace, .interfere step hfirst, hsecond⟩
  | @call op next s s' trace r rest ih =>
      cases p with
      | pure a =>
          cases hr
          have hf : f a = .call op next := hq
          exact ⟨a, s, [], _, rfl, .pure a s, hf ▸ .call rest⟩
      | throw e => cases hq
      | call op' next' =>
          cases hq
          obtain ⟨a, s₁, first, second, htrace, hfirst, hsecond⟩ := ih rfl hr
          exact ⟨a, s₁, _ :: first, second, by rw [htrace, List.cons_append], .call hfirst,
            hsecond⟩

end Interleaved

/-! ## Runs by their replies -/

/-- Some run of the program in which every reply is admitted ends like this. -/
def EndsIn (handler : Handler S σ) (environment : σ → σ → Prop)
    (admitted : (op : S.Op) → S.Reply op → Prop) (r : Except ε α) (s' : σ)
    (p : Program S ε α) : Prop :=
  ∃ s trace, (∀ call ∈ trace, admitted call.1 call.2) ∧
    Interleaved handler environment p s trace r s'

namespace EndsIn

variable {handler : Handler S σ} {environment : σ → σ → Prop}
  {admitted : (op : S.Op) → S.Reply op → Prop} {r : Except ε α} {s' : σ}

theorem of_pure {a : α} (h : EndsIn handler environment admitted r s' (.pure a)) : r = .ok a := by
  obtain ⟨s, trace, -, hrun⟩ := h
  exact (hrun.of_pure stable_true trivial).2.1

theorem of_perform {op : S.Op} {f : S.Reply op → Program S ε α}
    (h : EndsIn handler environment admitted r s' (.perform op >>= f)) :
    ∃ reply, admitted op reply ∧ EndsIn handler environment admitted r s' (f reply) := by
  obtain ⟨s, trace, hall, hrun⟩ := h
  obtain ⟨s₁, rest, -, rfl, hrest⟩ := hrun.of_call stable_true trivial
  have hreply := hall _ List.mem_cons_self
  have hothers : ∀ call ∈ rest, admitted call.1 call.2 :=
    fun call hcall => hall call (List.mem_cons_of_mem _ hcall)
  exact ⟨_, hreply, _, rest, hothers, hrest⟩

end EndsIn

end AgentMemory.Foundation
