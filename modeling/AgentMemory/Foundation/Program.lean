import Mathlib.Data.List.Forall2
import Mathlib.Logic.Relation

/-! # Programs over a signature of operations

A program calls operations one at a time and continues with what each call replied, until
it returns a value or exits by an exception. The same tree is run in one go by a handler,
or step by step between the steps of an environment. -/

namespace AgentMemory.Foundation

/-- Operations, and for each of them the type of its reply. -/
structure Signature where
  Op : Type
  Reply : Op → Type

/-- The same operations, each of which may throw instead of replying. -/
abbrev Signature.fallible (S : Signature) (ε : Type) : Signature where
  Op := S.Op
  Reply op := Except ε (S.Reply op)

inductive Program (S : Signature) (ε α : Type) where
  | pure (a : α)
  | throw (e : ε)
  | call (op : S.Op) (next : S.Reply op → Program S ε α)

/-- A computation that returned did so after each of its parts. -/
theorem except_bind_eq_ok {ε α β : Type} {x : Except ε α} {f : α → Except ε β} {b : β}
    (h : x >>= f = .ok b) : ∃ a, x = .ok a ∧ f a = .ok b := by
  cases x with
  | error e => cases h
  | ok a => exact ⟨a, rfl, h⟩

theorem except_map_ok_iff {ε α β : Type} {x : Except ε α} {f : α → β} :
    (∃ y, (do return f (← x) : Except ε β) = .ok y) ↔ ∃ a, x = .ok a := by
  cases x with
  | error e => exact iff_of_false (by rintro ⟨_, ⟨⟩⟩) (by rintro ⟨_, ⟨⟩⟩)
  | ok a => exact iff_of_true ⟨_, rfl⟩ ⟨a, rfl⟩

/-- One way of carrying out every operation on a state. -/
abbrev Handler (S : Signature) (σ : Type) := (op : S.Op) → σ → S.Reply op × σ

namespace Program

variable {S T : Signature} {ε α β σ : Type}

/-- Sequencing in which the continuation also sees an exception. -/
def tryBind (f : Except ε α → Program S ε β) : Program S ε α → Program S ε β
  | .pure a => f (.ok a)
  | .throw e => f (.error e)
  | .call op next => .call op fun r => (next r).tryBind f

protected def bind (p : Program S ε α) (f : α → Program S ε β) : Program S ε β :=
  p.tryBind fun
    | .ok a => f a
    | .error e => .throw e

instance : Monad (Program S ε) where
  pure := .pure
  bind := .bind

def perform (op : S.Op) : Program S ε (S.Reply op) :=
  .call op .pure

/-- A computation without operations, which may have thrown. -/
def ofExcept : Except ε α → Program S ε α
  | .ok a => .pure a
  | .error e => .throw e

/-- Replaces every operation by a program of another signature. An operation that throws
hands its exception to the caller, which may still catch it. -/
def interpret (body : (op : T.Op) → Program S ε (T.Reply op)) :
    Program (T.fallible ε) ε α → Program S ε α
  | .pure a => .pure a
  | .throw e => .throw e
  | .call op next => (body op).tryBind fun r => (next r).interpret body

/-- Replaces every operation by a program of another signature, and every exception by another
one. -/
def translate {δ : Type} (thrown : ε → δ) (body : (op : S.Op) → Program T δ (S.Reply op)) :
    Program S ε α → Program T δ α
  | .pure a => .pure a
  | .throw e => .throw (thrown e)
  | .call op next => body op >>= fun r => (next r).translate thrown body

theorem tryBind_tryBind {γ : Type} (p : Program S ε α) (f : Except ε α → Program S ε β)
    (g : Except ε β → Program S ε γ) :
    (p.tryBind f).tryBind g = p.tryBind fun r => (f r).tryBind g := by
  induction p with
  | pure a => rfl
  | throw e => rfl
  | call op next ih => exact congrArg (call op) (funext ih)

theorem pure_bind (a : α) (f : α → Program S ε β) : Pure.pure a >>= f = f a := rfl

theorem ofExcept_ok_bind (a : α) (f : α → Program S ε β) : ofExcept (.ok a) >>= f = f a := rfl

theorem bind_assoc {γ : Type} (p : Program S ε α) (f : α → Program S ε β)
    (g : β → Program S ε γ) : p >>= f >>= g = p >>= fun a => f a >>= g := by
  change (p.tryBind _).tryBind _ = p.tryBind _
  rw [tryBind_tryBind]
  congr 1
  funext r
  cases r <;> rfl

/-! ## Running to completion -/

def run (h : Handler S σ) : Program S ε α → σ → Except ε α × σ
  | .pure a, s => (.ok a, s)
  | .throw e, s => (.error e, s)
  | .call op next, s => (next (h op s).1).run h (h op s).2

/-- Programs that run one after the other. -/
def runAll (h : Handler S σ) : List (Program S ε α) → σ → List (Except ε α) × σ
  | [], s => ([], s)
  | p :: programs, s =>
      let (outcomes, last) := runAll h programs (p.run h s).2
      ((p.run h s).1 :: outcomes, last)

/-- The operations called by a run, each with its reply. -/
def trace (h : Handler S σ) : Program S ε α → σ → List ((op : S.Op) × S.Reply op)
  | .pure _, _ => []
  | .throw _, _ => []
  | .call op next, s => ⟨op, (h op s).1⟩ :: (next (h op s).1).trace h (h op s).2

/-- The states a run passes through, from its first to its last. -/
def states (h : Handler S σ) : Program S ε α → σ → List σ
  | .pure _, s => [s]
  | .throw _, s => [s]
  | .call op next, s => s :: (next (h op s).1).states h (h op s).2

/-- `P` holds of every operation the program can call, whatever the replies are. -/
def All (P : S.Op → Prop) : Program S ε α → Prop
  | .pure _ => True
  | .throw _ => True
  | .call op next => P op ∧ ∀ r, (next r).All P

theorem runAll_cons (h : Handler S σ) (p : Program S ε α) (programs : List (Program S ε α)) (s : σ) :
    runAll h (p :: programs) s =
      ((p.run h s).1 :: (runAll h programs (p.run h s).2).1,
        (runAll h programs (p.run h s).2).2) := rfl

@[simp] theorem run_pure (h : Handler S σ) (a : α) (s : σ) :
    (Pure.pure a : Program S ε α).run h s = (.ok a, s) := rfl

@[simp] theorem run_throw (h : Handler S σ) (e : ε) (s : σ) :
    (.throw e : Program S ε α).run h s = (.error e, s) := rfl

@[simp] theorem run_perform (h : Handler S σ) (op : S.Op) (s : σ) :
    (perform op : Program S ε (S.Reply op)).run h s = (.ok (h op s).1, (h op s).2) := rfl

@[simp] theorem run_ofExcept (h : Handler S σ) (x : Except ε α) (s : σ) :
    (ofExcept x : Program S ε α).run h s = (x, s) := by
  cases x <;> rfl

theorem run_tryBind (h : Handler S σ) (p : Program S ε α) (f : Except ε α → Program S ε β)
    (s : σ) : (p.tryBind f).run h s = (f (p.run h s).1).run h (p.run h s).2 := by
  induction p generalizing s with
  | pure a => rfl
  | throw e => rfl
  | call op next ih => exact ih _ _

theorem run_bind (h : Handler S σ) (p : Program S ε α) (f : α → Program S ε β) (s : σ) :
    (p >>= f).run h s =
      match p.run h s with
      | (.ok a, s') => (f a).run h s'
      | (.error e, s') => (.error e, s') := by
  change (p.tryBind _).run h s = _
  rw [run_tryBind]
  rcases p.run h s with ⟨e | a, s'⟩ <;> rfl

/-- The handler that runs the body of each operation. -/
def lower (h : Handler S σ) (body : (op : T.Op) → Program S ε (T.Reply op)) :
    Handler (T.fallible ε) σ :=
  fun op => (body op).run h

/-- Running an interpreted program is running the program with the lowered handler. -/
theorem run_interpret (h : Handler S σ) (body : (op : T.Op) → Program S ε (T.Reply op))
    (p : Program (T.fallible ε) ε α) (s : σ) :
    (p.interpret body).run h s = p.run (lower h body) s := by
  induction p generalizing s with
  | pure a => rfl
  | throw e => rfl
  | call op next ih =>
      change ((body op).tryBind _).run h s = _
      rw [run_tryBind]
      exact ih _ _

theorem trace_tryBind (h : Handler S σ) (p : Program S ε α)
    (f : Except ε α → Program S ε β) (s : σ) :
    (p.tryBind f).trace h s = p.trace h s ++ (f (p.run h s).1).trace h (p.run h s).2 := by
  induction p generalizing s with
  | pure a => rfl
  | throw e => rfl
  | call op next ih => exact congrArg (List.cons _) (ih _ _)

theorem trace_bind (h : Handler S σ) (p : Program S ε α) (f : α → Program S ε β) (s : σ) :
    (p >>= f).trace h s = p.trace h s ++
      match p.run h s with
      | (.ok a, s') => (f a).trace h s'
      | (.error _, _) => [] := by
  change (p.tryBind _).trace h s = _
  rw [trace_tryBind]
  rcases p.run h s with ⟨e | a, s'⟩ <;> rfl

theorem tryBind_ofExcept (p : Program S ε α) : p.tryBind ofExcept = p := by
  induction p with
  | pure a => rfl
  | throw e => rfl
  | call op next ih => exact congrArg (call op) (funext ih)

theorem interpret_ofExcept (body : (op : T.Op) → Program S ε (T.Reply op)) (x : Except ε α) :
    (ofExcept x : Program (T.fallible ε) ε α).interpret body = ofExcept x := by
  cases x <;> rfl

theorem interpret_tryBind (body : (op : T.Op) → Program S ε (T.Reply op))
    (p : Program (T.fallible ε) ε α) (f : Except ε α → Program (T.fallible ε) ε β) :
    (p.tryBind f).interpret body = (p.interpret body).tryBind fun r => (f r).interpret body := by
  induction p with
  | pure a => rfl
  | throw e => rfl
  | call op next ih =>
      change (body op).tryBind _ = ((body op).tryBind _).tryBind _
      rw [tryBind_tryBind]
      exact congrArg (fun g => (body op).tryBind g) (funext ih)

theorem interpret_bind (body : (op : T.Op) → Program S ε (T.Reply op))
    (p : Program (T.fallible ε) ε α) (f : α → Program (T.fallible ε) ε β) :
    (p >>= f).interpret body = p.interpret body >>= fun a => (f a).interpret body := by
  change (p.tryBind _).interpret body = (p.interpret body).tryBind _
  rw [interpret_tryBind]
  congr 1
  funext r
  cases r <;> rfl

theorem run_map (h : Handler S σ) (p : Program S ε α) (f : α → β) (s : σ) :
    (p >>= fun a => Pure.pure (f a)).run h s = ((p.run h s).1.map f, (p.run h s).2) := by
  rw [run_bind]
  rcases p.run h s with ⟨e | a, s'⟩ <;> rfl

theorem trace_map (h : Handler S σ) (p : Program S ε α) (f : α → β) (s : σ) :
    (p >>= fun a => Pure.pure (f a)).trace h s = p.trace h s := by
  rw [trace_bind]
  rcases p.run h s with ⟨e | a, s'⟩
  · exact List.append_nil _
  · exact List.append_nil _

@[simp] theorem trace_pure (h : Handler S σ) (a : α) (s : σ) :
    (Pure.pure a : Program S ε α).trace h s = [] := rfl

@[simp] theorem trace_perform (h : Handler S σ) (op : S.Op) (s : σ) :
    (perform op : Program S ε (S.Reply op)).trace h s = [⟨op, (h op s).1⟩] := rfl

@[simp] theorem trace_ofExcept (h : Handler S σ) (x : Except ε α) (s : σ) :
    (ofExcept x : Program S ε α).trace h s = [] := by
  cases x <;> rfl

theorem All.tryBind {P : S.Op → Prop} {p : Program S ε α} {f : Except ε α → Program S ε β}
    (hp : p.All P) (hf : ∀ r, (f r).All P) : (p.tryBind f).All P := by
  induction p with
  | pure a => exact hf _
  | throw e => exact hf _
  | call op next ih => exact ⟨hp.1, fun r => ih r (hp.2 r)⟩

theorem All.bind {P : S.Op → Prop} {p : Program S ε α} {f : α → Program S ε β}
    (hp : p.All P) (hf : ∀ a, (f a).All P) : (p >>= f).All P := by
  refine All.tryBind (P := P) hp ?_
  rintro (e | a)
  · trivial
  · exact hf a

theorem All.interpret {P : S.Op → Prop} {Q : T.Op → Prop}
    {body : (op : T.Op) → Program S ε (T.Reply op)} {p : Program (T.fallible ε) ε α}
    (hp : p.All (S := T.fallible ε) Q) (hbody : ∀ op, Q op → (body op).All P) :
    (p.interpret body).All P := by
  induction p with
  | pure a => trivial
  | throw e => trivial
  | call op next ih => exact All.tryBind (hbody op hp.1) fun r => ih r (hp.2 r)

theorem run_mem_states (h : Handler S σ) (p : Program S ε α) (s : σ) :
    (p.run h s).2 ∈ p.states h s := by
  induction p generalizing s with
  | pure a => exact List.mem_singleton_self s
  | throw e => exact List.mem_singleton_self s
  | call op next ih => exact List.mem_cons_of_mem _ (ih _ _)

/-- An invariant that every operation the program may call keeps holds throughout its run. -/
theorem All.states_invariant {P : S.Op → Prop} {h : Handler S σ} {I : σ → Prop}
    {p : Program S ε α} (hp : p.All P) (hstep : ∀ op s, P op → I s → I (h op s).2)
    {s : σ} (hs : I s) : ∀ t ∈ p.states h s, I t := by
  induction p generalizing s with
  | pure a =>
      intro t ht
      rw [List.mem_singleton.mp ht]
      exact hs
  | throw e =>
      intro t ht
      rw [List.mem_singleton.mp ht]
      exact hs
  | call op next ih =>
      intro t ht
      rcases List.mem_cons.mp ht with rfl | ht
      · exact hs
      · exact ih _ (hp.2 _) (hstep op s hp.1 hs) t ht

theorem All.run_invariant {P : S.Op → Prop} {h : Handler S σ} {I : σ → Prop}
    {p : Program S ε α} (hp : p.All P) (hstep : ∀ op s, P op → I s → I (h op s).2)
    {s : σ} (hs : I s) : I (p.run h s).2 :=
  hp.states_invariant hstep hs _ (run_mem_states h p s)

theorem all_true (p : Program S ε α) : p.All fun _ => True := by
  induction p with
  | pure a => trivial
  | throw e => trivial
  | call op next ih => exact ⟨trivial, ih⟩

/-- A translated program does what the program does with a handler that its bodies follow. -/
theorem run_translate {δ : Type} {thrown : ε → δ} {body : (op : S.Op) → Program T δ (S.Reply op)}
    {h : Handler T σ} {g : Handler S σ}
    (hbody : ∀ op s, (body op).run h s = (.ok (g op s).1, (g op s).2)) (p : Program S ε α) (s : σ) :
    (p.translate thrown body).run h s = ((p.run g s).1.mapError thrown, (p.run g s).2) := by
  induction p generalizing s with
  | pure a => rfl
  | throw e => rfl
  | call op next ih =>
      change (body op >>= _).run h s = _
      rw [run_bind, hbody]
      exact ih _ _

/-! ## Runs by their replies -/

/-- The program calls the operations of a list, which reply as it says, and comes to its end. -/
def Ends : Program S ε α → List ((op : S.Op) × S.Reply op) → Except ε α → Prop
  | .pure a, calls, outcome => calls = [] ∧ outcome = .ok a
  | .throw e, calls, outcome => calls = [] ∧ outcome = .error e
  | .call op next, calls, outcome =>
      ∃ reply rest, calls = ⟨op, reply⟩ :: rest ∧ (next reply).Ends rest outcome

open Classical in
/-- The handler that replies as a list says. -/
noncomputable def scripted [∀ op, Nonempty (S.Reply op)] :
    Handler S (List ((op : S.Op) × S.Reply op)) := fun op calls =>
  match calls with
  | [] => (Classical.ofNonempty, [])
  | called :: rest => (if h : called.1 = op then h ▸ called.2 else Classical.ofNonempty, rest)

/-- What holds of every run holds of every list of replies. -/
theorem Ends.run_scripted [∀ op, Nonempty (S.Reply op)] {p : Program S ε α}
    {calls : List ((op : S.Op) × S.Reply op)} {outcome : Except ε α} (h : p.Ends calls outcome) :
    p.run scripted calls = (outcome, []) ∧ p.trace scripted calls = calls := by
  induction p generalizing calls with
  | pure a =>
      obtain ⟨rfl, rfl⟩ := h
      exact ⟨rfl, rfl⟩
  | throw e =>
      obtain ⟨rfl, rfl⟩ := h
      exact ⟨rfl, rfl⟩
  | call op next ih =>
      obtain ⟨reply, rest, rfl, hrest⟩ := h
      have hreply : scripted op (⟨op, reply⟩ :: rest) = (reply, rest) := by
        simp [scripted]
      obtain ⟨hrun, htrace⟩ := ih reply hrest
      constructor
      · rw [run, hreply]
        exact hrun
      · rw [trace, hreply]
        exact congrArg _ htrace

section Ends

variable {calls : List ((op : S.Op) × S.Reply op)} {outcome : Except ε α}

theorem ends_ofExcept {outcome' : Except ε α} :
    (ofExcept outcome' : Program S ε α).Ends calls outcome ↔ calls = [] ∧ outcome = outcome' := by
  cases outcome' <;> rfl

/-- A sequence that has come to its end has done so after its first part. -/
theorem ends_tryBind {p : Program S ε β} {f : Except ε β → Program S ε α} :
    (p.tryBind f).Ends calls outcome ↔ ∃ middle first second, calls = first ++ second ∧
      p.Ends first middle ∧ (f middle).Ends second outcome := by
  induction p generalizing calls with
  | pure b =>
      constructor
      · exact fun h => ⟨.ok b, [], calls, rfl, ⟨rfl, rfl⟩, h⟩
      · rintro ⟨middle, first, second, rfl, ⟨rfl, rfl⟩, h⟩
        exact h
  | throw e =>
      constructor
      · exact fun h => ⟨.error e, [], calls, rfl, ⟨rfl, rfl⟩, h⟩
      · rintro ⟨middle, first, second, rfl, ⟨rfl, rfl⟩, h⟩
        exact h
  | call op next ih =>
      constructor
      · rintro ⟨reply, rest, rfl, h⟩
        obtain ⟨middle, first, second, rfl, hfirst, hsecond⟩ := (ih reply).mp h
        exact ⟨middle, ⟨op, reply⟩ :: first, second, rfl, ⟨reply, first, rfl, hfirst⟩, hsecond⟩
      · rintro ⟨middle, first, second, rfl, ⟨reply, rest, rfl, hfirst⟩, hsecond⟩
        exact ⟨reply, rest ++ second, rfl, (ih reply).mpr ⟨middle, rest, second, rfl, hfirst, hsecond⟩⟩

/-- An interpreted program has called its operations, and each of their bodies has come to its
end. -/
theorem Ends.interpret {body : (op : T.Op) → Program S ε (T.Reply op)}
    {p : Program (T.fallible ε) ε α} (h : (p.interpret body).Ends calls outcome) :
    ∃ (called : List ((op : T.Op) × Except ε (T.Reply op)))
      (parts : List (List ((op : S.Op) × S.Reply op))),
      p.Ends called outcome ∧ calls = parts.flatten ∧
        List.Forall₂ (fun call part => (body call.1).Ends part call.2) called parts := by
  induction p generalizing calls with
  | pure a =>
      obtain ⟨rfl, houtcome⟩ := h
      exact ⟨[], [], ⟨rfl, houtcome⟩, rfl, .nil⟩
  | throw e =>
      obtain ⟨rfl, houtcome⟩ := h
      exact ⟨[], [], ⟨rfl, houtcome⟩, rfl, .nil⟩
  | call op next ih =>
      obtain ⟨reply, first, second, rfl, hbody, hrest⟩ := ends_tryBind.mp h
      obtain ⟨called, parts, hends, rfl, hparts⟩ := ih reply hrest
      exact ⟨⟨op, reply⟩ :: called, first :: parts, ⟨reply, called, rfl, hends⟩, rfl,
        .cons hbody hparts⟩

/-- What holds of every operation that a program can call holds of those it has called. -/
theorem Ends.all {P : S.Op → Prop} {p : Program S ε α} (h : p.Ends calls outcome) (hp : p.All P) :
    ∀ call ∈ calls, P call.1 := by
  induction p generalizing calls with
  | pure a =>
      obtain ⟨rfl, -⟩ := h
      simp
  | throw e =>
      obtain ⟨rfl, -⟩ := h
      simp
  | call op next ih =>
      obtain ⟨reply, rest, rfl, hrest⟩ := h
      exact List.forall_mem_cons.mpr ⟨hp.1, ih reply hrest (hp.2 reply)⟩

theorem exists_ends [∀ op, Nonempty (S.Reply op)] (p : Program S ε α) :
    ∃ calls outcome, p.Ends calls outcome := by
  induction p with
  | pure a => exact ⟨[], .ok a, rfl, rfl⟩
  | throw e => exact ⟨[], .error e, rfl, rfl⟩
  | call op next ih =>
      obtain ⟨calls, outcome, hends⟩ := ih Classical.ofNonempty
      exact ⟨_, outcome, _, calls, rfl, hends⟩

/-- A program can call no other operations than it does for some replies. -/
theorem all_of_ends [∀ op, Nonempty (S.Reply op)] {P : S.Op → Prop} {p : Program S ε α}
    (h : ∀ calls outcome, p.Ends calls outcome → ∀ call ∈ calls, P call.1) : p.All P := by
  induction p with
  | pure a => trivial
  | throw e => trivial
  | call op next ih =>
      have hends {reply calls outcome} (hnext : (next reply).Ends calls outcome) :
          ∀ call ∈ ⟨op, reply⟩ :: calls, P call.1 := h _ outcome ⟨reply, calls, rfl, hnext⟩
      obtain ⟨calls, outcome, hnext⟩ := exists_ends (next Classical.ofNonempty)
      refine ⟨hends hnext _ List.mem_cons_self, fun reply => ih reply ?_⟩
      intro calls outcome hnext call hcall
      exact hends hnext call (List.mem_cons_of_mem _ hcall)

end Ends

end Program

end AgentMemory.Foundation
