import AgentMemory.Foundation.Program
import Mathlib.Data.Nat.Notation

/-! # Sessions of a transactional database

A session sees `current`. While a transaction is open, `saved` is the state it started
from, which is also the state that survives a crash. A refused statement has no effect
of its own; the engine either leaves an open transaction open or rolls it back with it. -/

namespace AgentMemory.Foundation

/-- What the engine does with the `n`-th statement of a session: whether it accepts it, the
effect of a write (`none` when a constraint rejects it), the message of a refusal, and whether
an open transaction is rolled back with a statement that is refused. -/
structure Engine (ω δ μ : Type) where
  accepts : ℕ → Bool
  effect : ℕ → ω → δ → Option δ
  message : ℕ → μ
  rollsBack : ℕ → Bool

/-- The same engine with other statements whose refusal rolls the transaction back. -/
def Engine.rollingBack {ω δ μ : Type} (E : Engine ω δ μ) (rollsBack : ℕ → Bool) : Engine ω δ μ :=
  { E with rollsBack }

inductive Command (ω : Type) where
  | beginTransaction
  | commit
  | rollback
  | write (w : ω)

abbrev Command.signature (ω μ : Type) : Signature where
  Op := Command ω
  Reply _ := Except μ Unit

structure Session (δ : Type) where
  current : δ
  saved : Option δ := none
  clock : ℕ := 0

namespace Session

variable {ω δ μ ε α : Type}

/-- The state that a crash or the end of the session leaves behind. -/
def durable (s : Session δ) : δ :=
  s.saved.getD s.current

/-- The session after a statement that was refused. -/
def refused (E : Engine ω δ μ) (s : Session δ) : Session δ :=
  if E.rollsBack s.clock then { current := s.durable, saved := none, clock := s.clock + 1 }
  else { s with clock := s.clock + 1 }

/-- One statement. A rollback of an open transaction is never refused. -/
def execute (E : Engine ω δ μ) : Handler (Command.signature ω μ) (Session δ)
  | .beginTransaction, s =>
      if E.accepts s.clock && s.saved.isNone then
        (.ok (), { s with saved := some s.current, clock := s.clock + 1 })
      else (.error (E.message s.clock), s.refused E)
  | .commit, s =>
      if E.accepts s.clock && s.saved.isSome then
        (.ok (), { s with saved := none, clock := s.clock + 1 })
      else (.error (E.message s.clock), s.refused E)
  | .rollback, s =>
      match s.saved with
      | some d => (.ok (), { current := d, saved := none, clock := s.clock + 1 })
      | none => (.error (E.message s.clock), s.refused E)
  | .write w, s =>
      match if E.accepts s.clock then E.effect s.clock w s.current else none with
      | some d => (.ok (), { s with current := d, clock := s.clock + 1 })
      | none => (.error (E.message s.clock), s.refused E)

/-! ## Refusals -/

theorem durable_of_closed {s : Session δ} (h : s.saved = none) : s.durable = s.current := by
  simp [durable, h]

theorem durable_of_open {s : Session δ} {d : δ} (h : s.saved = some d) : s.durable = d := by
  simp [durable, h]

/-- Without an open transaction there is nothing to roll back. -/
theorem refused_of_closed {E : Engine ω δ μ} {s : Session δ} (h : s.saved = none) :
    s.refused E = { s with clock := s.clock + 1 } := by
  unfold refused
  split
  · rw [durable_of_closed h, ← h]
  · rfl

/-- A refused statement leaves an open transaction open, or leaves none and the state from
before it. -/
theorem refused_cases (E : Engine ω δ μ) (s : Session δ) :
    s.refused E = { s with clock := s.clock + 1 } ∨
      s.refused E = { current := s.durable, saved := none, clock := s.clock + 1 } := by
  unfold refused
  split
  · exact .inr rfl
  · exact .inl rfl

theorem refused_closed_iff (E : Engine ω δ μ) (s : Session δ) :
    (s.refused E).saved = none ↔ s.saved = none ∨ E.rollsBack s.clock = true := by
  unfold refused
  split
  · next h => exact iff_of_true rfl (.inr h)
  · next h => exact (or_iff_left h).symm

theorem durable_refused (E : Engine ω δ μ) (s : Session δ) :
    (s.refused E).durable = s.durable := by
  rcases refused_cases E s with h | h
  · rw [h]
    rfl
  · rw [h]
    rfl

/-- A write either is refused or has its effect. -/
theorem execute_write_cases (E : Engine ω δ μ) (w : ω) (s : Session δ) :
    (∃ d, E.accepts s.clock = true ∧ E.effect s.clock w s.current = some d ∧
      execute E (.write w) s = (.ok (), { s with current := d, clock := s.clock + 1 })) ∨
    execute E (.write w) s = (.error (E.message s.clock), s.refused E) := by
  cases ha : E.accepts s.clock with
  | false => exact .inr (by simp [execute, ha])
  | true =>
      cases he : E.effect s.clock w s.current with
      | none => exact .inr (by simp [execute, ha, he])
      | some d => exact .inl ⟨d, rfl, rfl, by simp [execute, ha, he]⟩

theorem execute_begin_cases (E : Engine ω δ μ) (s : Session δ) :
    (s.saved = none ∧ execute E .beginTransaction s =
      (.ok (), { s with saved := some s.current, clock := s.clock + 1 })) ∨
    execute E .beginTransaction s = (.error (E.message s.clock), s.refused E) := by
  simp only [execute]
  split
  · next h =>
      rw [Bool.and_eq_true, Option.isNone_iff_eq_none] at h
      exact .inl ⟨h.2, rfl⟩
  · exact .inr rfl

theorem execute_commit_cases (E : Engine ω δ μ) (s : Session δ) :
    (s.saved.isSome = true ∧
      execute E .commit s = (.ok (), { s with saved := none, clock := s.clock + 1 })) ∨
    execute E .commit s = (.error (E.message s.clock), s.refused E) := by
  simp only [execute]
  split
  · next h =>
      rw [Bool.and_eq_true] at h
      exact .inl ⟨h.2, rfl⟩
  · exact .inr rfl

theorem execute_rollback_of_saved {E : Engine ω δ μ} {s : Session δ} {d : δ}
    (h : s.saved = some d) : execute E .rollback s =
      (.ok (), { current := d, saved := none, clock := s.clock + 1 }) := by
  simp [execute, h]

theorem execute_rollback_of_none {E : Engine ω δ μ} {s : Session δ} (h : s.saved = none) :
    execute E .rollback s = (.error (E.message s.clock), { s with clock := s.clock + 1 }) := by
  simp [execute, h, refused_of_closed h]

theorem refused_invariant {E : Engine ω δ μ} {I : δ → Prop} {s : Session δ}
    (hs : I s.current ∧ ∀ d, s.saved = some d → I d) :
    I (s.refused E).current ∧ ∀ d, (s.refused E).saved = some d → I d := by
  rcases refused_cases E s with h | h
  · rw [h]
    exact hs
  · rw [h]
    refine ⟨?_, fun d hd => by cases hd⟩
    cases hsaved : s.saved with
    | none => simpa [durable, hsaved] using hs.1
    | some d => simpa [durable, hsaved] using hs.2 d hsaved

/-- An invariant of the data that every write keeps is kept by every command, in the
session's view and in what a rollback would restore. -/
theorem execute_invariant {E : Engine ω δ μ} {P : ω → Prop} {I : δ → Prop}
    (hstep : ∀ n w d d', P w → E.effect n w d = some d' → I d → I d')
    (op : Command ω) (hop : ∀ w, op = .write w → P w) (s : Session δ)
    (hs : I s.current ∧ ∀ d, s.saved = some d → I d) :
    I (execute E op s).2.current ∧ ∀ d, (execute E op s).2.saved = some d → I d := by
  cases op with
  | beginTransaction =>
      rcases execute_begin_cases E s with ⟨-, h⟩ | h
      · rw [h]
        exact ⟨hs.1, fun d hd => Option.some.inj hd ▸ hs.1⟩
      · rw [h]
        exact refused_invariant hs
  | commit =>
      rcases execute_commit_cases E s with ⟨-, h⟩ | h
      · rw [h]
        exact ⟨hs.1, fun d hd => by cases hd⟩
      · rw [h]
        exact refused_invariant hs
  | rollback =>
      cases hsaved : s.saved with
      | some d =>
          rw [execute_rollback_of_saved hsaved]
          exact ⟨hs.2 d hsaved, fun d' hd => by cases hd⟩
      | none =>
          rw [execute_rollback_of_none hsaved]
          exact hs
  | write w =>
      rcases execute_write_cases E w s with ⟨d, -, he, h⟩ | h
      · rw [h]
        exact ⟨hstep _ _ _ _ (hop w rfl) he hs.1, hs.2⟩
      · rw [h]
        exact refused_invariant hs

/-! ## Sequences of writes -/

/-- The writes of a list in order, until one is refused. -/
def writeAll : List ω → Program (Command.signature ω μ) ε (Except μ Unit)
  | [] => .pure (.ok ())
  | w :: ws => .call (.write w) fun
      | .ok () => writeAll ws
      | .error message => .pure (.error message)

/-- The data changes from the first to the second by the writes of a list, each with its effect
at some statement number. -/
inductive Applied (E : Engine ω δ μ) : List ω → δ → δ → Prop where
  | nil (d : δ) : Applied E [] d d
  | cons {n : ℕ} {w : ω} {ws : List ω} {d d' d'' : δ} (h : E.effect n w d = some d')
      (rest : Applied E ws d' d'') : Applied E (w :: ws) d d''

theorem Applied.append {E : Engine ω δ μ} {ws ws' : List ω} {d d' d'' : δ}
    (h : Applied E ws d d') (h' : Applied E ws' d' d'') : Applied E (ws ++ ws') d d'' := by
  induction h with
  | nil d => exact h'
  | cons hw _ ih => exact .cons hw (ih h')

theorem applied_append {E : Engine ω δ μ} {ws ws' : List ω} {d d'' : δ}
    (h : Applied E (ws ++ ws') d d'') : ∃ d', Applied E ws d d' ∧ Applied E ws' d' d'' := by
  induction ws generalizing d with
  | nil => exact ⟨d, .nil d, h⟩
  | cons w ws ih =>
      cases h with
      | cons hw rest =>
          obtain ⟨d', h₁, h₂⟩ := ih rest
          exact ⟨d', .cons hw h₁, h₂⟩

theorem applied_cons {E : Engine ω δ μ} {w : ω} {ws : List ω} {d d'' : δ}
    (h : Applied E (w :: ws) d d'') : ∃ n d', E.effect n w d = some d' ∧ Applied E ws d' d'' := by
  cases h with
  | cons hw rest => exact ⟨_, _, hw, rest⟩

theorem Applied.invariant {E : Engine ω δ μ} {P : ω → Prop} {I : δ → Prop}
    (hstep : ∀ n w d d', P w → E.effect n w d = some d' → I d → I d') {ws : List ω} {d d' : δ}
    (h : Applied E ws d d') (hws : ∀ w ∈ ws, P w) (hd : I d) : I d' := by
  induction h with
  | nil d => exact hd
  | cons hw _ ih =>
      exact ih (fun w hw' => hws w (List.mem_cons_of_mem _ hw'))
        (hstep _ _ _ _ (hws _ List.mem_cons_self) hw hd)

/-! ### Facts that come and go -/

/-- Some element of the list brings the fact in, and none after it takes it away. -/
def Leaves {ξ : Type} (brings takes : ω → ξ → Prop) (ws : List ω) (x : ξ) : Prop :=
  ∃ before w after, ws = before ++ w :: after ∧ brings w x ∧ ∀ w' ∈ after, ¬takes w' x

section Facts

variable {ξ ω' : Type} {brings takes : ω → ξ → Prop} {x : ξ}

theorem not_leaves_nil : ¬Leaves brings takes [] x := by
  rintro ⟨before, w, after, heq, -⟩
  simp at heq

theorem leaves_cons {w : ω} {ws : List ω} :
    Leaves brings takes (w :: ws) x ↔
      Leaves brings takes ws x ∨ (brings w x ∧ ∀ w' ∈ ws, ¬takes w' x) := by
  constructor
  · rintro ⟨before, w', after, heq, hbrings, hafter⟩
    cases before with
    | nil =>
        cases heq
        exact .inr ⟨hbrings, hafter⟩
    | cons first before =>
        cases heq
        exact .inl ⟨before, w', after, rfl, hbrings, hafter⟩
  · rintro (⟨before, w', after, rfl, hbrings, hafter⟩ | ⟨hbrings, hws⟩)
    · exact ⟨w :: before, w', after, rfl, hbrings, hafter⟩
    · exact ⟨[], w, ws, rfl, hbrings, hws⟩

/-- What is left depends on what each element stands for only. -/
theorem leaves_filterMap {brings takes : ω' → ξ → Prop} {f : ω → Option ω'} (ws : List ω) :
    Leaves brings takes (ws.filterMap f) x ↔
      Leaves (fun w x => ∃ w', f w = some w' ∧ brings w' x)
        (fun w x => ∃ w', f w = some w' ∧ takes w' x) ws x := by
  induction ws with
  | nil => exact iff_of_false not_leaves_nil not_leaves_nil
  | cons w ws ih =>
      rw [leaves_cons, ← ih]
      cases hw : f w with
      | none => simp [hw]
      | some w' =>
          rw [List.filterMap_cons_some hw, leaves_cons]
          simp only [List.mem_filterMap, Option.some.injEq, exists_eq_left', forall_exists_index,
            and_imp, not_exists, not_and]
          refine or_congr_right (and_congr_right fun _ => ⟨?_, ?_⟩)
          · exact fun h v hv v' hfv => h v' v hv hfv
          · exact fun h v' v hv hfv => h v hv v' hfv

/-- If each write brings in and takes away facts, then after a list of writes the facts are those
that it leaves and the old ones that it does not take away. -/
theorem Applied.facts {E : Engine ω δ μ} {F : δ → ξ → Prop}
    (hstep : ∀ n w d d', E.effect n w d = some d' →
      ∀ x, F d' x ↔ brings w x ∨ (F d x ∧ ¬takes w x))
    {ws : List ω} {d d' : δ} (h : Applied E ws d d') (x : ξ) :
    F d' x ↔ Leaves brings takes ws x ∨ (F d x ∧ ∀ w ∈ ws, ¬takes w x) := by
  induction h with
  | nil d =>
      constructor
      · exact fun hx => .inr ⟨hx, by simp⟩
      · rintro (hleaves | ⟨hx, -⟩)
        · exact absurd hleaves not_leaves_nil
        · exact hx
  | @cons n w ws d d' d'' heffect _ ih =>
      rw [ih, hstep n w d d' heffect, leaves_cons, List.forall_mem_cons, or_and_right, and_assoc,
        or_assoc]

end Facts

/-- Either every write is accepted and they are all applied, or one is refused. No other write
touches the transaction. -/
theorem run_writeAll (E : Engine ω δ μ) (ws : List ω) (s : Session δ) :
    ∃ s' : Session δ, s'.saved = s.saved ∧
      (((writeAll ws : Program _ ε _).run (execute E) s = (.ok (.ok ()), s') ∧
          Applied E ws s.current s'.current) ∨
        ∃ message, (writeAll ws : Program _ ε _).run (execute E) s =
          (.ok (.error message), s'.refused E)) := by
  induction ws generalizing s with
  | nil => exact ⟨s, rfl, .inl ⟨rfl, .nil _⟩⟩
  | cons w ws ih =>
      simp only [writeAll, Program.run]
      rcases execute_write_cases E w s with ⟨d, -, heffect, h⟩ | h
      · rw [h]
        obtain ⟨s', hsaved, hrun⟩ := ih { s with current := d, clock := s.clock + 1 }
        refine ⟨s', hsaved, ?_⟩
        rcases hrun with ⟨hrun, happlied⟩ | hrun
        · exact .inl ⟨hrun, .cons heffect happlied⟩
        · exact .inr hrun
      · rw [h]
        exact ⟨s, rfl, .inr ⟨_, rfl⟩⟩

/-! ## Engines that differ in what a refusal rolls back -/

section RollingBack

variable {E : Engine ω δ μ} (rollsBack : ℕ → Bool)

/-- The first session is the second one with its transaction rolled back. -/
structure RolledBack (s t : Session δ) : Prop where
  closed : s.saved = none
  restored : t.saved = some s.current
  clock : s.clock = t.clock

/-- The engines differ in the state that a refused write leaves only. -/
theorem execute_write_rollingBack (w : ω) (s : Session δ) :
    execute (E.rollingBack rollsBack) (.write w) s = execute E (.write w) s ∨
      (execute (E.rollingBack rollsBack) (.write w) s =
          (.error (E.message s.clock), s.refused (E.rollingBack rollsBack)) ∧
        execute E (.write w) s = (.error (E.message s.clock), s.refused E)) := by
  cases ha : E.accepts s.clock with
  | false => exact .inr ⟨by simp [execute, Engine.rollingBack, ha], by simp [execute, ha]⟩
  | true =>
      cases he : E.effect s.clock w s.current with
      | none =>
          exact .inr ⟨by simp [execute, Engine.rollingBack, ha, he], by simp [execute, ha, he]⟩
      | some d => exact .inl (by simp [execute, Engine.rollingBack, ha, he])

theorem execute_write_closed {w : ω} {s : Session δ} (hs : s.saved = none) :
    (execute E (.write w) s).2.saved = none := by
  rcases execute_write_cases E w s with ⟨d, -, -, h⟩ | h
  · rw [h]
    exact hs
  · rw [h, refused_of_closed hs]
    exact hs

/-- Outside a transaction there is no difference. -/
theorem execute_write_of_closed (w : ω) {s : Session δ} (hs : s.saved = none) :
    execute (E.rollingBack rollsBack) (.write w) s = execute E (.write w) s := by
  rcases execute_write_rollingBack (E := E) rollsBack w s with h | ⟨h, h'⟩
  · exact h
  · rw [h, h', refused_of_closed hs, refused_of_closed hs]

theorem execute_begin_of_closed {s : Session δ} (hs : s.saved = none) :
    execute (E.rollingBack rollsBack) .beginTransaction s = execute E .beginTransaction s := by
  cases ha : E.accepts s.clock with
  | true => simp [execute, Engine.rollingBack, ha, hs]
  | false => simp [execute, Engine.rollingBack, ha, refused_of_closed hs]

theorem execute_commit_rollingBack (s : Session δ) :
    execute (E.rollingBack rollsBack) .commit s = execute E .commit s ∨
      (execute (E.rollingBack rollsBack) .commit s =
          (.error (E.message s.clock), s.refused (E.rollingBack rollsBack)) ∧
        execute E .commit s = (.error (E.message s.clock), s.refused E)) := by
  cases ha : E.accepts s.clock && s.saved.isSome with
  | true => exact .inl (by simp [execute, Engine.rollingBack, ha])
  | false => exact .inr ⟨by simp [execute, Engine.rollingBack, ha], by simp [execute, ha]⟩

variable (hE : ∀ n, E.rollsBack n = false)

include hE

theorem refused_of_keeps (s : Session δ) : s.refused E = { s with clock := s.clock + 1 } := by
  simp [refused, hE]

theorem rolledBack_refused {s : Session δ} {d : δ} (hs : s.saved = some d) :
    s.refused (E.rollingBack rollsBack) = s.refused E ∨
      RolledBack (s.refused (E.rollingBack rollsBack)) (s.refused E) := by
  rw [refused_of_keeps hE]
  rcases refused_cases (E.rollingBack rollsBack) s with h | h
  · exact .inl h
  · rw [h]
    exact .inr ⟨rfl, by rw [durable_of_open hs]; exact hs, rfl⟩

/-- A list of writes ends with the same reply. If it is not in the same state, a write was
refused and the transaction rolled back with it. -/
theorem run_writeAll_rollingBack (ws : List ω) {s : Session δ} {d : δ} (hs : s.saved = some d) :
    ((writeAll ws : Program _ ε _).run (execute (E.rollingBack rollsBack)) s =
        (writeAll ws : Program _ ε _).run (execute E) s) ∨
      ∃ message s₁ s₂, RolledBack s₁ s₂ ∧
        (writeAll ws : Program _ ε _).run (execute (E.rollingBack rollsBack)) s =
          (.ok (.error message), s₁) ∧
        (writeAll ws : Program _ ε _).run (execute E) s = (.ok (.error message), s₂) := by
  induction ws generalizing s with
  | nil => exact .inl rfl
  | cons w ws ih =>
      simp only [writeAll, Program.run]
      rcases execute_write_rollingBack (E := E) rollsBack w s with h | ⟨h, h'⟩
      · rw [h]
        rcases execute_write_cases E w s with ⟨d', -, -, h'⟩ | h'
        · rw [h']
          exact ih hs
        · rw [h']
          exact .inl rfl
      · rw [h, h']
        rcases rolledBack_refused rollsBack hE hs with heq | hrolled
        · rw [heq]
          exact .inl rfl
        · exact .inr ⟨_, _, _, hrolled, rfl, rfl⟩

omit hE in
/-- The end of the transaction by a `ROLLBACK`. -/
theorem RolledBack.execute_rollback {s t : Session δ} (h : RolledBack s t) :
    (execute (E.rollingBack rollsBack) .rollback s).2 = (execute E .rollback t).2 := by
  rw [execute_rollback_of_none h.closed, execute_rollback_of_saved h.restored]
  simp [h.clock, h.closed]

end RollingBack

end Session

end AgentMemory.Foundation
