import Mathlib.Data.Nat.Notation
import Mathlib.Logic.Relation

/-! # Deterministic machines

A machine goes from a state to the next one until there is none. It is run for a bounded number of
turns; a rank that every turn lowers bounds the turns it takes. -/

namespace AgentMemory.Foundation

variable {σ : Type} {next : σ → Option σ}

/-- The state in which the machine stops, if it does so before its turns are used up. -/
def runToEnd (next : σ → Option σ) : ℕ → σ → Option σ
  | 0, _ => none
  | turns + 1, s =>
      match next s with
      | some s' => runToEnd next turns s'
      | none => some s

/-- A number of turns leads from one state to the other. -/
abbrev Turns (next : σ → Option σ) : σ → σ → Prop :=
  Relation.ReflTransGen fun s s' => next s = some s'

theorem Turns.head {s s' s'' : σ} (h : next s = some s') (hturns : Turns next s' s'') :
    Turns next s s'' :=
  Relation.ReflTransGen.head h hturns

theorem Turns.single {s s' : σ} (h : next s = some s') : Turns next s s' :=
  Relation.ReflTransGen.single h

/-- With as many turns as the rank allows the machine stops, and where it does is where it comes
to without a next state. -/
theorem runToEnd_eq_some {rank : σ → ℕ} (hrank : ∀ s s', next s = some s' → rank s' < rank s)
    {turns : ℕ} {s s' : σ} (hturns : rank s < turns) :
    runToEnd next turns s = some s' ↔ Turns next s s' ∧ next s' = none := by
  induction turns generalizing s with
  | zero => omega
  | succ turns ih =>
      cases hnext : next s with
      | none =>
          simp only [runToEnd, hnext, Option.some.injEq]
          constructor
          · rintro rfl
            exact ⟨.refl, hnext⟩
          · rintro ⟨hsteps, -⟩
            cases hsteps.cases_head with
            | inl heq => exact heq
            | inr hstep =>
                obtain ⟨t, ht, -⟩ := hstep
                simp [hnext] at ht
      | some t =>
          have hlower := hrank s t hnext
          simp only [runToEnd, hnext]
          rw [ih (by omega)]
          constructor
          · rintro ⟨hsteps, hend⟩
            exact ⟨hsteps.head hnext, hend⟩
          · rintro ⟨hsteps, hend⟩
            refine ⟨?_, hend⟩
            cases hsteps.cases_head with
            | inl heq => simp [← heq, hnext] at hend
            | inr hstep =>
                obtain ⟨t', ht', hsteps⟩ := hstep
                rw [hnext, Option.some.injEq] at ht'
                exact ht' ▸ hsteps

/-- What every turn keeps holds wherever the machine comes to. -/
theorem Turns.invariant {I : σ → Prop} (hstep : ∀ s s', next s = some s' → I s → I s') {s s' : σ}
    (h : Turns next s s') (hs : I s) : I s' := by
  induction h with
  | refl => exact hs
  | tail _ hnext ih => exact hstep _ _ hnext ih

end AgentMemory.Foundation
