import Mathlib.Logic.Relation

/-! # Links without cycles

Which changes of a link relation keep it free of cycles: links are dropped, or all links out of
some elements are redirected to one target. -/

namespace AgentMemory.Foundation

open Relation

variable {α : Type}

/-- Following links never leads back. -/
def Acyclic (r : α → α → Prop) : Prop :=
  ∀ x, ¬TransGen r x x

theorem Acyclic.mono {r r' : α → α → Prop} (h : Acyclic r) (hle : ∀ x y, r' x y → r x y) :
    Acyclic r' :=
  fun x hx => h x (TransGen.mono hle x x hx)

/-- The links out of the elements of `P` now lead to `y`, the others are as before. -/
def Redirects (P : α → Prop) (y : α) (r r' : α → α → Prop) : Prop :=
  ∀ a b, r' a b → (P a ∧ b = y) ∨ r a b

section Redirect

variable {P : α → Prop} {y : α} {r r' : α → α → Prop}

/-- A path either follows old links only, or goes to a redirected element first and then on from
the target. -/
theorem Redirects.transGen (h : Redirects P y r r') {a b : α} (hab : TransGen r' a b) :
    TransGen r a b ∨ ((∃ p, P p ∧ ReflTransGen r a p) ∧ ReflTransGen r y b) := by
  induction hab with
  | single hlink =>
      rcases h _ _ hlink with ⟨hp, rfl⟩ | hold
      · exact .inr ⟨⟨a, hp, .refl⟩, .refl⟩
      · exact .inl (.single hold)
  | tail _ hlink ih =>
      rcases h _ _ hlink with ⟨hp, rfl⟩ | hold
      · refine .inr ⟨?_, .refl⟩
        rcases ih with hpath | ⟨hfirst, -⟩
        · exact ⟨_, hp, hpath.to_reflTransGen⟩
        · exact hfirst
      · rcases ih with hpath | ⟨hfirst, hlast⟩
        · exact .inl (hpath.tail hold)
        · exact .inr ⟨hfirst, hlast.tail hold⟩

/-- A target that leads to no redirected element closes no cycle. -/
theorem Redirects.acyclic (h : Redirects P y r r') (hr : Acyclic r)
    (hy : ∀ p, P p → ¬ReflTransGen r y p) : Acyclic r' := by
  intro x hx
  rcases h.transGen hx with hcycle | ⟨⟨p, hp, hxp⟩, hyx⟩
  · exact hr x hcycle
  · exact hy p hp (hyx.trans hxp)

end Redirect

theorem reflTransGen_of_sink {r : α → α → Prop} {x y : α} (hsink : ∀ z, ¬r x z)
    (h : ReflTransGen r x y) : y = x := by
  induction h with
  | refl => rfl
  | tail _ hlink ih =>
      subst ih
      exact absurd hlink (hsink _)

/-- A path to `x` need not use the links out of `x`. -/
theorem reflTransGen_avoiding {r : α → α → Prop} {x y : α} (h : ReflTransGen r y x) :
    ReflTransGen (fun a b => a ≠ x ∧ r a b) y x := by
  induction h using ReflTransGen.head_induction_on with
  | refl => exact .refl
  | @head a b hlink _ ih =>
      by_cases hax : a = x
      · rw [hax]
      · exact .head ⟨hax, hlink⟩ ih

/-- Setting the link out of `x` to an element that leads to `x` closes a cycle. -/
theorem not_acyclic_of_reaches {r r' : α → α → Prop} {x y : α} (hlink : r' x y)
    (hkept : ∀ a b, a ≠ x → r a b → r' a b) (h : ReflTransGen r y x) : ¬Acyclic r' := by
  intro hacyclic
  have hback : ReflTransGen r' y x :=
    ReflTransGen.mono (fun a b hab => hkept a b hab.1 hab.2) y x (reflTransGen_avoiding h)
  exact hacyclic x (.head' hlink hback)

end AgentMemory.Foundation
