import Mathlib.Data.Int.Basic
import Mathlib.Algebra.Order.Ring.Int
import Mathlib.Tactic.Ring

/-! # Narrowing conversions

The conversion of an integer to `w + 1` bits is its balanced remainder. -/

namespace AgentMemory.Foundation

theorem cast_two_pow_succ (w : ℕ) : ((2 ^ (w + 1) : ℕ) : ℤ) = 2 * 2 ^ w := by
  push_cast
  ring

theorem bmod_two_pow_bounds (n : ℤ) (w : ℕ) :
    -2 ^ w ≤ n.bmod (2 ^ (w + 1)) ∧ n.bmod (2 ^ (w + 1)) < 2 ^ w := by
  have hpos : 0 < 2 ^ (w + 1) := Nat.two_pow_pos (w + 1)
  have hlo := Int.le_bmod (x := n) hpos
  have hhi := Int.bmod_lt (x := n) hpos
  rw [cast_two_pow_succ] at hlo hhi
  omega

/-- The conversion keeps an integer just when it has that many bits. -/
theorem bmod_two_pow_eq_self_iff {n : ℤ} {w : ℕ} :
    n.bmod (2 ^ (w + 1)) = n ↔ -2 ^ w ≤ n ∧ n < 2 ^ w := by
  constructor
  · intro h
    rw [← h]
    exact bmod_two_pow_bounds n w
  · rintro ⟨hlo, hhi⟩
    apply Int.bmod_eq_of_le
    · rw [cast_two_pow_succ]
      omega
    · rw [cast_two_pow_succ]
      omega

end AgentMemory.Foundation
