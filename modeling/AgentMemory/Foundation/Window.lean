import Mathlib.Data.List.DropRight

/-! # A window at the end of a list

Filtering the last elements is not the same as taking the last of the filtered ones. -/

namespace AgentMemory.Foundation

variable {α : Type}

theorem getLast?_rtake {xs : List α} {n : ℕ} (h : 0 < n) : (xs.rtake n).getLast? = xs.getLast? := by
  rw [List.rtake.eq_def, List.getLast?_drop]
  split
  · next hle =>
    have hnil : xs = [] := List.length_eq_zero_iff.mp (by omega)
    rw [hnil, List.getLast?_nil]
  · rfl

section Filter

variable {p : α → Bool} {xs : List α} {n : ℕ}

end Filter

end AgentMemory.Foundation
