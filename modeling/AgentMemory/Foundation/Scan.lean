import Mathlib.Data.List.Basic
import Mathlib.Data.List.Infix
import Mathlib.Data.Nat.Notation

/-! # Scanning a list for a number of hits

A scan looks at a list from its front and stops at a given hit. What it has looked at is a
prefix, which ends with that hit unless the scan came to the end of the list. -/

namespace AgentMemory.Foundation

variable {α β : Type}

/-- The elements looked at when the scan stops after `n` more hits than the next; with no budget
it looks at the whole list. -/
def scan (p : α → Bool) : Option ℕ → List α → List α
  | _, [] => []
  | budget, x :: xs =>
      if p x then
        match budget with
        | some 0 => [x]
        | some (n + 1) => x :: scan p (some n) xs
        | none => x :: scan p none xs
      else x :: scan p budget xs

theorem scan_none (p : α → Bool) (xs : List α) : scan p none xs = xs := by
  induction xs with
  | nil => rfl
  | cons x xs ih =>
      simp only [scan]
      split
      · rw [ih]
      · rw [ih]

theorem scan_isPrefix (p : α → Bool) (budget : Option ℕ) (xs : List α) :
    scan p budget xs <+: xs := by
  induction xs generalizing budget with
  | nil => exact List.nil_prefix
  | cons x xs ih =>
      simp only [scan]
      split
      · split
        · exact ⟨xs, rfl⟩
        · exact (List.prefix_cons_inj x).mpr (ih _)
        · exact (List.prefix_cons_inj x).mpr (ih _)
      · exact (List.prefix_cons_inj x).mpr (ih _)

theorem scan_map (p : β → Bool) (f : α → β) (budget : Option ℕ) (xs : List α) :
    scan p budget (xs.map f) = (scan (fun x => p (f x)) budget xs).map f := by
  induction xs generalizing budget with
  | nil => rfl
  | cons x xs ih =>
      cases hx : p (f x) with
      | false => simp [scan, hx, ih]
      | true =>
          rcases budget with _ | _ | n
          · simp [scan, hx, ih]
          · simp [scan, hx]
          · simp [scan, hx, ih]

/-- A scan came to the end of the list or stopped at its last hit. -/
theorem scan_cases (p : α → Bool) (n : ℕ) (xs : List α) :
    scan p (some n) xs = xs ∨ ∃ front x, scan p (some n) xs = front ++ [x] ∧ p x = true ∧
      (front.filter p).length = n := by
  induction xs generalizing n with
  | nil => exact .inl rfl
  | cons x xs ih =>
      cases hx : p x with
      | false =>
          have hscan : scan p (some n) (x :: xs) = x :: scan p (some n) xs := by simp [scan, hx]
          rw [hscan]
          rcases ih n with heq | ⟨front, y, heq, hy, hlength⟩
          · exact .inl (by rw [heq])
          · exact .inr ⟨x :: front, y, by rw [heq]; rfl, hy, by simpa [hx] using hlength⟩
      | true =>
          cases n with
          | zero => exact .inr ⟨[], x, by simp [scan, hx], hx, rfl⟩
          | succ n =>
              have hscan : scan p (some (n + 1)) (x :: xs) = x :: scan p (some n) xs := by
                simp [scan, hx]
              rw [hscan]
              rcases ih n with heq | ⟨front, y, heq, hy, hlength⟩
              · exact .inl (by rw [heq])
              · exact .inr ⟨x :: front, y, by rw [heq]; rfl, hy, by simp [hx, hlength]⟩

theorem length_filter_scan_le (p : α → Bool) (n : ℕ) (xs : List α) :
    ((scan p (some n) xs).filter p).length ≤ n + 1 := by
  induction xs generalizing n with
  | nil => simp [scan]
  | cons x xs ih =>
      cases hx : p x with
      | false => simpa [scan, hx] using ih n
      | true =>
          cases n with
          | zero => simp [scan, hx]
          | succ n => simpa [scan, hx] using ih n

/-- A scan that used up less than its budget came to the end of the list. -/
theorem scan_eq_self_of_length_lt {p : α → Bool} {n : ℕ} {xs : List α}
    (h : ((scan p (some n) xs).filter p).length < n + 1) : scan p (some n) xs = xs := by
  rcases scan_cases p n xs with heq | ⟨front, x, heq, hx, hlength⟩
  · exact heq
  · rw [heq, List.filter_append, List.length_append, hlength] at h
    simp [hx] at h

/-- A scan comes to the end of the list exactly when the hits before the last element do not use
up its budget. -/
theorem scan_eq_self_iff (p : α → Bool) (n : ℕ) (xs : List α) :
    scan p (some n) xs = xs ↔ (xs.dropLast.filter p).length ≤ n := by
  induction xs generalizing n with
  | nil => simp [scan]
  | cons x xs ih =>
      cases xs with
      | nil =>
          simp only [List.dropLast_singleton, List.filter_nil, List.length_nil, Nat.zero_le,
            iff_true, scan]
          split
          · split <;> rfl
          · rfl
      | cons y ys =>
          rw [List.dropLast_cons_cons]
          cases hx : p x with
          | false =>
              have hscan : scan p (some n) (x :: y :: ys) = x :: scan p (some n) (y :: ys) := by
                simp [scan, hx]
              rw [hscan, List.filter_cons, hx]
              simpa using ih n
          | true =>
              cases n with
              | zero => simp [scan, hx]
              | succ n =>
                  have hscan : scan p (some (n + 1)) (x :: y :: ys) =
                      x :: scan p (some n) (y :: ys) := by
                    simp [scan, hx]
                  rw [hscan, List.filter_cons, hx]
                  simpa using ih n

/-- The hits of a scan are the first hits of the list. -/
theorem filter_scan (p : α → Bool) (n : ℕ) (xs : List α) :
    (scan p (some n) xs).filter p = (xs.filter p).take (n + 1) := by
  induction xs generalizing n with
  | nil => simp [scan]
  | cons x xs ih =>
      cases hx : p x with
      | false => simpa [scan, hx] using ih n
      | true =>
          cases n with
          | zero => simp [scan, hx]
          | succ n => simpa [scan, hx] using ih n

/-- A scan ends with the hit that used up its budget, or else with the list. -/
theorem getLast?_scan (p : α → Bool) (n : ℕ) (xs : List α) :
    (scan p (some n) xs).getLast? = ((xs.filter p)[n]?).or xs.getLast? := by
  induction xs generalizing n with
  | nil => simp [scan]
  | cons x xs ih =>
      cases hx : p x with
      | false =>
          have hscan : scan p (some n) (x :: xs) = x :: scan p (some n) xs := by simp [scan, hx]
          rw [hscan, List.getLast?_cons, ih n, List.getLast?_cons,
            List.filter_cons_of_neg (by simp [hx])]
          cases (xs.filter p)[n]? <;> simp
      | true =>
          rw [List.filter_cons_of_pos hx]
          cases n with
          | zero => simp [scan, hx]
          | succ n =>
              have hscan : scan p (some (n + 1)) (x :: xs) = x :: scan p (some n) xs := by
                simp [scan, hx]
              rw [hscan, List.getLast?_cons, ih n, List.getLast?_cons, List.getElem?_cons_succ]
              cases (xs.filter p)[n]? <;> simp

/-! ## The first elements of a list -/

/-- The first `n` elements; all of them without a number. -/
def takeUpTo : Option ℕ → List α → List α
  | some n, xs => xs.take n
  | none, xs => xs

theorem takeUpTo_isPrefix (n : Option ℕ) (xs : List α) : takeUpTo n xs <+: xs := by
  cases n with
  | none => exact List.prefix_refl xs
  | some n => exact List.take_prefix n xs

/-- A filter leaves the first elements as they are exactly when it keeps each of them and as many
are taken after it. -/
theorem takeUpTo_filter_eq_iff (p : α → Bool) (n m : Option ℕ) (xs : List α) :
    takeUpTo m (xs.filter p) = takeUpTo n xs ↔
      (∀ x ∈ takeUpTo n xs, p x = true) ∧
        (takeUpTo m (xs.filter p)).length = (takeUpTo n xs).length := by
  constructor
  · intro h
    refine ⟨fun x hx => ?_, congrArg List.length h⟩
    rw [← h] at hx
    exact (List.mem_filter.mp ((takeUpTo_isPrefix m _).subset hx)).2
  · rintro ⟨hkept, hlength⟩
    obtain ⟨rest, hrest⟩ := takeUpTo_isPrefix n xs
    have hfront : takeUpTo n xs <+: xs.filter p := by
      refine ⟨rest.filter p, ?_⟩
      conv_rhs => rw [← hrest]
      rw [List.filter_append, List.filter_eq_self.mpr hkept]
    exact (List.prefix_of_prefix_length_le (takeUpTo_isPrefix m _) hfront hlength.le).eq_of_length
      hlength

end AgentMemory.Foundation
