import AgentMemory.Foundation.Table

/-! # Reading a log by a cursor

A log is a list of rows in rowid order that only grows at its end. A reader keeps a cursor, takes
some rows after it from the front, and moves the cursor to the last row it has looked at. -/

namespace AgentMemory.Foundation

variable {α : Type}

/-- The rows are in rowid order. -/
abbrev InOrder (rows : List (Rowid × α)) : Prop :=
  rows.Pairwise fun a b => a.1 < b.1

/-- The rowid of the last row. -/
def lastRowid (rows : List (Rowid × α)) (none : ℤ) : ℤ :=
  match rows.getLast? with
  | some row => row.1.val
  | .none => none

theorem lastRowid_nil (none : ℤ) : lastRowid ([] : List (Rowid × α)) none = none :=
  rfl

theorem lastRowid_concat (front : List (Rowid × α)) (last : Rowid × α) (none : ℤ) :
    lastRowid (front ++ [last]) none = last.1.val := by
  simp [lastRowid]

theorem le_lastRowid {rows : List (Rowid × α)} {start : ℤ}
    (h : ∀ row ∈ rows, start < row.1.val) : start ≤ lastRowid rows start := by
  rcases List.eq_nil_or_concat rows with rfl | ⟨front, last, rfl⟩
  · exact le_refl _
  · rw [List.concat_eq_append] at h ⊢
    rw [lastRowid_concat]
    exact le_of_lt (h last (by simp))

theorem rowid_le_lastRowid {rows : List (Rowid × α)} (hsorted : InOrder rows) {row : Rowid × α}
    (hrow : row ∈ rows) (none : ℤ) : (row.1.val : ℤ) ≤ lastRowid rows none := by
  unfold lastRowid
  cases hlast : rows.getLast? with
  | none =>
      rw [List.getLast?_eq_none_iff.mp hlast] at hrow
      cases hrow
  | some last =>
      rcases Table.eq_or_lt_of_getLast? hsorted hlast hrow with rfl | hlt
      · exact le_refl _
      · rw [Fin.lt_def] at hlt
        dsimp only
        omega

/-! ## The last row under a filter -/

theorem getLast?_filter {rows : List (Rowid × α)} {q : Rowid × α → Bool}
    (hlast : ∀ row, rows.getLast? = some row → q row = true) :
    (rows.filter q).getLast? = rows.getLast? := by
  rcases List.eq_nil_or_concat rows with rfl | ⟨front, last, rfl⟩
  · rfl
  · rw [List.concat_eq_append] at hlast ⊢
    simp [List.filter_append, hlast last (by simp)]

/-- The last row that passes the filter is as late as every row exactly if it is the last one. -/
theorem le_lastRowid_filter_iff {rows : List (Rowid × α)} (hsorted : InOrder rows)
    {q : Rowid × α → Bool} {start : ℤ} (hstart : ∀ row ∈ rows, start < row.1.val) :
    (∀ row ∈ rows, (row.1.val : ℤ) ≤ lastRowid (rows.filter q) start) ↔
      ∀ row, rows.getLast? = some row → q row = true := by
  constructor
  · intro hcovers row hlast
    have hrow := List.mem_of_getLast? hlast
    have hle := hcovers row hrow
    unfold lastRowid at hle
    cases hfiltered : (rows.filter q).getLast? with
    | none =>
        rw [hfiltered] at hle
        have hlt := hstart row hrow
        dsimp only at hle
        omega
    | some kept =>
        rw [hfiltered] at hle
        dsimp only at hle
        have hkept := List.mem_filter.mp (List.mem_of_getLast? hfiltered)
        rcases Table.eq_or_lt_of_getLast? hsorted hlast hkept.1 with rfl | hlt
        · exact hkept.2
        · rw [Fin.lt_def] at hlt
          omega
  · intro hlast row hrow
    have hle := rowid_le_lastRowid hsorted hrow start
    unfold lastRowid at hle ⊢
    rw [getLast?_filter hlast]
    exact hle

/-! ## What a cursor has passed -/

/-- The rows up to a cursor that satisfy `p`. -/
def passed (p : Rowid × α → Bool) (cursor : ℤ) (rows : List (Rowid × α)) : List (Rowid × α) :=
  rows.filter fun row => decide ((row.1.val : ℤ) ≤ cursor) && p row

theorem passed_append {p : Rowid × α → Bool} {cursor : ℤ} {more : List (Rowid × α)}
    (h : ∀ row ∈ more, cursor < row.1.val) (rows : List (Rowid × α)) :
    passed p cursor (rows ++ more) = passed p cursor rows := by
  unfold passed
  rw [List.filter_append]
  have hmore : more.filter (fun row => decide ((row.1.val : ℤ) ≤ cursor) && p row) = [] := by
    rw [List.filter_eq_nil_iff]
    intro row hrow
    have hlt := h row hrow
    simp [hlt]
  rw [hmore, List.append_nil]

/-- What is passed between two cursors follows what is passed at the first. -/
theorem passed_eq_append {rows : List (Rowid × α)} (hsorted : InOrder rows) {m n : ℤ} (h : m ≤ n)
    (p : Rowid × α → Bool) :
    passed p n rows = passed p m rows ++
      rows.filter fun row => decide (m < row.1.val) && (decide ((row.1.val : ℤ) ≤ n) && p row) := by
  induction rows with
  | nil => rfl
  | cons row rest ih =>
      obtain ⟨hrow, hrest⟩ := List.pairwise_cons.mp hsorted
      unfold passed at ih ⊢
      by_cases hle : (row.1.val : ℤ) ≤ m
      · have hle' : (row.1.val : ℤ) ≤ n := hle.trans h
        rw [List.filter_cons, List.filter_cons, List.filter_cons, ih hrest]
        simp only [hle, hle', not_lt_of_ge hle, decide_true, decide_false, Bool.true_and,
          Bool.false_and, Bool.false_eq_true, if_false]
        split <;> rfl
      · -- nothing is at or before the first cursor from here on
        have hnone : (row :: rest).filter (fun row => decide ((row.1.val : ℤ) ≤ m) && p row) =
            [] := by
          rw [List.filter_eq_nil_iff]
          intro r hr
          have hlt : m < r.1.val := by
            rcases List.mem_cons.mp hr with rfl | hr
            · omega
            · have hlt := hrow r hr
              rw [Fin.lt_def] at hlt
              omega
          simp [hlt]
        rw [hnone, List.nil_append]
        apply List.filter_congr
        intro r hr
        have hlt : m < r.1.val := by
          rcases List.mem_cons.mp hr with rfl | hr
          · omega
          · have hlt := hrow r hr
            rw [Fin.lt_def] at hlt
            omega
        simp [hlt]

theorem passed_isPrefix {rows : List (Rowid × α)} (hsorted : InOrder rows) (p : Rowid × α → Bool)
    (cursor : ℤ) : passed p cursor rows <+: rows.filter p := by
  have hall : passed p (max cursor (lastRowid rows cursor)) rows = rows.filter p := by
    apply List.filter_congr
    intro row hrow
    have hle := rowid_le_lastRowid hsorted hrow cursor
    simp [hle]
  rw [← hall, passed_eq_append hsorted (le_max_left cursor (lastRowid rows cursor))]
  exact List.prefix_append _ _

/-- The rows looked at are those up to the last of them. -/
theorem filter_le_lastRowid {rows looked : List (Rowid × α)} (hsorted : InOrder rows)
    (hlooked : looked <+: rows) {start : ℤ} (hstart : ∀ row ∈ rows, start < row.1.val) :
    rows.filter (fun row => decide ((row.1.val : ℤ) ≤ lastRowid looked start)) = looked := by
  obtain ⟨rest, rfl⟩ := hlooked
  have hlookedSorted : InOrder looked := (List.pairwise_append.mp hsorted).1
  have hkept : looked.filter (fun row => decide ((row.1.val : ℤ) ≤ lastRowid looked start)) =
      looked := by
    rw [List.filter_eq_self]
    intro row hrow
    simpa using rowid_le_lastRowid hlookedSorted hrow start
  have hdropped : rest.filter (fun row => decide ((row.1.val : ℤ) ≤ lastRowid looked start)) =
      [] := by
    rw [List.filter_eq_nil_iff]
    intro row hrow
    have hlt : lastRowid looked start < row.1.val := by
      rcases List.eq_nil_or_concat looked with rfl | ⟨front, last, rfl⟩
      · exact hstart row (by simpa using hrow)
      · rw [List.concat_eq_append] at hsorted ⊢
        rw [lastRowid_concat]
        have hlt := (List.pairwise_append.mp hsorted).2.2 last (by simp) row hrow
        rw [Fin.lt_def] at hlt
        omega
    simpa using hlt
  rw [List.filter_append, hkept, hdropped, List.append_nil]

section Advance

variable {rows log looked : List (Rowid × α)} {q taken wanted : Rowid × α → Bool} {m : ℤ}
  (hsorted : InOrder rows) (hlog : log <+: rows)
  (hwanted : ∀ row ∈ log, (q row && taken row) = wanted row)
  (hlooked : looked <+: log.filter fun row => decide (m < row.1.val) && q row)

include hlooked

theorem lt_of_mem_looked : ∀ row ∈ looked, m < row.1.val := by
  intro row hrow
  have hafter := (List.mem_filter.mp (hlooked.subset hrow)).2
  simp only [Bool.and_eq_true, decide_eq_true_eq] at hafter
  exact hafter.1

include hsorted

/-- Rows that were appended after the load are after the cursor, wherever it moves. -/
theorem lastRowid_lt_of_later {more : List (Rowid × α)} (hrows : rows = log ++ more)
    {row : Rowid × α} (hrow : row ∈ more) :
    m < row.1.val → lastRowid looked m < row.1.val := by
  intro hm
  rcases List.eq_nil_or_concat looked with rfl | ⟨front, last, rfl⟩
  · exact hm
  · rw [List.concat_eq_append] at hlooked ⊢
    rw [lastRowid_concat]
    have hlast : last ∈ log := (List.mem_filter.mp (hlooked.subset (by simp))).1
    rw [hrows] at hsorted
    have hlt := (List.pairwise_append.mp hsorted).2.2 last hlast row hrow
    rw [Fin.lt_def] at hlt
    omega

include hlog hwanted

/-- A reader that takes from the rows it looks at those that are wanted has then taken all that
its new cursor has passed, in order. -/
theorem passed_advance :
    passed wanted m rows ++ looked.filter taken = passed wanted (lastRowid looked m) rows := by
  obtain ⟨more, hmore⟩ := hlog
  have hlogSorted : InOrder log := by
    rw [← hmore] at hsorted
    exact (List.pairwise_append.mp hsorted).1
  have hle : m ≤ lastRowid looked m := le_lastRowid (lt_of_mem_looked hlooked)
  rw [passed_eq_append hsorted hle, ← hmore, List.filter_append]
  congr 1
  have hlater : more.filter (fun row => decide (m < row.1.val) &&
      (decide ((row.1.val : ℤ) ≤ lastRowid looked m) && wanted row)) = [] := by
    rw [List.filter_eq_nil_iff]
    intro row hrow
    by_cases hm : m < row.1.val
    · have hlt := lastRowid_lt_of_later hsorted hlooked hmore.symm hrow hm
      simp [hlt]
    · simp [hm]
  rw [hlater, List.append_nil]
  calc looked.filter taken
      = ((log.filter fun row => decide (m < row.1.val) && q row).filter fun row =>
          decide ((row.1.val : ℤ) ≤ lastRowid looked m)).filter taken := by
        rw [filter_le_lastRowid (hlogSorted.filter _) hlooked
          (lt_of_mem_looked List.prefix_rfl)]
    _ = log.filter fun row => decide (m < row.1.val) &&
          (decide ((row.1.val : ℤ) ≤ lastRowid looked m) && wanted row) := by
        rw [List.filter_filter, List.filter_filter]
        apply List.filter_congr
        intro row hrow
        rw [← hwanted row hrow]
        cases decide (m < row.1.val) <;> cases q row <;> cases taken row <;> simp

/-- A reader that has looked at everything after its cursor has passed all that is wanted of the
log it loaded. -/
theorem wanted_prefix_passed
    (hall : looked = log.filter fun row => decide (m < row.1.val) && q row) :
    log.filter wanted <+: passed wanted (lastRowid looked m) rows := by
  obtain ⟨more, hmore⟩ := hlog
  have hlogSorted : InOrder log := by
    rw [← hmore] at hsorted
    exact (List.pairwise_append.mp hsorted).1
  unfold passed
  rw [← hmore, List.filter_append]
  refine ⟨_, congrArg (· ++ _) ?_⟩
  apply List.filter_congr
  intro row hrow
  cases hrowWanted : wanted row with
  | false => simp
  | true =>
      have hqt := hwanted row hrow
      rw [hrowWanted, Bool.and_eq_true] at hqt
      have hle : (row.1.val : ℤ) ≤ lastRowid looked m := by
        by_cases hm : m < row.1.val
        · have hmem : row ∈ looked := by
            rw [hall, List.mem_filter]
            exact ⟨hrow, by simp [hm, hqt.1]⟩
          have hlookedSorted : InOrder looked :=
            (hlogSorted.filter _).sublist hlooked.sublist
          exact rowid_le_lastRowid hlookedSorted hmem m
        · have hle := le_lastRowid (lt_of_mem_looked hlooked)
          omega
      simp [hle]

end Advance

end AgentMemory.Foundation
