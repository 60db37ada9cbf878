import Mathlib.Algebra.GroupWithZero.Nat
import Mathlib.Data.Fin.Basic
import Mathlib.Data.List.Perm.Basic
import Mathlib.Data.List.Pairwise
import Mathlib.Data.Nat.Notation

/-! # Tables in rowid order, and the content index kept beside a table

The rows of a table are in ascending order of their positive rowids, which are fields of the
type, so that a scan is the row list itself and rowids are unique by construction. -/

namespace AgentMemory.Foundation

/-- Rowids are signed 64-bit integers; those assigned automatically are positive. -/
abbrev Rowid := Fin (2 ^ 63)

instance rowidBound_neZero : NeZero (2 ^ 63) :=
  ⟨by decide⟩

structure Table (α : Type) where
  rows : List (Rowid × α)
  sorted : rows.Pairwise fun a b => a.1 < b.1
  positive : ∀ r ∈ rows, 0 < r.1

namespace Table

variable {α : Type}

def empty : Table α :=
  ⟨[], .nil, by simp⟩

/-- One more than the largest rowid in use; `none` when the rowids are exhausted. -/
def nextRowid (t : Table α) : Option Rowid :=
  match t.rows.getLast? with
  | none => some ⟨1, by decide⟩
  | some last => if h : last.1.val + 1 < 2 ^ 63 then some ⟨last.1.val + 1, h⟩ else none

theorem lt_nextRowid {t : Table α} {i : Rowid} (h : t.nextRowid = some i) :
    ∀ r ∈ t.rows, r.1 < i := by
  intro r hr
  rcases List.eq_nil_or_concat t.rows with hnil | ⟨front, last, hrows⟩
  · simp [hnil] at hr
  · rw [List.concat_eq_append] at hrows
    simp only [nextRowid, hrows, List.getLast?_append, List.getLast?_singleton,
      Option.some_or] at h
    split at h
    · have hi : last.1.val + 1 = i.val := congrArg Fin.val (Option.some.inj h)
      have hsorted := t.sorted
      rw [hrows, List.pairwise_append] at hsorted
      rw [hrows, List.mem_append, List.mem_singleton] at hr
      have hle : r.1.val ≤ last.1.val := by
        rcases hr with hr | rfl
        · exact Nat.le_of_lt (hsorted.2.2 r hr last (by simp))
        · exact Nat.le_refl _
      exact Fin.lt_def.mpr (by omega)
    · cases h

theorem nextRowid_pos {t : Table α} {i : Rowid} (h : t.nextRowid = some i) : 0 < i := by
  unfold nextRowid at h
  split at h
  · cases h
    decide
  · split at h
    · cases h
      exact Fin.lt_def.mpr (Nat.succ_pos _)
    · cases h

/-- A new row at the end; `none` when the rowids are exhausted. -/
def insert (a : α) (t : Table α) : Option (Table α) :=
  match h : t.nextRowid with
  | none => none
  | some i => some
      { rows := t.rows ++ [(i, a)]
        sorted := by
          refine List.pairwise_append.mpr ⟨t.sorted, by simp, ?_⟩
          intro r hr s hs
          rw [List.mem_singleton.mp hs]
          exact lt_nextRowid h r hr
        positive := by
          intro r hr
          rcases List.mem_append.mp hr with hr | hr
          · exact t.positive r hr
          · rw [List.mem_singleton.mp hr]
            exact nextRowid_pos h }

/-- Every row that satisfies `p` is replaced by its image under `f`, in place. -/
def update (p : α → Bool) (f : α → α) (t : Table α) : Table α where
  rows := t.rows.map fun r => (r.1, if p r.2 then f r.2 else r.2)
  sorted := by
    rw [List.pairwise_map]
    exact t.sorted
  positive := by
    intro r hr
    obtain ⟨q, hq, rfl⟩ := List.mem_map.mp hr
    exact t.positive q hq

theorem insert_eq_some {a : α} {t t' : Table α} (h : t.insert a = some t') :
    ∃ i, t.nextRowid = some i ∧ t'.rows = t.rows ++ [(i, a)] := by
  unfold insert at h
  split at h
  · cases h
  · next i hi =>
      cases h
      exact ⟨i, hi, rfl⟩

/-- An update of rows outside of a selection, which stay outside of it, does not change what is
selected. -/
theorem filter_update (q : α → Bool) {p : α → Bool} {f : α → α} {t : Table α}
    (h : ∀ r ∈ t.rows, p r.2 = true → q r.2 = false ∧ q (f r.2) = false) :
    (t.update p f).rows.filter (fun r => q r.2) = t.rows.filter fun r => q r.2 := by
  unfold update
  dsimp only
  generalize t.rows = rows at h
  induction rows with
  | nil => rfl
  | cons r rest ih =>
      have hrest := ih fun s hs => h s (List.mem_cons_of_mem _ hs)
      cases hp : p r.2 with
      | false => simp [hp, List.filter_cons, hrest]
      | true =>
          obtain ⟨hold, hnew⟩ := h r List.mem_cons_self hp
          simp [hp, hold, hnew, hrest]

theorem insert_eq_none_iff {a : α} {t : Table α} : t.insert a = none ↔ t.nextRowid = none := by
  unfold insert
  split
  · next h => simp [h]
  · next i h => simp [h]

theorem nextRowid_update (p : α → Bool) (f : α → α) (t : Table α) :
    (t.update p f).nextRowid = t.nextRowid := by
  unfold nextRowid update
  simp only [List.getLast?_map]
  cases t.rows.getLast? <;> rfl

/-- An update leaves the rows as they are exactly when it maps each one it selects to itself. -/
theorem update_rows_eq_iff {p : α → Bool} {f : α → α} {t : Table α} :
    (t.update p f).rows = t.rows ↔ ∀ r ∈ t.rows, p r.2 = true → f r.2 = r.2 := by
  constructor
  · intro h r hr hp
    have hmap := List.map_inj_left.mp (h.trans (List.map_id t.rows).symm) r hr
    simpa [hp] using congrArg Prod.snd hmap
  · intro h
    refine (List.map_congr_left fun r hr => ?_).trans (List.map_id t.rows)
    cases hp : p r.2 with
    | true => exact Prod.ext rfl (h r hr hp)
    | false => rfl

/-- In rowid order, every row is the last one or before it. -/
theorem eq_or_lt_of_getLast? {rows : List (Rowid × α)} (hsorted : rows.Pairwise fun a b => a.1 < b.1)
    {row last : Rowid × α} (hlast : rows.getLast? = some last) (hrow : row ∈ rows) :
    row = last ∨ row.1 < last.1 := by
  obtain ⟨front, rfl⟩ := List.getLast?_eq_some_iff.mp hlast
  rw [List.pairwise_append] at hsorted
  rcases List.mem_append.mp hrow with hfront | hrow
  · exact .inr (hsorted.2.2 row hfront last (List.mem_singleton_self _))
  · exact .inl (List.mem_singleton.mp hrow)

/-- A prefix that ends at the rowid at which the rows end is all of them. -/
theorem eq_of_prefix_of_getLast? {front rows : List (Rowid × α)}
    (hsorted : rows.Pairwise fun a b => a.1 < b.1) (hfront : front <+: rows) {row last : Rowid × α}
    (hrow : front.getLast? = some row) (hlast : rows.getLast? = some last)
    (heq : row.1 = last.1) : front = rows := by
  obtain ⟨rest, rfl⟩ := hfront
  rcases List.eq_nil_or_concat rest with rfl | ⟨middle, x, rfl⟩
  · simp
  · have hx : x = last := by simpa [List.getLast?_append] using hlast
    have hlt := (List.pairwise_append.mp hsorted).2.2 row (List.mem_of_getLast? hrow) x (by simp)
    rw [hx, heq] at hlt
    exact absurd hlt (Fin.lt_irrefl _)

theorem rowids_nodup (t : Table α) : (t.rows.map Prod.fst).Nodup := by
  rw [List.nodup_iff_pairwise_ne, List.pairwise_map]
  exact t.sorted.imp fun h => Fin.ne_of_lt h

end Table

/-! ## The content index -/

/-- An index with one entry for each row. `intact` turns false once a deletion has named an
entry that was not present with exactly those columns. -/
structure Index (κ : Type) where
  entries : List (Rowid × κ)
  intact : Bool

/-- What a trigger asks of an index. A deletion names the entry with all its columns. -/
inductive IndexCommand (κ : Type) where
  | insert (e : Rowid × κ)
  | delete (e : Rowid × κ)

namespace Index

variable {κ : Type}

def empty : Index κ :=
  ⟨[], true⟩

def insert (e : Rowid × κ) (ix : Index κ) : Index κ :=
  { ix with entries := ix.entries ++ [e] }

def delete [DecidableEq κ] (e : Rowid × κ) (ix : Index κ) : Index κ :=
  if e ∈ ix.entries then { ix with entries := ix.entries.erase e }
  else { ix with intact := false }

/-- The commands of a trigger, in order. -/
def execute [DecidableEq κ] (ix : Index κ) (commands : List (IndexCommand κ)) : Index κ :=
  commands.foldl (fun ix command =>
    match command with
    | .insert e => ix.insert e
    | .delete e => ix.delete e) ix

end Index

/-- The triggers of a table: what they ask of its index after a row has been inserted, and after
one has been changed into another. -/
structure IndexTriggers (α κ : Type) where
  afterInsert : Rowid × α → List (IndexCommand κ)
  afterUpdate : Rowid × α → Rowid × α → List (IndexCommand κ)

/-- A table with the index of some columns of its rows. -/
structure IndexedTable (α κ : Type) where
  table : Table α
  index : Index κ

namespace IndexedTable

variable {α κ : Type} [DecidableEq κ] (triggers : IndexTriggers α κ)

def empty : IndexedTable α κ :=
  ⟨.empty, .empty⟩

def rows (t : IndexedTable α κ) : List (Rowid × α) :=
  t.table.rows

/-- An insertion, after which the insert trigger is fired for the new row. -/
def insert (a : α) (t : IndexedTable α κ) : Option (IndexedTable α κ) :=
  match t.table.nextRowid, t.table.insert a with
  | some i, some table => some ⟨table, t.index.execute (triggers.afterInsert (i, a))⟩
  | _, _ => none

/-- An update; the update trigger is fired after each changed row. -/
def update (p : α → Bool) (f : α → α) (t : IndexedTable α κ) : IndexedTable α κ where
  table := t.table.update p f
  index := t.rows.foldl (fun ix r =>
    if p r.2 then ix.execute (triggers.afterUpdate r (r.1, f r.2)) else ix) t.index

theorem insert_eq_some {a : α} {t t' : IndexedTable α κ} (h : insert triggers a t = some t') :
    ∃ i, t.table.nextRowid = some i ∧ t'.rows = t.rows ++ [(i, a)] ∧
      t'.index = t.index.execute (triggers.afterInsert (i, a)) := by
  unfold insert at h
  split at h
  · next i table hi htable =>
      cases h
      obtain ⟨j, hj, hrows⟩ := Table.insert_eq_some htable
      rw [hi] at hj
      cases hj
      exact ⟨i, hi, hrows, rfl⟩
  · cases h

theorem insert_eq_none_iff {a : α} {t : IndexedTable α κ} :
    insert triggers a t = none ↔ t.table.nextRowid = none := by
  unfold insert
  split
  · next i table hi _ => simp [hi]
  · next hnone =>
      refine ⟨fun _ => ?_, fun _ => rfl⟩
      by_contra hi
      obtain ⟨i, hi⟩ := Option.ne_none_iff_exists'.mp hi
      cases htable : t.table.insert a with
      | none =>
          rw [Table.insert_eq_none_iff, hi] at htable
          cases htable
      | some table => exact hnone i table hi htable

@[simp] theorem update_rows (p : α → Bool) (f : α → α) (t : IndexedTable α κ) :
    (update triggers p f t).rows = t.rows.map fun r => (r.1, if p r.2 then f r.2 else r.2) :=
  rfl

/-! ### Triggers that keep the index in step -/

variable (columns : α → κ)

/-- The index entry that a row calls for. -/
def entry (r : Rowid × α) : Rowid × κ :=
  (r.1, columns r.2)

/-- The triggers enter a new row, and replace the entry of a changed one by its new entry. -/
structure Maintains : Prop where
  afterInsert : ∀ r, triggers.afterInsert r = [.insert (entry columns r)]
  afterUpdate : ∀ r r', triggers.afterUpdate r r' =
    [.delete (entry columns r), .insert (entry columns r')]

/-- The index holds exactly the entries that the rows call for. -/
def Synced (t : IndexedTable α κ) : Prop :=
  t.index.intact = true ∧ t.index.entries.Perm (t.rows.map (entry columns))

omit [DecidableEq κ] in
theorem synced_empty : Synced columns (empty : IndexedTable α κ) :=
  ⟨rfl, .nil⟩

variable {triggers columns}

theorem Synced.insert (htriggers : Maintains triggers columns) {a : α} {t t' : IndexedTable α κ}
    (hs : Synced columns t) (h : insert triggers a t = some t') : Synced columns t' := by
  obtain ⟨i, -, hrows, hindex⟩ := insert_eq_some triggers h
  rw [htriggers.afterInsert] at hindex
  refine ⟨by rw [hindex]; exact hs.1, ?_⟩
  rw [hindex, hrows, List.map_append]
  exact hs.2.append_right _

/-- The index after some rows of an update have been processed: entries of the processed
rows are new, those of the remaining rows still old. -/
private theorem foldl_update_synced (htriggers : Maintains triggers columns) (p : α → Bool)
    (f : α → α) (rest : List (Rowid × α)) (done : List (Rowid × κ)) (ix : Index κ)
    (hintact : ix.intact = true) (hperm : ix.entries.Perm (done ++ rest.map (entry columns))) :
    let ix' := rest.foldl (fun ix r =>
      if p r.2 then ix.execute (triggers.afterUpdate r (r.1, f r.2)) else ix) ix
    ix'.intact = true ∧ ix'.entries.Perm (done ++ rest.map fun r =>
      entry columns (r.1, if p r.2 then f r.2 else r.2)) := by
  induction rest generalizing done ix with
  | nil => exact ⟨hintact, hperm⟩
  | cons r rest ih =>
      have hassoc : ∀ e : Rowid × κ, ∀ es : List (Rowid × κ), done ++ e :: es = done ++ [e] ++ es :=
        by simp
      simp only [List.map_cons, List.foldl_cons] at hperm ⊢
      cases hp : p r.2 with
      | false =>
          rw [if_neg (by decide), if_neg (by decide), hassoc]
          rw [hassoc] at hperm
          exact ih _ _ hintact hperm
      | true =>
          have hmem : entry columns r ∈ ix.entries := hperm.mem_iff.mpr (by simp)
          rw [if_pos rfl, if_pos rfl, hassoc, htriggers.afterUpdate]
          apply ih
          · simpa [Index.execute, Index.insert, Index.delete, hmem] using hintact
          · simp only [Index.execute, List.foldl_cons, List.foldl_nil, Index.insert, Index.delete,
              hmem, if_true]
            have herase := hperm.erase (entry columns r)
            have hmiddle : (done ++ entry columns r :: rest.map (entry columns)).Perm
                (entry columns r :: (done ++ rest.map (entry columns))) := List.perm_middle
            have hrest := herase.trans (hmiddle.erase (entry columns r))
            rw [List.erase_cons_head] at hrest
            refine (hrest.append_right _).trans ?_
            rw [List.append_assoc, List.append_assoc]
            exact List.Perm.append_left _ List.perm_append_comm

theorem Synced.update (htriggers : Maintains triggers columns) {p : α → Bool} {f : α → α}
    {t : IndexedTable α κ} (hs : Synced columns t) : Synced columns (update triggers p f t) := by
  have h := foldl_update_synced htriggers p f t.rows [] t.index hs.1 (by simpa using hs.2)
  refine ⟨h.1, ?_⟩
  simpa [IndexedTable.update, rows, Table.update, Function.comp_def] using h.2

variable (columns)

omit [DecidableEq κ]

/-- Every row has exactly one entry under its rowid, with the row's current columns, and there
is no other entry; and every deletion so far named an entry that was present. -/
structure Exact (t : IndexedTable α κ) : Prop where
  oneEntry : ∀ r ∈ t.rows, t.index.entries.filter (fun e => e.1 = r.1) = [entry columns r]
  noOther : ∀ e ∈ t.index.entries, ∃ r ∈ t.rows, e = entry columns r
  intact : t.index.intact = true

theorem Synced.exact {t : IndexedTable α κ} (hs : Synced columns t) : Exact columns t := by
  refine ⟨?_, ?_, hs.1⟩
  · intro r hr
    have hnodup := t.table.rowids_nodup
    have hrows : t.rows.filter (fun s => s.1 = r.1) = [r] := by
      obtain ⟨front, back, hsplit⟩ := List.append_of_mem hr
      have hn : ((front ++ r :: back).map Prod.fst).Nodup := by
        rw [← hsplit]
        exact hnodup
      rw [List.map_append, List.map_cons, List.perm_middle.nodup_iff, List.nodup_cons,
        List.mem_append, not_or] at hn
      have hout : ∀ xs : List (Rowid × α), r.1 ∉ xs.map Prod.fst →
          xs.filter (fun s => s.1 = r.1) = [] := by
        intro xs hx
        rw [List.filter_eq_nil_iff]
        intro s hmem hEq
        exact hx (List.mem_map.mpr ⟨s, hmem, by simpa using hEq⟩)
      rw [hsplit, List.filter_append, List.filter_cons, hout _ hn.1.1, hout _ hn.1.2]
      simp
    have hperm := hs.2.filter (fun e => e.1 = r.1)
    rw [List.filter_map] at hperm
    have hcomp : ((fun e : Rowid × κ => decide (e.1 = r.1)) ∘ entry columns) =
        fun s => decide (s.1 = r.1) := rfl
    rw [hcomp, hrows] at hperm
    exact List.perm_singleton.mp hperm
  · intro e he
    obtain ⟨r, hr, hre⟩ := List.mem_map.mp (hs.2.mem_iff.mp he)
    exact ⟨r, hr, hre.symm⟩

end IndexedTable

end AgentMemory.Foundation
