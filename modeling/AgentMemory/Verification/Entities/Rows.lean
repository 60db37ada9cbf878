import AgentMemory.Verification.Store.Frame

/-! # What the statements do to the entity rows -/

namespace AgentMemory

open Foundation

/-- The columns for which at most one row shall be active. -/
abbrev EntityKey := SqlText × SqlText × SqlText

def EntityValues.key (v : EntityValues) : EntityKey :=
  (v.agentId, v.entityType, v.name)

def Database.entityRows (db : Database) : List (Rowid × EntityRow) :=
  db.entities.rows

/-- Every id occurs in one entity row only. -/
def Database.EntityIdsUnique (db : Database) : Prop :=
  (db.entityRows.map fun r => r.2.id).Nodup

theorem Database.EntityIdsUnique.eq {db : Database} (h : db.EntityIdsUnique)
    {r r' : Rowid × EntityRow} (hr : r ∈ db.entityRows) (hr' : r' ∈ db.entityRows)
    (hid : r.2.id = r'.2.id) : r = r' :=
  List.inj_on_of_nodup_map h hr hr' hid

/-! ## Retiring rows -/

theorem obsolete_active (now : Text) (supersededBy : SqlText) (r : EntityRow) :
    (r.obsolete now supersededBy).active = false := rfl

section Retire

variable {p : EntityRow → Bool} {now : Text} {supersededBy : SqlText} {db : Database}

/-- Only rows that were active before and are not retired are active afterwards. -/
theorem mem_retire_of_active {r : Rowid × EntityRow}
    (hr : r ∈ (db.updateEntities p (EntityRow.obsolete now supersededBy)).entityRows)
    (hactive : r.2.active = true) : r ∈ db.entityRows ∧ p r.2 = false := by
  obtain ⟨q, hq, rfl⟩ := List.mem_map.mp hr
  cases hp : p q.2 with
  | true =>
      simp only [hp, if_true] at hactive
      rw [obsolete_active] at hactive
      cases hactive
  | false =>
      have hmem : q ∈ db.entityRows := hq
      simpa [hp] using hmem

theorem mem_retire_of_mem {r : Rowid × EntityRow} (hr : r ∈ db.entityRows) (hp : p r.2 = false) :
    r ∈ (db.updateEntities p (EntityRow.obsolete now supersededBy)).entityRows :=
  List.mem_map.mpr ⟨r, hr, by simp [hp]⟩

theorem EntityIdsUnique.retire (h : db.EntityIdsUnique) :
    (db.updateEntities p (EntityRow.obsolete now supersededBy)).EntityIdsUnique := by
  have hids : ∀ r : Rowid × EntityRow,
      (if p r.2 then r.2.obsolete now supersededBy else r.2).id = r.2.id := by
    intro r
    split <;> rfl
  simpa [Database.EntityIdsUnique, Database.entityRows, Database.updateEntities,
    Function.comp_def, hids] using h

end Retire

/-! ## Upserting a row -/

section Upsert

variable {now : Text} {v : EntityValues} {db db' : Database}

/-- An upsert overwrites the row with its id in place, or adds one at the end. -/
theorem upsertEntity_rows (h : (Write.upsertEntity v).effect now db = some db') :
    ((∃ r ∈ db.entityRows, r.2.id = v.id) ∧ db'.entityRows = db.entityRows.map fun r =>
        (r.1, if r.2.id = v.id then { v with createdAt := r.2.createdAt, updatedAt := now }
          else r.2)) ∨
      ((∀ r ∈ db.entityRows, r.2.id ≠ v.id) ∧ ∃ i, db'.entityRows = db.entityRows ++
        [(i, { v with createdAt := now, updatedAt := now })]) := by
  simp only [Write.effect] at h
  split at h
  · next hany =>
      cases h
      refine .inl ⟨?_, ?_⟩
      · simpa [Database.entityRows] using hany
      · simp [Database.entityRows, Database.updateEntities]
  · next hany =>
      obtain ⟨entities, hins, h⟩ := Option.bind_eq_some_iff.mp h
      cases h
      obtain ⟨i, -, hrows, -⟩ := IndexedTable.insert_eq_some _ hins
      refine .inr ⟨?_, i, hrows⟩
      simpa [Database.entityRows] using hany

theorem mem_upsert_cases (h : (Write.upsertEntity v).effect now db = some db')
    {r : Rowid × EntityRow} (hr : r ∈ db'.entityRows) :
    (r ∈ db.entityRows ∧ r.2.id ≠ v.id) ∨ r.2.toEntityValues = v := by
  rcases upsertEntity_rows h with ⟨-, hrows⟩ | ⟨hfresh, i, hrows⟩
  · rw [hrows] at hr
    obtain ⟨q, hq, rfl⟩ := List.mem_map.mp hr
    by_cases hid : q.2.id = v.id
    · exact .inr (by simp [hid])
    · exact .inl (by simpa [hid] using hq)
  · rw [hrows, List.mem_append, List.mem_singleton] at hr
    rcases hr with hr | rfl
    · exact .inl ⟨hr, hfresh r hr⟩
    · exact .inr rfl

theorem mem_upsert_of_mem (h : (Write.upsertEntity v).effect now db = some db')
    {r : Rowid × EntityRow} (hr : r ∈ db.entityRows) (hid : r.2.id ≠ v.id) :
    r ∈ db'.entityRows := by
  rcases upsertEntity_rows h with ⟨-, hrows⟩ | ⟨-, i, hrows⟩
  · rw [hrows]
    exact List.mem_map.mpr ⟨r, hr, by simp [hid]⟩
  · rw [hrows]
    exact List.mem_append_left _ hr

theorem exists_mem_upsert (h : (Write.upsertEntity v).effect now db = some db') :
    ∃ r ∈ db'.entityRows, r.2.toEntityValues = v := by
  rcases upsertEntity_rows h with ⟨⟨q, hq, hid⟩, hrows⟩ | ⟨-, i, hrows⟩
  · rw [hrows]
    exact ⟨_, List.mem_map.mpr ⟨q, hq, rfl⟩, by simp [hid]⟩
  · rw [hrows]
    exact ⟨_, List.mem_append_right _ (List.mem_singleton_self _), rfl⟩

theorem EntityIdsUnique.upsert (h : (Write.upsertEntity v).effect now db = some db')
    (hids : db.EntityIdsUnique) : db'.EntityIdsUnique := by
  rcases upsertEntity_rows h with ⟨-, hrows⟩ | ⟨hfresh, i, hrows⟩
  · have hsame : ∀ r : Rowid × EntityRow,
        (if r.2.id = v.id then { v with createdAt := r.2.createdAt, updatedAt := now }
          else r.2 : EntityRow).id = r.2.id := by
      intro r
      split
      · next hid => exact hid.symm
      · rfl
    have hmap : db'.entityRows.map (fun r => r.2.id) = db.entityRows.map fun r => r.2.id := by
      rw [hrows, List.map_map]
      exact List.map_congr_left fun r _ => hsame r
    unfold Database.EntityIdsUnique
    rw [hmap]
    exact hids
  · unfold Database.EntityIdsUnique
    rw [hrows, List.map_append, List.nodup_append]
    refine ⟨hids, by simp, ?_⟩
    intro id hid id' hid'
    obtain ⟨r, hr, rfl⟩ := List.mem_map.mp hid
    rw [List.map_singleton, List.mem_singleton] at hid'
    rw [hid']
    exact hfresh r hr

end Upsert

end AgentMemory
