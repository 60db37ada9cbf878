import Mathlib.Data.List.Basic

/-! # Replaying changes to keyed rows

A list of changes is applied to a list of rows: each change acts on every row by itself, and an
upsert whose id is missing adds a row. Applied a second time the list adds no rows, and rows
with an upserted id end as they did the first time. -/

namespace AgentMemory.Foundation

inductive Change (α : Type) where
  | modify (f : α → α)
  | upsert (a : α)

section Replay

variable {ι α ρ : Type} [DecidableEq ι] (key : α → ι)

def Change.act : Change α → α → α
  | .modify f, x => f x
  | .upsert a, x => if key x = key a then a else x

/-- What a list of changes makes of one row. -/
def actAll (cs : List (Change α)) (x : α) : α :=
  cs.foldl (fun x c => c.act key x) x

def actOnRows (f : α → α) (rows : List (ρ × α)) : List (ρ × α) :=
  rows.map fun r => (r.1, f r.2)

/-- The rows change from the first to the second list by the changes in order. -/
inductive Replayed : List (Change α) → List (ρ × α) → List (ρ × α) → Prop where
  | nil (rows : List (ρ × α)) : Replayed [] rows rows
  | act {c : Change α} {cs : List (Change α)} {rows rows' : List (ρ × α)}
      (present : ∀ a, c = .upsert a → ∃ r ∈ rows, key r.2 = key a)
      (rest : Replayed cs (actOnRows (c.act key) rows) rows') : Replayed (c :: cs) rows rows'
  | insert {a : α} {i : ρ} {cs : List (Change α)} {rows rows' : List (ρ × α)}
      (fresh : ∀ r ∈ rows, key r.2 ≠ key a)
      (rest : Replayed cs (rows ++ [(i, a)]) rows') : Replayed (.upsert a :: cs) rows rows'

/-- No modification changes the id of a row. -/
def KeepsKeys (cs : List (Change α)) : Prop :=
  ∀ f, .modify f ∈ cs → ∀ x, key (f x) = key x

variable {key}

omit [DecidableEq ι] in
theorem KeepsKeys.tail {c : Change α} {cs : List (Change α)} (h : KeepsKeys key (c :: cs)) :
    KeepsKeys key cs :=
  fun f hf => h f (List.mem_cons_of_mem _ hf)

theorem key_act {c : Change α} {cs : List (Change α)} (h : KeepsKeys key (c :: cs)) (x : α) :
    key (c.act key x) = key x := by
  cases c with
  | modify f => exact h f List.mem_cons_self x
  | upsert a =>
      simp only [Change.act]
      split
      · next heq => exact heq.symm
      · rfl

theorem key_actAll {cs : List (Change α)} (h : KeepsKeys key cs) (x : α) :
    key (actAll key cs x) = key x := by
  induction cs generalizing x with
  | nil => rfl
  | cons c cs ih =>
      change key (actAll key cs (c.act key x)) = key x
      rw [ih h.tail, key_act h]

/-- After the last upsert of an id it does not matter what the row was before. -/
theorem actAll_upsert {before after : List (Change α)} {a : α}
    (h : KeepsKeys key (before ++ .upsert a :: after)) {x : α} (hx : key x = key a) :
    actAll key (before ++ .upsert a :: after) x = actAll key after a := by
  have hbefore : KeepsKeys key before := fun f hf => h f (List.mem_append_left _ hf)
  have hkey : key (actAll key before x) = key a := (key_actAll hbefore x).trans hx
  unfold actAll at hkey ⊢
  rw [List.foldl_append, List.foldl_cons, Change.act, if_pos hkey]

theorem actAll_actAll_of_upsert {cs : List (Change α)} (h : KeepsKeys key cs) {a x : α}
    (ha : .upsert a ∈ cs) (hx : key x = key a) :
    actAll key cs (actAll key cs x) = actAll key cs x := by
  obtain ⟨before, after, rfl⟩ := List.append_of_mem ha
  rw [actAll_upsert h hx, actAll_upsert h]
  have hafter : KeepsKeys key after :=
    fun f hf => h f (List.mem_append_right _ (List.mem_cons_of_mem _ hf))
  exact key_actAll hafter a

theorem mem_actOnRows {f : α → α} {rows : List (ρ × α)} {r : ρ × α} (hr : r ∈ actOnRows f rows) :
    ∃ q ∈ rows, r = (q.1, f q.2) := by
  obtain ⟨q, hq, rfl⟩ := List.mem_map.mp hr
  exact ⟨q, hq, rfl⟩

/-- A row comes from one that was there before, or from an upsert of the list. -/
theorem Replayed.mem_cases {cs : List (Change α)} {rows rows' : List (ρ × α)}
    (h : Replayed key cs rows rows') {r : ρ × α} (hr : r ∈ rows') :
    (∃ q ∈ rows, r = (q.1, actAll key cs q.2)) ∨
      ∃ before a after, cs = before ++ .upsert a :: after ∧ r.2 = actAll key after a := by
  induction h with
  | nil rows => exact .inl ⟨r, hr, rfl⟩
  | @act c cs rows rows' present rest ih =>
      rcases ih hr with ⟨q, hq, rfl⟩ | ⟨before, a, after, rfl, heq⟩
      · obtain ⟨q', hq', rfl⟩ := mem_actOnRows hq
        exact .inl ⟨q', hq', rfl⟩
      · exact .inr ⟨c :: before, a, after, rfl, heq⟩
  | @insert a i cs rows rows' fresh rest ih =>
      rcases ih hr with ⟨q, hq, rfl⟩ | ⟨before, a', after, rfl, heq⟩
      · rcases List.mem_append.mp hq with hq | hq
        · refine .inl ⟨q, hq, ?_⟩
          change _ = (q.1, actAll key cs (Change.act key (.upsert a) q.2))
          rw [Change.act, if_neg (fresh q hq)]
        · rw [List.mem_singleton.mp hq]
          exact .inr ⟨[], a, cs, rfl, rfl⟩
      · exact .inr ⟨.upsert a :: before, a', after, rfl, heq⟩

/-- Ids do not disappear. -/
theorem Replayed.exists_key {cs : List (Change α)} (hkeeps : KeepsKeys key cs)
    {rows rows' : List (ρ × α)} (h : Replayed key cs rows rows') {k : ι}
    (hk : ∃ r ∈ rows, key r.2 = k) : ∃ r ∈ rows', key r.2 = k := by
  induction h with
  | nil rows => exact hk
  | act present rest ih =>
      obtain ⟨r, hr, rfl⟩ := hk
      exact ih hkeeps.tail ⟨_, List.mem_map.mpr ⟨r, hr, rfl⟩, key_act hkeeps r.2⟩
  | insert fresh rest ih =>
      obtain ⟨r, hr, rfl⟩ := hk
      exact ih hkeeps.tail ⟨r, List.mem_append_left _ hr, rfl⟩

theorem Replayed.exists_upserted {cs : List (Change α)} (hkeeps : KeepsKeys key cs)
    {rows rows' : List (ρ × α)} (h : Replayed key cs rows rows') {a : α} (ha : .upsert a ∈ cs) :
    ∃ r ∈ rows', key r.2 = key a := by
  induction h with
  | nil rows => cases ha
  | @act c cs rows rows' present rest ih =>
      rcases List.mem_cons.mp ha with rfl | ha
      · obtain ⟨r, hr, hkey⟩ := present a rfl
        refine rest.exists_key hkeeps.tail ⟨_, List.mem_map.mpr ⟨r, hr, rfl⟩, ?_⟩
        exact (key_act hkeeps r.2).trans hkey
      · exact ih hkeeps.tail ha
  | @insert a' i cs rows rows' fresh rest ih =>
      rcases List.mem_cons.mp ha with heq | ha
      · cases heq
        exact rest.exists_key hkeeps.tail
          ⟨(i, a), List.mem_append_right _ (List.mem_singleton_self _), rfl⟩
      · exact ih hkeeps.tail ha

/-- When every upserted id is there, no row is added. -/
theorem Replayed.eq_actOnRows {cs : List (Change α)} (hkeeps : KeepsKeys key cs)
    {rows rows' : List (ρ × α)} (h : Replayed key cs rows rows')
    (hpresent : ∀ a, .upsert a ∈ cs → ∃ r ∈ rows, key r.2 = key a) :
    rows' = actOnRows (actAll key cs) rows := by
  induction h with
  | nil rows => simp [actOnRows, actAll]
  | @act c cs rows rows' present rest ih =>
      rw [ih hkeeps.tail]
      · simp only [actOnRows, List.map_map]
        rfl
      · intro a ha
        obtain ⟨r, hr, hkey⟩ := hpresent a (List.mem_cons_of_mem _ ha)
        exact ⟨_, List.mem_map.mpr ⟨r, hr, rfl⟩, (key_act hkeeps r.2).trans hkey⟩
  | @insert a i cs rows rows' fresh rest ih =>
      obtain ⟨r, hr, hkey⟩ := hpresent a List.mem_cons_self
      exact absurd hkey (fresh r hr)

/-- A second replay changes nothing, if it leaves alone every row that the list only modifies. -/
theorem Replayed.twice {cs : List (Change α)} (hkeeps : KeepsKeys key cs)
    (hmodify : ∀ x, (∀ a, .upsert a ∈ cs → key x ≠ key a) →
      actAll key cs (actAll key cs x) = actAll key cs x)
    {rows rows₁ rows₂ : List (ρ × α)} (h₁ : Replayed key cs rows rows₁)
    (h₂ : Replayed key cs rows₁ rows₂) : rows₂ = rows₁ := by
  rw [h₂.eq_actOnRows hkeeps fun a ha => h₁.exists_upserted hkeeps ha]
  refine (List.map_congr_left ?_).trans (List.map_id _)
  intro r hr
  have hfixed : actAll key cs r.2 = r.2 := by
    rcases h₁.mem_cases hr with ⟨q, -, rfl⟩ | ⟨before, a, after, rfl, heq⟩
    · by_cases hupserted : ∃ a, .upsert a ∈ cs ∧ key q.2 = key a
      · obtain ⟨a, ha, hkey⟩ := hupserted
        exact actAll_actAll_of_upsert hkeeps ha hkey
      · exact hmodify q.2 fun a ha hkey => hupserted ⟨a, ha, hkey⟩
    · have hafter : KeepsKeys key after :=
        fun f hf => hkeeps f (List.mem_append_right _ (List.mem_cons_of_mem _ hf))
      rw [heq]
      exact actAll_upsert hkeeps (key_actAll hafter a)
  rw [hfixed]
  rfl

end Replay

end AgentMemory.Foundation
