import Mathlib.Data.List.Infix
import Mathlib.Logic.Function.Basic

/-! # Catalogues and the statements that extend them

A catalogue is what a database file holds. Tables, views, virtual tables and indexes share one name
space, triggers have another. A definition creates what it names unless the name is taken already,
whatever it stands for, so a step made of definitions ensures that names are taken, and does
nothing once they are. That they stand for what the definitions say is another matter. -/

namespace AgentMemory.Foundation

/-! ## Tables -/

/-- A table with its rows by position. A column is a name with its declaration; `primaryKey` is a
constraint of the whole table, empty if there is none. -/
structure StoredTable (N D V : Type) where
  columns : List (N × D)
  primaryKey : List N
  rows : List (List V)
  aligned : ∀ row ∈ rows, row.length = columns.length

namespace StoredTable

variable {N D V : Type}

def create (columns : List (N × D)) (primaryKey : List N) : StoredTable N D V :=
  ⟨columns, primaryKey, [], by simp⟩

def columnNames (t : StoredTable N D V) : List N :=
  t.columns.map Prod.fst

/-- A further column, with its default in every row. -/
def addColumn (column : N × D) (default : V) (t : StoredTable N D V) : StoredTable N D V where
  columns := t.columns ++ [column]
  primaryKey := t.primaryKey
  rows := t.rows.map (· ++ [default])
  aligned := by
    intro row hrow
    obtain ⟨old, hold, rfl⟩ := List.mem_map.mp hrow
    simp [t.aligned old hold]

/-- The columns are still there, with the values they had. -/
structure Preserves (t t' : StoredTable N D V) : Prop where
  columns : t.columns <+: t'.columns
  primaryKey : t'.primaryKey = t.primaryKey
  values : t'.rows.map (·.take t.columns.length) = t.rows

theorem Preserves.refl (t : StoredTable N D V) : t.Preserves t := by
  refine ⟨List.prefix_refl _, rfl, ?_⟩
  have hrows : t.rows.map (·.take t.columns.length) = t.rows.map id := by
    apply List.map_congr_left
    intro row hrow
    exact List.take_of_length_le (by rw [t.aligned row hrow])
  rw [hrows, List.map_id]

theorem Preserves.trans {t t' t'' : StoredTable N D V} (h : t.Preserves t')
    (h' : t'.Preserves t'') : t.Preserves t'' := by
  refine ⟨h.columns.trans h'.columns, h'.primaryKey.trans h.primaryKey, ?_⟩
  rw [← h.values, ← h'.values, List.map_map]
  apply List.map_congr_left
  intro row _
  simp [List.take_take, h.columns.length_le]

theorem Preserves.columnNames {t t' : StoredTable N D V} (h : t.Preserves t') :
    t.columnNames ⊆ t'.columnNames :=
  List.map_subset _ h.columns.subset

theorem preserves_addColumn (column : N × D) (value : V) (t : StoredTable N D V) :
    t.Preserves (t.addColumn column value) := by
  refine ⟨List.prefix_append _ _, rfl, ?_⟩
  have hrows : (t.addColumn column value).rows.map (·.take t.columns.length) = t.rows.map id := by
    simp only [addColumn, List.map_map]
    apply List.map_congr_left
    intro row hrow
    simp [← t.aligned row hrow]
  rw [hrows, List.map_id]

end StoredTable

/-! ## Objects -/

/-- An object of a database file other than a trigger. An index is plain if it is not unique, covers
all rows and has nothing but ascending columns. A shadow table holds the data of a virtual table. -/
inductive CatalogObject (N D V F : Type) where
  | table (t : StoredTable N D V)
  | view (columns : List N)
  | virtualTable (definition : F) (columns : List N)
  | shadowTable
  | index (onTable : N) (columns : List N) (isPlain : Bool)

namespace CatalogObject

variable {N D V F : Type}

def isIndex : CatalogObject N D V F → Bool
  | .index .. => true
  | _ => false

/-- It stores rows of its own, so that a trigger can be created on it. -/
def isStored : CatalogObject N D V F → Bool
  | .table _ | .shadowTable => true
  | _ => false

/-- A trigger of it can be looked up. -/
def isTriggerable : CatalogObject N D V F → Bool
  | .table _ | .view _ | .shadowTable => true
  | _ => false

/-- `PRAGMA table_info`. -/
def columnNames : CatalogObject N D V F → List N
  | .table t => t.columnNames
  | .view columns | .virtualTable _ columns => columns
  | _ => []

/-- What a step may make of an object: a table may grow, all others stay as they are. -/
inductive Preserves : CatalogObject N D V F → CatalogObject N D V F → Prop
  | same (o : CatalogObject N D V F) : Preserves o o
  | table {t t' : StoredTable N D V} (h : t.Preserves t') : Preserves (.table t) (.table t')

variable {o o' o'' : CatalogObject N D V F}

theorem Preserves.trans (h : o.Preserves o') (h' : o'.Preserves o'') : o.Preserves o'' := by
  cases h with
  | same => exact h'
  | table h =>
      cases h' with
      | same => exact .table h
      | table h' => exact .table (h.trans h')

theorem Preserves.isIndex (h : o.Preserves o') : o'.isIndex = o.isIndex := by
  cases h <;> rfl

theorem Preserves.isTriggerable (h : o.Preserves o') : o'.isTriggerable = o.isTriggerable := by
  cases h <;> rfl

theorem Preserves.columnNames (h : o.Preserves o') : o.columnNames ⊆ o'.columnNames := by
  cases h with
  | same => exact List.Subset.refl _
  | table h => exact h.columnNames

end CatalogObject

/-- The objects and the triggers of a database file, by name. -/
structure Catalog (N D V F T : Type) where
  objects : N → Option (CatalogObject N D V F)
  triggers : N → Option T

/-- A step reports whether it succeeded. -/
abbrev CatalogStep (N D V F T : Type) := Catalog N D V F T → Bool × Catalog N D V F T

namespace Catalog

variable {N D V F T : Type}

/-- The ordinary table of a name. -/
def tables (c : Catalog N D V F T) (name : N) : Option (StoredTable N D V) :=
  match c.objects name with
  | some (.table t) => some t
  | _ => none

theorem tables_eq_some {c : Catalog N D V F T} {name : N} {t : StoredTable N D V} :
    c.tables name = some t ↔ c.objects name = some (.table t) := by
  unfold tables
  split
  · next t' h => simp [h]
  · next h => exact ⟨nofun, fun ht => absurd ht (h t)⟩

variable [DecidableEq N]

/-- The table is there and has the columns. -/
def hasColumns (onTable : N) (columns : List N) (c : Catalog N D V F T) : Bool :=
  match c.tables onTable with
  | some t => columns.all (· ∈ t.columnNames)
  | none => false

theorem hasColumns_iff {c : Catalog N D V F T} {onTable : N} {columns : List N} :
    c.hasColumns onTable columns = true ↔
      ∃ t, c.tables onTable = some t ∧ ∀ column ∈ columns, column ∈ t.columnNames := by
  unfold hasColumns
  cases c.tables onTable with
  | none => simp
  | some t => simp

def withObject (name : N) (o : CatalogObject N D V F) (c : Catalog N D V F T) :
    Catalog N D V F T :=
  { c with objects := Function.update c.objects name (some o) }

@[simp] theorem withObject_self (name : N) (o : CatalogObject N D V F) (c : Catalog N D V F T) :
    (c.withObject name o).objects name = some o :=
  Function.update_self _ _ _

theorem withObject_of_ne {name other : N} (h : other ≠ name) (o : CatalogObject N D V F)
    (c : Catalog N D V F T) : (c.withObject name o).objects other = c.objects other :=
  Function.update_of_ne h _ _

/-- `ALTER TABLE ... ADD COLUMN`, which fails if there is such a column or no such table. -/
def addColumn (onTable : N) (column : N × D) (value : V) : CatalogStep N D V F T := fun c =>
  match c.tables onTable with
  | some t =>
      if column.1 ∈ t.columnNames then (false, c)
      else (true, c.withObject onTable (.table (t.addColumn column value)))
  | none => (false, c)

end Catalog

/-! ## Definitions -/

/-- A statement `CREATE ... IF NOT EXISTS`; `setting` creates nothing. A virtual table creates its
shadow tables beside it. -/
inductive Definition (N D F T : Type) where
  | setting
  | table (name : N) (columns : List (N × D)) (primaryKey : List N)
  | index (name onTable : N) (columns : List N)
  | virtualTable (name : N) (definition : F) (columns shadows : List N)
  | trigger (name onTable : N) (definition : T)

namespace Definition

variable {N D V F T : Type}

/-- The names that the definition gives to objects. -/
def created : Definition N D F T → List N
  | .table name _ _ => [name]
  | .index name _ _ => [name]
  | .virtualTable name _ _ shadows => name :: shadows
  | _ => []

/-- The names that the definition gives to triggers. -/
def createdTriggers : Definition N D F T → List N
  | .trigger name _ _ => [name]
  | _ => []

/-- The table of an index or of a trigger is there, and can carry one. -/
def hasTable : Definition N D F T → Catalog N D V F T → Bool
  | .index _ onTable _, c => (c.tables onTable).isSome
  | .trigger _ onTable _, c => (c.objects onTable).any CatalogObject.isTriggerable
  | _, _ => true

/-- The name is taken, by an object that the statement lets pass for what it defines. -/
def isNamed : Definition N D F T → Catalog N D V F T → Bool
  | .setting, _ => true
  | .table name _ _, c => (c.objects name).any fun o => !o.isIndex
  | .index name _ _, c => (c.objects name).any CatalogObject.isIndex
  | .virtualTable name _ _ _, c => (c.objects name).any fun o => !o.isIndex
  | .trigger name _ _, c => (c.triggers name).isSome

/-- The statement finds nothing to do. -/
def Taken (d : Definition N D F T) (c : Catalog N D V F T) : Prop :=
  d.hasTable c = true ∧ d.isNamed c = true

variable [DecidableEq N]

/-- The names are free, and the table is there with what is needed. -/
def isCreatable : Definition N D F T → Catalog N D V F T → Bool
  | .setting, _ => true
  | .table name _ _, c => (c.objects name).isNone
  | .index name onTable columns, c => (c.objects name).isNone && c.hasColumns onTable columns
  | .virtualTable name _ _ shadows, c => (name :: shadows).all fun name => (c.objects name).isNone
  | .trigger name onTable _, c =>
      (c.triggers name).isNone && (c.objects onTable).any CatalogObject.isStored

def create : Definition N D F T → Catalog N D V F T → Catalog N D V F T
  | .setting, c => c
  | .table name columns primaryKey, c => c.withObject name (.table (.create columns primaryKey))
  | .index name onTable columns, c => c.withObject name (.index onTable columns true)
  | .virtualTable name definition columns shadows, c =>
      { c with objects := fun other =>
          if other = name then some (.virtualTable definition columns)
          else if other ∈ shadows then some .shadowTable
          else c.objects other }
  | .trigger name _ definition, c =>
      { c with triggers := Function.update c.triggers name (some definition) }

/-- `CREATE ... IF NOT EXISTS`. The table of an index or a trigger is looked up before its name. -/
def execute (d : Definition N D F T) : CatalogStep N D V F T := fun c =>
  if d.hasTable c && d.isNamed c then (true, c)
  else if d.isCreatable c then (true, d.create c)
  else (false, c)

/-- What the definition names is there as the definition says. -/
def Realised : Definition N D F T → Catalog N D V F T → Prop
  | .setting, _ => True
  | .table name columns primaryKey, c =>
      ∃ t, c.tables name = some t ∧ t.primaryKey = primaryKey ∧ columns ⊆ t.columns
  | .index name onTable columns, c => c.objects name = some (.index onTable columns true)
  | .virtualTable name definition columns _, c =>
      c.objects name = some (.virtualTable definition columns)
  | .trigger name _ definition, c => c.triggers name = some definition

/-- The three outcomes of a definition. -/
theorem execute_cases (d : Definition N D F T) (c : Catalog N D V F T) :
    (d.Taken c ∧ d.execute c = (true, c)) ∨
    (d.isCreatable c = true ∧ d.execute c = (true, d.create c)) ∨
    (¬d.Taken c ∧ d.isCreatable c = false ∧ d.execute c = (false, c)) := by
  unfold execute
  cases htaken : d.hasTable c && d.isNamed c with
  | true => exact .inl ⟨Bool.and_eq_true_iff.mp htaken, rfl⟩
  | false =>
      right
      cases hcreatable : d.isCreatable c with
      | true => exact .inl ⟨rfl, rfl⟩
      | false =>
          refine .inr ⟨fun h => ?_, rfl, rfl⟩
          rw [Bool.and_eq_true_iff.mpr h] at htaken
          cases htaken

/-! ### What a definition leaves alone -/

theorem create_objects (d : Definition N D F T) (c : Catalog N D V F T) {name : N}
    (h : name ∉ d.created) : (d.create c).objects name = c.objects name := by
  cases d with
  | setting => rfl
  | table other columns primaryKey =>
      exact Catalog.withObject_of_ne (fun heq => h (List.mem_singleton.mpr heq)) _ _
  | index other onTable columns =>
      exact Catalog.withObject_of_ne (fun heq => h (List.mem_singleton.mpr heq)) _ _
  | virtualTable other definition columns shadows =>
      obtain ⟨hname, hshadows⟩ := not_or.mp (fun hmem => h (List.mem_cons.mpr hmem))
      simp [create, hname, hshadows]
  | trigger other onTable definition => rfl

theorem create_triggers (d : Definition N D F T) (c : Catalog N D V F T) {name : N}
    (h : name ∉ d.createdTriggers) : (d.create c).triggers name = c.triggers name := by
  cases d with
  | trigger other onTable definition =>
      exact Function.update_of_ne (fun heq => h (List.mem_singleton.mpr heq)) _ _
  | setting | table | index | virtualTable => rfl

/-- Only free names are given to objects. -/
theorem objects_of_isCreatable {d : Definition N D F T} {c : Catalog N D V F T}
    (h : d.isCreatable c = true) : ∀ name ∈ d.created, c.objects name = none := by
  intro name hname
  cases d with
  | setting | trigger => cases hname
  | table other columns primaryKey =>
      rw [List.mem_singleton.mp hname]
      exact Option.isNone_iff_eq_none.mp h
  | index other onTable columns =>
      rw [List.mem_singleton.mp hname]
      exact Option.isNone_iff_eq_none.mp (Bool.and_eq_true_iff.mp h).1
  | virtualTable other definition columns shadows =>
      exact Option.isNone_iff_eq_none.mp (List.all_eq_true.mp h name hname)

theorem triggers_of_isCreatable {d : Definition N D F T} {c : Catalog N D V F T}
    (h : d.isCreatable c = true) : ∀ name ∈ d.createdTriggers, c.triggers name = none := by
  intro name hname
  cases d with
  | trigger other onTable definition =>
      rw [List.mem_singleton.mp hname]
      exact Option.isNone_iff_eq_none.mp (Bool.and_eq_true_iff.mp h).1
  | setting | table | index | virtualTable => cases hname

theorem realised_create (d : Definition N D F T) (c : Catalog N D V F T) :
    d.Realised (d.create c) := by
  cases d with
  | setting => trivial
  | table name columns primaryKey =>
      exact ⟨_, Catalog.tables_eq_some.mpr (Catalog.withObject_self _ _ _), rfl,
        List.Subset.refl _⟩
  | index name onTable columns => exact Catalog.withObject_self _ _ _
  | virtualTable name definition columns shadows => exact if_pos rfl
  | trigger name onTable definition => exact Function.update_self _ _ _

omit [DecidableEq N] in
theorem isNamed_of_realised {d : Definition N D F T} {c : Catalog N D V F T}
    (h : d.Realised c) : d.isNamed c = true := by
  cases d with
  | setting => rfl
  | table name columns primaryKey =>
      obtain ⟨t, ht, -⟩ := h
      simp [isNamed, Catalog.tables_eq_some.mp ht, CatalogObject.isIndex]
  | index name onTable columns =>
      simp only [Realised] at h
      simp [isNamed, h, CatalogObject.isIndex]
  | virtualTable name definition columns shadows =>
      simp only [Realised] at h
      simp [isNamed, h, CatalogObject.isIndex]
  | trigger name onTable definition =>
      simp only [Realised] at h
      simp [isNamed, h]

end Definition

/-! ## Growth -/

section Growth

variable {N D V F T : Type}

/-- Nothing is lost: the second catalogue has all objects of the first, and the stored values. -/
structure Catalog.Extends (c c' : Catalog N D V F T) : Prop where
  objects : ∀ name o, c.objects name = some o → ∃ o', c'.objects name = some o' ∧ o.Preserves o'
  triggers : ∀ name definition, c.triggers name = some definition →
    c'.triggers name = some definition

namespace Catalog

variable {c c' c'' : Catalog N D V F T}

theorem Extends.refl (c : Catalog N D V F T) : c.Extends c :=
  ⟨fun _ o h => ⟨o, h, .same o⟩, fun _ _ h => h⟩

theorem Extends.trans (h : c.Extends c') (h' : c'.Extends c'') : c.Extends c'' where
  objects := by
    intro name o ho
    obtain ⟨o', ho', hpreserves⟩ := h.objects name o ho
    obtain ⟨o'', ho'', hpreserves'⟩ := h'.objects name o' ho'
    exact ⟨o'', ho'', hpreserves.trans hpreserves'⟩
  triggers := fun name definition hname =>
    h'.triggers name definition (h.triggers name definition hname)

theorem Extends.tables (h : c.Extends c') {name : N} {t : StoredTable N D V}
    (ht : c.tables name = some t) : ∃ t', c'.tables name = some t' ∧ t.Preserves t' := by
  obtain ⟨o', ho', hpreserves⟩ := h.objects name _ (tables_eq_some.mp ht)
  cases hpreserves with
  | same => exact ⟨t, tables_eq_some.mpr ho', .refl t⟩
  | table hpreserves => exact ⟨_, tables_eq_some.mpr ho', hpreserves⟩

/-- A property of objects that steps keep. -/
theorem Extends.any_objects (h : c.Extends c') {p : CatalogObject N D V F → Bool} {name : N}
    (hp : ∀ {o o' : CatalogObject N D V F}, o.Preserves o' → p o = true → p o' = true)
    (hname : (c.objects name).any p = true) : (c'.objects name).any p = true := by
  obtain ⟨o, ho, hpo⟩ := (Option.any_eq_true _ _).mp hname
  obtain ⟨o', ho', hpreserves⟩ := h.objects name o ho
  exact (Option.any_eq_true _ _).mpr ⟨o', ho', hp hpreserves hpo⟩

/-- Replacing one object by an object that preserves it. -/
theorem extends_withObject [DecidableEq N] (c : Catalog N D V F T) {name : N}
    {o' : CatalogObject N D V F} (h : ∀ o, c.objects name = some o → o.Preserves o') :
    c.Extends (c.withObject name o') := by
  refine ⟨fun other o ho => ?_, fun _ _ h => h⟩
  by_cases heq : other = name
  · subst heq
    exact ⟨o', withObject_self _ _ _, h o ho⟩
  · exact ⟨o, (withObject_of_ne heq _ _).trans ho, .same o⟩

end Catalog

theorem Definition.extends_create [DecidableEq N] {d : Definition N D F T}
    {c : Catalog N D V F T} (h : d.isCreatable c = true) : c.Extends (d.create c) where
  objects := by
    intro name o ho
    have hname : name ∉ d.created := by
      intro hmem
      rw [objects_of_isCreatable h name hmem] at ho
      cases ho
    exact ⟨o, (create_objects d c hname).trans ho, .same o⟩
  triggers := by
    intro name definition ht
    have hname : name ∉ d.createdTriggers := by
      intro hmem
      rw [triggers_of_isCreatable h name hmem] at ht
      cases ht
    exact (create_triggers d c hname).trans ht

/-! ## Steps that ensure something -/

/-- The step loses nothing; if it succeeds, `P` holds; and where `P` holds, it does nothing. -/
structure Ensures (step : CatalogStep N D V F T) (P : Catalog N D V F T → Prop) : Prop where
  grows : ∀ c : Catalog N D V F T, c.Extends (step c).2
  holds : ∀ c, (step c).1 = true → P (step c).2
  idle : ∀ c, P c → step c = (true, c)
  monotone : ∀ c c' : Catalog N D V F T, c.Extends c' → P c → P c'

/-- The step loses nothing, and if it succeeds, `P` holds. It may fail although `P` holds. -/
structure Achieves (step : CatalogStep N D V F T) (P : Catalog N D V F T → Prop) : Prop where
  grows : ∀ c : Catalog N D V F T, c.Extends (step c).2
  holds : ∀ c, (step c).1 = true → P (step c).2
  monotone : ∀ c c' : Catalog N D V F T, c.Extends c' → P c → P c'

/-- `first && second`. -/
def CatalogStep.andThen (first second : CatalogStep N D V F T) : CatalogStep N D V F T := fun c =>
  match first c with
  | (true, c) => second c
  | (false, c) => (false, c)

/-- `ok = second && ok`: the second step is made in any case. -/
def CatalogStep.also (first second : CatalogStep N D V F T) : CatalogStep N D V F T := fun c =>
  let (ok, c) := first c
  let (succeeded, c) := second c
  (succeeded && ok, c)

/-- The step, unless the engine refuses it. -/
def CatalogStep.unlessRefused (accepted : Bool) (step : CatalogStep N D V F T) :
    CatalogStep N D V F T :=
  fun c => if accepted then step c else (false, c)

section Ensures

variable {first second : CatalogStep N D V F T} {P Q : Catalog N D V F T → Prop}

theorem Ensures.achieves (h : Ensures first P) : Achieves first P :=
  ⟨h.grows, h.holds, h.monotone⟩

theorem Achieves.unlessRefused (h : Achieves first P) (accepted : Bool) :
    Achieves (first.unlessRefused accepted) P := by
  cases accepted with
  | true => exact h
  | false =>
      refine ⟨fun c => .refl c, fun c hok => ?_, h.monotone⟩
      cases hok

theorem Achieves.andThen (h : Achieves first P) (h' : Achieves second Q) :
    Achieves (first.andThen second) fun c => P c ∧ Q c where
  grows := by
    intro c
    have hgrows := h.grows c
    unfold CatalogStep.andThen
    rcases hfirst : first c with ⟨ok, c'⟩
    rw [hfirst] at hgrows
    cases ok with
    | true => exact hgrows.trans (h'.grows c')
    | false => exact hgrows
  holds := by
    intro c hok
    have hholds := h.holds c
    unfold CatalogStep.andThen at hok ⊢
    rcases hfirst : first c with ⟨ok, c'⟩
    rw [hfirst] at hok hholds
    cases ok with
    | true => exact ⟨h.monotone c' _ (h'.grows c') (hholds rfl), h'.holds c' hok⟩
    | false => cases hok
  monotone := fun c c' hext hc => ⟨h.monotone c c' hext hc.1, h'.monotone c c' hext hc.2⟩

theorem Achieves.also (h : Achieves first P) (h' : Achieves second Q) :
    Achieves (first.also second) fun c => P c ∧ Q c where
  grows := fun c => (h.grows c).trans (h'.grows _)
  holds := by
    intro c hok
    obtain ⟨hsecond, hfirst⟩ := Bool.and_eq_true_iff.mp hok
    exact ⟨h.monotone _ _ (h'.grows _) (h.holds c hfirst), h'.holds _ hsecond⟩
  monotone := fun c c' hext hc => ⟨h.monotone c c' hext hc.1, h'.monotone c c' hext hc.2⟩

theorem Achieves.congr (h : Achieves first P) (hiff : ∀ c, P c ↔ Q c) : Achieves first Q where
  grows := h.grows
  holds := fun c hok => (hiff _).mp (h.holds c hok)
  monotone := fun c c' hext hc => (hiff c').mp (h.monotone c c' hext ((hiff c).mpr hc))

theorem Ensures.of_achieves (h : Achieves first P) (hidle : ∀ c, P c → first c = (true, c)) :
    Ensures first P :=
  ⟨h.grows, h.holds, hidle, h.monotone⟩

theorem Ensures.andThen (h : Ensures first P) (h' : Ensures second Q) :
    Ensures (first.andThen second) fun c => P c ∧ Q c := by
  refine .of_achieves (h.achieves.andThen h'.achieves) fun c hc => ?_
  unfold CatalogStep.andThen
  rw [h.idle c hc.1]
  exact h'.idle c hc.2

theorem Ensures.also (h : Ensures first P) (h' : Ensures second Q) :
    Ensures (first.also second) fun c => P c ∧ Q c := by
  refine .of_achieves (h.achieves.also h'.achieves) fun c hc => ?_
  unfold CatalogStep.also
  rw [h.idle c hc.1]
  dsimp only
  rw [h'.idle c hc.2]
  rfl

theorem Ensures.congr (h : Ensures first P) (hiff : ∀ c, P c ↔ Q c) : Ensures first Q :=
  .of_achieves (h.achieves.congr hiff) fun c hc => h.idle c ((hiff c).mpr hc)

end Ensures

namespace Definition

variable [DecidableEq N]

omit [DecidableEq N] in
theorem hasTable_mono {d : Definition N D F T} {c c' : Catalog N D V F T} (hext : c.Extends c')
    (h : d.hasTable c = true) : d.hasTable c' = true := by
  cases d with
  | setting | table | virtualTable => rfl
  | index name onTable columns =>
      obtain ⟨t, ht⟩ := Option.isSome_iff_exists.mp h
      obtain ⟨t', ht', -⟩ := hext.tables ht
      simp [hasTable, ht']
  | trigger name onTable definition =>
      exact hext.any_objects (fun hpreserves ho => hpreserves.isTriggerable.trans ho) h

omit [DecidableEq N] in
theorem isNamed_mono {d : Definition N D F T} {c c' : Catalog N D V F T} (hext : c.Extends c')
    (h : d.isNamed c = true) : d.isNamed c' = true := by
  cases d with
  | setting => rfl
  | table name columns primaryKey =>
      exact hext.any_objects (fun hpreserves ho => by rwa [hpreserves.isIndex]) h
  | index name onTable columns =>
      exact hext.any_objects (fun hpreserves ho => hpreserves.isIndex.trans ho) h
  | virtualTable name definition columns shadows =>
      exact hext.any_objects (fun hpreserves ho => by rwa [hpreserves.isIndex]) h
  | trigger name onTable definition =>
      obtain ⟨old, hold⟩ := Option.isSome_iff_exists.mp h
      simp [isNamed, hext.triggers name old hold]

theorem hasTable_of_isCreatable {d : Definition N D F T} {c : Catalog N D V F T}
    (h : d.isCreatable c = true) : d.hasTable c = true := by
  cases d with
  | setting | table | virtualTable => rfl
  | index name onTable columns =>
      obtain ⟨t, ht, -⟩ := Catalog.hasColumns_iff.mp (Bool.and_eq_true_iff.mp h).2
      simp [hasTable, ht]
  | trigger name onTable definition =>
      obtain ⟨o, ho, hstored⟩ := (Option.any_eq_true _ _).mp (Bool.and_eq_true_iff.mp h).2
      refine (Option.any_eq_true _ _).mpr ⟨o, ho, ?_⟩
      cases o with
      | table | shadowTable => rfl
      | view | virtualTable | index => cases hstored

theorem taken_create {d : Definition N D F T} {c : Catalog N D V F T}
    (h : d.isCreatable c = true) : d.Taken (d.create c) :=
  ⟨hasTable_mono (extends_create h) (hasTable_of_isCreatable h),
    isNamed_of_realised (d.realised_create c)⟩

/-- A definition ensures that its name is taken. -/
theorem ensures_execute (d : Definition N D F T) : Ensures (V := V) d.execute d.Taken where
  grows := by
    intro c
    rcases d.execute_cases c with ⟨-, heq⟩ | ⟨hcreatable, heq⟩ | ⟨-, -, heq⟩
    · rw [heq]
      exact .refl c
    · rw [heq]
      exact extends_create hcreatable
    · rw [heq]
      exact .refl c
  holds := by
    intro c hok
    rcases d.execute_cases c with ⟨htaken, heq⟩ | ⟨hcreatable, heq⟩ | ⟨-, -, heq⟩
    · rw [heq]
      exact htaken
    · rw [heq]
      exact taken_create hcreatable
    · rw [heq] at hok
      cases hok
  idle := by
    intro c hc
    unfold execute
    rw [hc.1, hc.2]
    rfl
  monotone := fun _ _ hext hc => ⟨hasTable_mono hext hc.1, isNamed_mono hext hc.2⟩

theorem execute_fst (d : Definition N D F T) (c : Catalog N D V F T) :
    (d.execute c).1 = true ↔ d.Taken c ∨ d.isCreatable c = true := by
  rcases d.execute_cases c with ⟨htaken, heq⟩ | ⟨hcreatable, heq⟩ | ⟨hnot, hfree, heq⟩
  · simp [heq, htaken]
  · simp [heq, hcreatable]
  · simp [heq, hnot, hfree]

end Definition

/-! ## Lists of steps -/

/-- `first && second && ...`. -/
def allOf (steps : List (CatalogStep N D V F T)) : CatalogStep N D V F T :=
  steps.foldr CatalogStep.andThen fun c => (true, c)

/-- `ok = next && ok;` for each of the steps. -/
def eachOf (first : CatalogStep N D V F T) (steps : List (CatalogStep N D V F T)) :
    CatalogStep N D V F T :=
  steps.foldl CatalogStep.also first

theorem achieves_allOf {α : Type} (step : α → CatalogStep N D V F T)
    (P : α → Catalog N D V F T → Prop) (items : List α) (h : ∀ a ∈ items, Achieves (step a) (P a)) :
    Achieves (allOf (items.map step)) fun c => ∀ a ∈ items, P a c := by
  induction items with
  | nil => exact ⟨fun c => .refl c, by simp, by simp⟩
  | cons a rest ih =>
      refine ((h a List.mem_cons_self).andThen
        (ih fun b hb => h b (List.mem_cons_of_mem _ hb))).congr fun c => ?_
      simp

theorem ensures_allOf {α : Type} (step : α → CatalogStep N D V F T)
    (P : α → Catalog N D V F T → Prop) (items : List α) (h : ∀ a ∈ items, Ensures (step a) (P a)) :
    Ensures (allOf (items.map step)) fun c => ∀ a ∈ items, P a c := by
  induction items with
  | nil =>
      exact {
        grows := fun c => .refl c
        holds := by simp
        idle := fun _ _ => rfl
        monotone := by simp }
  | cons a rest ih =>
      refine ((h a List.mem_cons_self).andThen
        (ih fun b hb => h b (List.mem_cons_of_mem _ hb))).congr fun c => ?_
      simp

/-- `andThen` with a first step that succeeds. -/
theorem allOf_append_of_succeeds {xs ys : List (CatalogStep N D V F T)} {c : Catalog N D V F T}
    (h : (allOf xs c).1 = true) : allOf (xs ++ ys) c = allOf ys (allOf xs c).2 := by
  induction xs generalizing c with
  | nil => rfl
  | cons x xs ih =>
      simp only [allOf, List.cons_append, List.foldr_cons, CatalogStep.andThen] at h ⊢
      rcases hx : x c with ⟨ok, c'⟩
      rw [hx] at h
      cases ok with
      | true => exact ih h
      | false => cases h

theorem allOf_keeps {I : Catalog N D V F T → Prop} {steps : List (CatalogStep N D V F T)}
    (h : ∀ step ∈ steps, ∀ c, I c → I (step c).2) {c : Catalog N D V F T} (hc : I c) :
    I (allOf steps c).2 := by
  induction steps generalizing c with
  | nil => exact hc
  | cons step rest ih =>
      have hstep := h step List.mem_cons_self c hc
      simp only [allOf, List.foldr_cons, CatalogStep.andThen]
      rcases heq : step c with ⟨ok, c'⟩
      rw [heq] at hstep
      cases ok with
      | true => exact ih (fun s hs => h s (List.mem_cons_of_mem _ hs)) hstep
      | false => exact hstep

/-- Steps that succeed wherever the invariant holds succeed together. -/
theorem allOf_fst {I : Catalog N D V F T → Prop} {steps : List (CatalogStep N D V F T)}
    (h : ∀ step ∈ steps, ∀ c, I c → (step c).1 = true ∧ I (step c).2)
    {c : Catalog N D V F T} (hc : I c) : (allOf steps c).1 = true := by
  induction steps generalizing c with
  | nil => rfl
  | cons step rest ih =>
      obtain ⟨hok, hstep⟩ := h step List.mem_cons_self c hc
      simp only [allOf, List.foldr_cons, CatalogStep.andThen]
      rcases heq : step c with ⟨ok, c'⟩
      rw [heq] at hok hstep
      cases hok
      exact ih (fun s hs => h s (List.mem_cons_of_mem _ hs)) hstep

theorem eachOf_keeps {I : Catalog N D V F T → Prop} {first : CatalogStep N D V F T}
    {steps : List (CatalogStep N D V F T)} (h : ∀ step ∈ steps, ∀ c, I c → I (step c).2)
    {c : Catalog N D V F T} (hc : I (first c).2) : I (eachOf first steps c).2 := by
  induction steps generalizing first with
  | nil => exact hc
  | cons step rest ih =>
      refine ih (fun s hs => h s (List.mem_cons_of_mem _ hs)) ?_
      exact h step List.mem_cons_self _ hc

/-- Steps that succeed wherever the invariant holds leave the flag as it was. -/
theorem eachOf_fst {I : Catalog N D V F T → Prop} {first : CatalogStep N D V F T}
    {steps : List (CatalogStep N D V F T)}
    (h : ∀ step ∈ steps, ∀ c, I c → (step c).1 = true ∧ I (step c).2)
    {c : Catalog N D V F T} (hc : I (first c).2) : (eachOf first steps c).1 = (first c).1 := by
  induction steps generalizing first with
  | nil => rfl
  | cons step rest ih =>
      obtain ⟨hok, hstep⟩ := h step List.mem_cons_self _ hc
      have hrest : (eachOf (first.also step) rest c).1 = (first.also step c).1 :=
        ih (fun s hs => h s (List.mem_cons_of_mem _ hs)) hstep
      refine hrest.trans ?_
      simp only [CatalogStep.also]
      rw [hok, Bool.true_and]

/-- The creation of an index does not touch the other indexes. -/
theorem index_create_iff [DecidableEq N] {c : Catalog N D V F T} {i j : N × N × List N}
    (hfree : c.objects i.1 = none) (hne : j.1 ≠ i.1) :
    let c' := (Definition.index i.1 i.2.1 i.2.2 : Definition N D F T).create c
    let d : Definition N D F T := .index j.1 j.2.1 j.2.2
    d.hasTable c' = d.hasTable c ∧ d.isNamed c' = d.isNamed c ∧
      d.isCreatable c' = d.isCreatable c := by
  intro c' d
  have hobjects : c'.objects j.1 = c.objects j.1 := Catalog.withObject_of_ne hne _ _
  have htables : c'.tables j.2.1 = c.tables j.2.1 := by
    by_cases heq : j.2.1 = i.1
    · have hold : c.tables i.1 = none := by simp [Catalog.tables, hfree]
      have hnew : c'.tables i.1 = none := by
        simp [c', Catalog.tables, Definition.create, Catalog.withObject]
      rw [heq, hold, hnew]
    · simp [c', Catalog.tables, Definition.create, Catalog.withObject, Function.update_of_ne heq]
  simp only [d, Definition.hasTable, Definition.isNamed, Definition.isCreatable,
    Catalog.hasColumns, hobjects, htables, and_self]

/-- A chain of indexes with different names succeeds if each is there or can be created. -/
theorem allOf_indexes [DecidableEq N] (indexes : List (N × N × List N))
    (hnames : (indexes.map Prod.fst).Nodup) (c : Catalog N D V F T) :
    (allOf (indexes.map fun i =>
        (Definition.index i.1 i.2.1 i.2.2 : Definition N D F T).execute) c).1 = true ↔
      ∀ i ∈ indexes, let d : Definition N D F T := .index i.1 i.2.1 i.2.2
        d.Taken c ∨ d.isCreatable c = true := by
  induction indexes generalizing c with
  | nil => simp [allOf]
  | cons i rest ih =>
      rw [List.map_cons, List.nodup_cons] at hnames
      have hrest := ih hnames.2
      simp only [allOf] at hrest
      simp only [List.map_cons, allOf, List.foldr_cons, CatalogStep.andThen, List.forall_mem_cons]
      rcases (Definition.index i.1 i.2.1 i.2.2 : Definition N D F T).execute_cases c with
        ⟨htaken, heq⟩ | ⟨hcreatable, heq⟩ | ⟨hnot, hfree, heq⟩
      · simp [heq, hrest, htaken]
      · simp only [heq, hrest, hcreatable, or_true, true_and]
        refine forall₂_congr fun j hj => ?_
        have hne : j.1 ≠ i.1 := fun heq => hnames.1 (heq ▸ List.mem_map_of_mem hj)
        have hname := Definition.objects_of_isCreatable hcreatable i.1 (List.mem_singleton_self _)
        obtain ⟨htable, hnamed, hcreate⟩ := index_create_iff hname hne
        simp only [Definition.Taken, htable, hnamed, hcreate]
      · simp [heq, hfree, hnot]

theorem Achieves.eachOf {first : CatalogStep N D V F T} {Q : Catalog N D V F T → Prop}
    (hfirst : Achieves first Q) {α : Type} (step : α → CatalogStep N D V F T)
    (P : α → Catalog N D V F T → Prop) (items : List α) (h : ∀ a ∈ items, Achieves (step a) (P a)) :
    Achieves (eachOf first (items.map step)) fun c => Q c ∧ ∀ a ∈ items, P a c := by
  induction items generalizing first Q with
  | nil => exact hfirst.congr fun c => by simp
  | cons a rest ih =>
      refine (ih (hfirst.also (h a List.mem_cons_self))
        fun b hb => h b (List.mem_cons_of_mem _ hb)).congr fun c => ?_
      simp [and_assoc]

theorem Ensures.eachOf {first : CatalogStep N D V F T} {Q : Catalog N D V F T → Prop}
    (hfirst : Ensures first Q) {α : Type} (step : α → CatalogStep N D V F T)
    (P : α → Catalog N D V F T → Prop) (items : List α) (h : ∀ a ∈ items, Ensures (step a) (P a)) :
    Ensures (eachOf first (items.map step)) fun c => Q c ∧ ∀ a ∈ items, P a c := by
  induction items generalizing first Q with
  | nil => exact hfirst.congr fun c => by simp
  | cons a rest ih =>
      refine (ih (hfirst.also (h a List.mem_cons_self))
        fun b hb => h b (List.mem_cons_of_mem _ hb)).congr fun c => ?_
      simp [and_assoc]

end Growth

end AgentMemory.Foundation
