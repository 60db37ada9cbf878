import AgentMemory.Model.Schema

/-! # Migrating an older database

`Initialize` creates the indexes of a table before it adds the columns that the table may lack. An
index on a missing column fails, and with it the call, although the column is added a moment
later. -/

namespace AgentMemory

open Foundation

/-- A column of a base table that `Initialize` adds if it is missing. -/
def IsMigrated (table column : String) : Prop :=
  ∃ declaration, (table, column, declaration) ∈ migratedColumns

instance (table column : String) : Decidable (IsMigrated table column) :=
  decidable_of_iff (∃ c ∈ migratedColumns, c.1 = table ∧ c.2.1 = column) (by
    constructor
    · rintro ⟨⟨_, _, declaration⟩, hmem, rfl, rfl⟩
      exact ⟨declaration, hmem⟩
    · rintro ⟨declaration, hmem⟩
      exact ⟨_, hmem, rfl, rfl⟩)

/-- The table is a version of a base table: it may lack columns, but only ones that are migrated,
and those that it has are declared as in the schema. -/
structure IsVersion (name : String) (columns : List (String × ColumnDeclaration))
    (primaryKey : List String) (t : StoredTable String ColumnDeclaration SqlValue) : Prop where
  primaryKey : t.primaryKey = primaryKey
  settled : ∀ column ∈ columns, ¬IsMigrated name column.1 → column ∈ t.columns
  declared : ∀ column ∈ columns, ∀ declaration, (column.1, declaration) ∈ t.columns →
    declaration = column.2

/-- If the name of the definition is taken, then by what it defines, or a version of it. -/
def IsGenuine (d : SchemaDefinition) (file : DatabaseFile) : Prop :=
  d.isNamed file = true →
    match d with
    | .table name columns primaryKey =>
        ∃ t, file.tables name = some t ∧ IsVersion name columns primaryKey t
    | d => d.Realised file

/-- Nothing in the file passes for an object of the schema that it is not. -/
def SchemaGenuine (file : DatabaseFile) : Prop :=
  ∀ d ∈ schemaDefinitions, IsGenuine d file

/-- Nothing in the file keeps an object of the schema from being created. -/
def SchemaClear (file : DatabaseFile) : Prop :=
  ∀ d ∈ schemaDefinitions, d.isNamed file = true ∨ ∀ name ∈ d.created, file.objects name = none

/-- A database of an earlier version: the objects under the names of the schema are its own, and an
index that is there has its columns. -/
structure IsEarlierVersion (file : DatabaseFile) : Prop where
  genuine : SchemaGenuine file
  clear : SchemaClear file
  indexes : ∀ index ∈ baseIndexes, (indexDefinition index).isNamed file = true →
    file.hasColumns index.2.1 index.2.2 = true

/-- Every table, column, index, full-text table and trigger of the schema is there. -/
def IsComplete (file : DatabaseFile) : Prop :=
  ∀ d ∈ schemaDefinitions, d.Realised file

/-- One call succeeds, completes the schema and keeps what was stored, and a call of a new store
object finds nothing to do. -/
structure MigratesInOneCall (errmsg : Text) (file : DatabaseFile) : Prop where
  succeeds : (initializeStore false (.ok ()) errmsg file).1 = memorySuccess
  complete : IsComplete (initializeStore false (.ok ()) errmsg file).2
  keeps : file.Extends (initializeStore false (.ok ()) errmsg file).2
  idle : ∀ errmsg', initializeStore false (.ok ()) errmsg'
      (initializeStore false (.ok ()) errmsg file).2 =
    (memorySuccess, (initializeStore false (.ok ()) errmsg file).2)

/-! ## The names of the schema -/

/-- Lists that have an element in common. -/
theorem eq_of_mem_flatMap {α β : Type} {f : α → List β} {l : List α} (h : (l.flatMap f).Nodup)
    {a b : α} (ha : a ∈ l) (hb : b ∈ l) {x : β} (hxa : x ∈ f a) (hxb : x ∈ f b) : a = b := by
  by_contra hne
  have : Std.Symm (Function.onFun List.Disjoint f) := ⟨fun _ _ h => h.symm⟩
  exact (List.nodup_flatMap.mp h).2.forall ha hb hne hxa hxb

theorem created_unique {d e : SchemaDefinition} (hd : d ∈ schemaDefinitions)
    (he : e ∈ schemaDefinitions) {name : String} (hname : name ∈ d.created)
    (hname' : name ∈ e.created) : d = e :=
  eq_of_mem_flatMap (f := Definition.created) (by decide +kernel) hd he hname hname'

theorem createdTriggers_unique {d e : SchemaDefinition} (hd : d ∈ schemaDefinitions)
    (he : e ∈ schemaDefinitions) {name : String} (hname : name ∈ d.createdTriggers)
    (hname' : name ∈ e.createdTriggers) : d = e :=
  eq_of_mem_flatMap (f := Definition.createdTriggers) (by decide +kernel) hd he hname hname'

theorem tableDefinition_mem {base : BaseTable} (h : base ∈ baseTables) :
    tableDefinition base ∈ schemaDefinitions :=
  List.mem_append_left _ (List.mem_append_left _ (List.mem_append_right _
    (List.mem_map_of_mem h)))

theorem indexDefinition_mem {index : String × String × List String} (h : index ∈ baseIndexes) :
    indexDefinition index ∈ schemaDefinitions :=
  List.mem_append_left _ (List.mem_append_right _ (List.mem_map_of_mem h))

theorem searchObjects_cases : ∀ d ∈ searchObjects, (∃ v, d = virtualTableDefinition v) ∨
    ∃ t, d = triggerDefinition t ∧ t.onTable ∈ baseTables.map BaseTable.name := by
  have htriggers : ∀ t ∈ memoryTriggers, t.onTable ∈ baseTables.map BaseTable.name := by decide
  intro d hd
  simp only [searchObjects, List.map_cons, List.map_nil, List.cons_append, List.nil_append,
    List.mem_cons, List.not_mem_nil, or_false] at hd
  rcases hd with rfl | rfl | rfl | rfl | rfl | rfl | rfl | rfl | rfl | rfl | rfl | rfl
  all_goals first
    | exact .inl ⟨_, rfl⟩
    | exact .inr ⟨_, rfl, htriggers _ (by decide)⟩

/-- The tables of the schema are its base tables. -/
theorem mem_baseTables_of_mem {name : String} {columns : List (String × ColumnDeclaration)}
    {primaryKey : List String} (h : .table name columns primaryKey ∈ schemaDefinitions) :
    ∃ base ∈ baseTables, base.name = name ∧ base.columns = columns ∧
      base.primaryKey = primaryKey := by
  simp only [schemaDefinitions, creations, List.mem_append, List.mem_replicate, List.mem_map,
    reduceCtorEq, and_false, false_or] at h
  rcases h with (⟨base, hbase, heq⟩ | ⟨index, -, heq⟩) | h
  · cases heq
    exact ⟨base, hbase, rfl, rfl, rfl⟩
  · cases heq
  · rcases searchObjects_cases _ h with ⟨v, heq⟩ | ⟨t, heq, -⟩
    · cases heq
    · cases heq


/-! ## What the steps ensure -/

theorem isValidTableName_migrated :
    ∀ column ∈ migratedColumns, isValidTableName column.1 = true := by
  decide

/-- The column is listed. -/
def ColumnPresent (column : String × String × ColumnDeclaration) (file : DatabaseFile) : Prop :=
  ((file.objects column.1).any fun o => o.columnNames.contains column.2.1) = true

theorem ColumnPresent.mono {column : String × String × ColumnDeclaration}
    {file file' : DatabaseFile} (hext : file.Extends file') (h : ColumnPresent column file) :
    ColumnPresent column file' := by
  refine hext.any_objects (fun hpreserves ho => ?_) h
  rw [List.contains_iff_mem] at ho ⊢
  exact hpreserves.columnNames ho

/-- Adding a column, if it is missing and its table is there. -/
theorem addColumnIfMissing_cases {column : String × String × ColumnDeclaration}
    (hvalid : isValidTableName column.1 = true) (file : DatabaseFile) :
    (ColumnPresent column file ∧ addColumnIfMissingUnlocked column file = (true, file)) ∨
    (¬ColumnPresent column file ∧ file.tables column.1 = none ∧
      addColumnIfMissingUnlocked column file = (false, file)) ∨
    ∃ t, file.tables column.1 = some t ∧ column.2.1 ∉ t.columnNames ∧
      addColumnIfMissingUnlocked column file =
        (true, file.withObject column.1 (.table (t.addColumn column.2 column.2.2.value))) := by
  unfold addColumnIfMissingUnlocked columnExistsUnlocked ColumnPresent
  simp only [hvalid, Bool.true_and, Bool.not_true, Bool.false_eq_true, if_false]
  cases hcolumn : (file.objects column.1).any fun o => o.columnNames.contains column.2.1 with
  | true => exact .inl ⟨rfl, rfl⟩
  | false =>
      right
      cases htable : file.tables column.1 with
      | none => exact .inl ⟨by simp, rfl, by simp [alterTable, Catalog.addColumn, htable]⟩
      | some t =>
          have hmissing : column.2.1 ∉ t.columnNames := by
            simpa [Catalog.tables_eq_some.mp htable, CatalogObject.columnNames] using hcolumn
          exact .inr ⟨t, rfl, hmissing, by simp [alterTable, Catalog.addColumn, htable, hmissing]⟩

theorem ensures_addColumnIfMissing {column : String × String × ColumnDeclaration}
    (hvalid : isValidTableName column.1 = true) :
    Ensures (addColumnIfMissingUnlocked column) (ColumnPresent column) where
  grows := by
    intro file
    rcases addColumnIfMissing_cases hvalid file with ⟨-, hstep⟩ | ⟨-, -, hstep⟩ | ⟨t, ht, -, hstep⟩
    · rw [hstep]
      exact .refl file
    · rw [hstep]
      exact .refl file
    · rw [hstep]
      refine Catalog.extends_withObject file fun o ho => ?_
      rw [Catalog.tables_eq_some.mp ht] at ho
      cases ho
      exact .table (StoredTable.preserves_addColumn _ _ t)
  holds := by
    intro file hok
    rcases addColumnIfMissing_cases hvalid file with ⟨hpresent, hstep⟩ | ⟨-, -, hstep⟩ |
      ⟨t, -, -, hstep⟩
    · rw [hstep]
      exact hpresent
    · rw [hstep] at hok
      cases hok
    · rw [hstep]
      simp [ColumnPresent, Catalog.withObject, CatalogObject.columnNames, StoredTable.columnNames,
        StoredTable.addColumn]
  idle := by
    intro file hpresent
    rcases addColumnIfMissing_cases hvalid file with ⟨-, hstep⟩ | ⟨hmissing, -⟩ |
      ⟨t, ht, hmissing, -⟩
    · exact hstep
    · exact absurd hpresent hmissing
    · simp [ColumnPresent, Catalog.tables_eq_some.mp ht, CatalogObject.columnNames, hmissing]
        at hpresent
  monotone := fun _ _ hext hpresent => hpresent.mono hext

/-- What `Initialize` is to ensure. -/
def Migrated (file : DatabaseFile) : Prop :=
  ((∀ d ∈ creations, d.Taken file) ∧ ∀ column ∈ migratedColumns, ColumnPresent column file) ∧
    ∀ d ∈ searchObjects, d.Taken file

theorem ensures_migrate : Ensures migrate Migrated := by
  refine Ensures.eachOf (Ensures.eachOf (ensures_allOf _ _ creations ?_) _ _ migratedColumns ?_) _ _
    searchObjects ?_
  · exact fun d _ => d.ensures_execute
  · exact fun column hcolumn => ensures_addColumnIfMissing
      (isValidTableName_migrated column hcolumn)
  · exact fun d _ => d.ensures_execute

/-! ## What the steps keep -/

/-- A definition stands for what it stood for when nothing has happened to its names. -/
theorem IsGenuine.congr {d : SchemaDefinition} {file file' : DatabaseFile} (h : IsGenuine d file)
    (hobjects : ∀ name ∈ d.created, file'.objects name = file.objects name)
    (htriggers : ∀ name ∈ d.createdTriggers, file'.triggers name = file.triggers name) :
    IsGenuine d file' := by
  unfold IsGenuine at h ⊢
  cases d with
  | setting => exact fun _ => trivial
  | table name columns primaryKey =>
      simpa [Definition.isNamed, Catalog.tables, hobjects name (List.mem_singleton_self _)] using h
  | index name onTable columns =>
      simpa [Definition.isNamed, Definition.Realised, hobjects name (List.mem_singleton_self _)]
        using h
  | virtualTable name definition columns shadows =>
      simpa [Definition.isNamed, Definition.Realised, hobjects name List.mem_cons_self] using h
  | trigger name onTable definition =>
      simpa [Definition.isNamed, Definition.Realised, htriggers name (List.mem_singleton_self _)]
        using h

theorem isVersion_create {base : BaseTable} (h : base ∈ baseTables) :
    IsVersion base.name base.columns base.primaryKey (.create base.columns base.primaryKey) where
  primaryKey := rfl
  settled := fun column hcolumn _ => hcolumn
  declared := by
    have hunique : ∀ base ∈ baseTables, (base.columns.map Prod.fst).Nodup := by decide
    intro column hcolumn declaration hmem
    exact congrArg Prod.snd (List.inj_on_of_nodup_map (hunique base h) hmem hcolumn rfl)

theorem isGenuine_create {d e : SchemaDefinition} (hd : d ∈ schemaDefinitions)
    (he : e ∈ schemaDefinitions) {file : DatabaseFile} (h : IsGenuine d file) :
    IsGenuine d (e.create file) := by
  by_cases heq : d = e
  · subst heq
    intro _
    have hrealised := d.realised_create file
    cases d with
    | table name columns primaryKey =>
        obtain ⟨base, hbase, rfl, rfl, rfl⟩ := mem_baseTables_of_mem hd
        exact ⟨_, Catalog.tables_eq_some.mpr (Catalog.withObject_self _ _ _),
          isVersion_create hbase⟩
    | setting | index | virtualTable | trigger => exact hrealised
  · refine h.congr (fun name hname => e.create_objects file fun hname' => ?_)
      (fun name hname => e.create_triggers file fun hname' => ?_)
    · exact heq (created_unique hd he hname hname')
    · exact heq (createdTriggers_unique hd he hname hname')

theorem schemaGenuine_execute {e : SchemaDefinition} (he : e ∈ schemaDefinitions)
    {file : DatabaseFile} (h : SchemaGenuine file) : SchemaGenuine (e.execute file).2 := by
  intro d hd
  rcases e.execute_cases file with ⟨-, heq⟩ | ⟨-, heq⟩ | ⟨-, -, heq⟩
  · rw [heq]
    exact h d hd
  · rw [heq]
    exact isGenuine_create hd he (h d hd)
  · rw [heq]
    exact h d hd

theorem migratedColumns_declared : ∀ column ∈ migratedColumns, ∀ base ∈ baseTables,
    base.name = column.1 → column.2 ∈ base.columns := by
  decide

theorem IsVersion.addColumn {base : BaseTable} (hbase : base ∈ baseTables)
    {column : String × String × ColumnDeclaration} (hcolumn : column ∈ migratedColumns)
    (hname : base.name = column.1) {t : StoredTable String ColumnDeclaration SqlValue}
    (h : IsVersion base.name base.columns base.primaryKey t) :
    IsVersion base.name base.columns base.primaryKey
      (t.addColumn column.2 column.2.2.value) where
  primaryKey := h.primaryKey
  settled := fun other hother hkept => List.mem_append_left _ (h.settled other hother hkept)
  declared := by
    intro other hother declaration hmem
    rcases List.mem_append.mp hmem with hold | hnew
    · exact h.declared other hother declaration hold
    · have hdeclared := migratedColumns_declared column hcolumn base hbase hname
      rw [← List.mem_singleton.mp hnew] at hdeclared
      exact (isVersion_create hbase).declared other hother declaration hdeclared

theorem schemaGenuine_addColumn {column : String × String × ColumnDeclaration}
    (hcolumn : column ∈ migratedColumns) {file : DatabaseFile} (h : SchemaGenuine file) :
    SchemaGenuine (addColumnIfMissingUnlocked column file).2 := by
  rcases addColumnIfMissing_cases (isValidTableName_migrated column hcolumn) file with
    ⟨-, hstep⟩ | ⟨-, -, hstep⟩ | ⟨t, ht, -, hstep⟩
  · rw [hstep]
    exact h
  · rw [hstep]
    exact h
  · rw [hstep]
    intro d hd
    by_cases hname : column.1 ∈ d.created
    · -- the definition is that of the table which gets the column
      have hvalid : ∀ column ∈ migratedColumns, ∃ base ∈ baseTables, base.name = column.1 := by
        decide
      obtain ⟨base, hbase, heq⟩ := hvalid column hcolumn
      have hsame : tableDefinition base = d :=
        created_unique (tableDefinition_mem hbase) hd (heq ▸ List.mem_singleton_self _) hname
      subst hsame
      intro _
      obtain ⟨t', ht', hversion⟩ := h _ hd (by
        simp [tableDefinition, Definition.isNamed, heq, Catalog.tables_eq_some.mp ht,
          CatalogObject.isIndex])
      rw [heq, ht] at ht'
      cases ht'
      refine ⟨_, Catalog.tables_eq_some.mpr ?_, hversion.addColumn hbase hcolumn heq⟩
      rw [heq]
      exact Catalog.withObject_self _ _ _
    · refine (h d hd).congr (fun name hmem => ?_) fun _ _ => rfl
      exact Catalog.withObject_of_ne (fun heq : name = column.1 => hname (heq ▸ hmem)) _ _

theorem schemaGenuine_migrate {file : DatabaseFile} (h : SchemaGenuine file) :
    SchemaGenuine (migrate file).2 := by
  have hexecute : ∀ ds : List SchemaDefinition, ds ⊆ schemaDefinitions →
      ∀ step ∈ ds.map Definition.execute, ∀ c : DatabaseFile, SchemaGenuine c →
        SchemaGenuine (step c).2 := by
    intro ds hds step hstep c hc
    obtain ⟨d, hd, rfl⟩ := List.mem_map.mp hstep
    exact schemaGenuine_execute (hds hd) hc
  refine eachOf_keeps (hexecute searchObjects (List.subset_append_right _ _))
    (eachOf_keeps ?_ (allOf_keeps (hexecute creations (List.subset_append_left _ _)) h))
  intro step hstep c hc
  obtain ⟨column, hcolumn, rfl⟩ := List.mem_map.mp hstep
  exact schemaGenuine_addColumn hcolumn hc

/-- Names that are taken by nothing else stand for the whole schema, once the migrated columns are
listed. -/
theorem isComplete_of_migrated {file : DatabaseFile} (h : Migrated file)
    (hgenuine : SchemaGenuine file) : IsComplete file := by
  obtain ⟨⟨hcreations, hmigrated⟩, hsearch⟩ := h
  intro d hd
  have htaken : d.Taken file := (List.mem_append.mp hd).elim (hcreations d) (hsearch d)
  have hrealised := hgenuine d hd htaken.2
  cases d with
  | setting | index | virtualTable | trigger => exact hrealised
  | table name columns primaryKey =>
      obtain ⟨t, ht, hversion⟩ := hrealised
      refine ⟨t, ht, hversion.primaryKey, fun column hcolumn => ?_⟩
      by_cases hkept : IsMigrated name column.1
      · obtain ⟨declaration, hmem⟩ := hkept
        have hpresent := hmigrated _ hmem
        simp only [ColumnPresent, Catalog.tables_eq_some.mp ht, Option.any_some,
          CatalogObject.columnNames, List.contains_iff_mem] at hpresent
        obtain ⟨listed, hlisted, hname⟩ := List.mem_map.mp hpresent
        have hdeclared := hversion.declared column hcolumn listed.2 (by rwa [← hname])
        rwa [Prod.ext hname hdeclared] at hlisted
      · exact hversion.settled column hcolumn hkept

/-! ## When the call succeeds -/

/-- All base tables are there. -/
def BaseTablesPresent (file : DatabaseFile) : Prop :=
  ∀ base ∈ baseTables, (file.tables base.name).isSome = true

theorem BaseTablesPresent.mono {file file' : DatabaseFile} (h : BaseTablesPresent file)
    (hext : file.Extends file') : BaseTablesPresent file' := by
  intro base hbase
  obtain ⟨t, ht⟩ := Option.isSome_iff_exists.mp (h base hbase)
  obtain ⟨t', ht', -⟩ := hext.tables ht
  rw [ht']
  rfl

theorem schemaClear_execute {e : SchemaDefinition} (he : e ∈ schemaDefinitions)
    {file : DatabaseFile} (h : SchemaClear file) : SchemaClear (e.execute file).2 := by
  intro d hd
  rcases h d hd with hnamed | hfree
  · exact .inl (Definition.isNamed_mono (e.ensures_execute.grows file) hnamed)
  · rcases e.execute_cases file with ⟨-, heq⟩ | ⟨-, heq⟩ | ⟨-, -, heq⟩
    · rw [heq]
      exact .inr hfree
    · rw [heq]
      by_cases hsame : d = e
      · subst hsame
        exact .inl (Definition.isNamed_of_realised (d.realised_create file))
      · refine .inr fun name hname => ?_
        rw [e.create_objects file fun hname' => hsame (created_unique hd he hname hname')]
        exact hfree name hname
    · rw [heq]
      exact .inr hfree

theorem schemaClear_addColumn {column : String × String × ColumnDeclaration}
    (hcolumn : column ∈ migratedColumns) {file : DatabaseFile} (h : SchemaClear file) :
    SchemaClear (addColumnIfMissingUnlocked column file).2 := by
  have hvalid := isValidTableName_migrated column hcolumn
  intro d hd
  rcases h d hd with hnamed | hfree
  · exact .inl (Definition.isNamed_mono ((ensures_addColumnIfMissing hvalid).grows file) hnamed)
  · refine .inr fun name hname => ?_
    rcases addColumnIfMissing_cases hvalid file with ⟨-, hstep⟩ | ⟨-, -, hstep⟩ | ⟨t, ht, -, hstep⟩
    · rw [hstep]
      exact hfree name hname
    · rw [hstep]
      exact hfree name hname
    · rw [hstep]
      have hne : name ≠ column.1 := by
        rintro rfl
        cases (hfree column.1 hname).symm.trans (Catalog.tables_eq_some.mp ht)
      exact (Catalog.withObject_of_ne hne _ _).trans (hfree name hname)

/-- Once the tables are there, the columns can be added and the search objects created. -/
theorem migrate_fst {file : DatabaseFile} (hclear : SchemaClear file)
    (h : BaseTablesPresent (allOf (creations.map Definition.execute) file).2) :
    (migrate file).1 = (allOf (creations.map Definition.execute) file).1 := by
  have hadd : ∀ step ∈ migratedColumns.map addColumnIfMissingUnlocked, ∀ c : DatabaseFile,
      BaseTablesPresent c ∧ SchemaClear c →
        (step c).1 = true ∧ BaseTablesPresent (step c).2 ∧ SchemaClear (step c).2 := by
    rintro step hstep c ⟨htables, hc⟩
    obtain ⟨column, hcolumn, rfl⟩ := List.mem_map.mp hstep
    have hvalid := isValidTableName_migrated column hcolumn
    refine ⟨?_, htables.mono ((ensures_addColumnIfMissing hvalid).grows c),
      schemaClear_addColumn hcolumn hc⟩
    rcases addColumnIfMissing_cases hvalid c with ⟨-, heq⟩ | ⟨-, hnone, -⟩ | ⟨t, -, -, heq⟩
    · rw [heq]
    · have hbase : ∀ column ∈ migratedColumns, ∃ base ∈ baseTables, base.name = column.1 := by
        decide
      obtain ⟨base, hbase, hname⟩ := hbase column hcolumn
      have hpresent := htables base hbase
      rw [hname, hnone] at hpresent
      cases hpresent
    · rw [heq]
  have hsearch : ∀ step ∈ searchObjects.map Definition.execute, ∀ c : DatabaseFile,
      BaseTablesPresent c ∧ SchemaClear c →
        (step c).1 = true ∧ BaseTablesPresent (step c).2 ∧ SchemaClear (step c).2 := by
    rintro step hstep c ⟨htables, hc⟩
    obtain ⟨d, hd, rfl⟩ := List.mem_map.mp hstep
    have hmem : d ∈ schemaDefinitions := List.mem_append_right _ hd
    refine ⟨d.execute_fst c |>.mpr ?_, htables.mono (d.ensures_execute.grows c),
      schemaClear_execute hmem hc⟩
    rcases searchObjects_cases d hd with ⟨v, rfl⟩ | ⟨t, rfl, htable⟩
    · rcases hc _ hmem with hnamed | hfree
      · exact .inl ⟨rfl, hnamed⟩
      · exact .inr (List.all_eq_true.mpr fun name hname =>
          Option.isNone_iff_eq_none.mpr (hfree name hname))
    · obtain ⟨base, hbase, hname⟩ := List.mem_map.mp htable
      obtain ⟨stored, hstored⟩ := Option.isSome_iff_exists.mp (htables base hbase)
      rw [hname, Catalog.tables_eq_some] at hstored
      cases htrigger : c.triggers t.name with
      | none =>
          right
          simp [triggerDefinition, Definition.isCreatable, htrigger, hstored,
            CatalogObject.isStored]
      | some definition =>
          left
          simp [triggerDefinition, Definition.Taken, Definition.hasTable, Definition.isNamed,
            htrigger, hstored, CatalogObject.isTriggerable]
  have hcreated : SchemaClear (allOf (creations.map Definition.execute) file).2 := by
    refine allOf_keeps (fun step hstep c hc => ?_) hclear
    obtain ⟨d, hd, rfl⟩ := List.mem_map.mp hstep
    exact schemaClear_execute (List.mem_append_left _ hd) hc
  have hfirst := eachOf_fst hadd ⟨h, hcreated⟩
  have hkept := eachOf_keeps (fun step hstep c hc => (hadd step hstep c hc).2) ⟨h, hcreated⟩
  exact (eachOf_fst hsearch hkept).trans hfirst

/-- The part of the chain before the indexes. -/
def tableCreations : List SchemaDefinition :=
  List.replicate 3 .setting ++ baseTables.map tableDefinition

theorem tableCreations_cases {d : SchemaDefinition} (h : d ∈ tableCreations) :
    d = .setting ∨ ∃ base ∈ baseTables, d = tableDefinition base := by
  rcases List.mem_append.mp h with h | h
  · exact .inl (List.mem_replicate.mp h).2
  · obtain ⟨base, hbase, rfl⟩ := List.mem_map.mp h
    exact .inr ⟨base, hbase, rfl⟩

theorem tableCreations_mem {d : SchemaDefinition} (h : d ∈ tableCreations) :
    d ∈ schemaDefinitions :=
  List.mem_append_left _ (List.mem_append_left _ h)

/-- The file after the part of the chain before the indexes. -/
def withTables (file : DatabaseFile) : DatabaseFile :=
  (allOf (tableCreations.map Definition.execute) file).2

section WithTables

variable {file : DatabaseFile}

theorem tableCreations_succeed (h : SchemaClear file) :
    (allOf (tableCreations.map Definition.execute) file).1 = true := by
  refine allOf_fst (I := SchemaClear) (fun step hstep c hc => ?_) h
  obtain ⟨d, hd, rfl⟩ := List.mem_map.mp hstep
  refine ⟨d.execute_fst c |>.mpr ?_, schemaClear_execute (tableCreations_mem hd) hc⟩
  rcases tableCreations_cases hd with rfl | ⟨base, hbase, rfl⟩
  · exact .inl ⟨rfl, rfl⟩
  · rcases hc _ (tableCreations_mem hd) with hnamed | hfree
    · exact .inl ⟨rfl, hnamed⟩
    · exact .inr (Option.isNone_iff_eq_none.mpr (hfree base.name (List.mem_singleton_self _)))

/-- The creation of the tables touches nothing but them. -/
theorem withTables_objects {name : String} (h : ∀ base ∈ baseTables, name ≠ base.name) :
    (withTables file).objects name = file.objects name := by
  refine allOf_keeps (I := fun c => c.objects name = file.objects name)
    (fun step hstep c hc => ?_) rfl
  obtain ⟨d, hd, rfl⟩ := List.mem_map.mp hstep
  have hother : name ∉ d.created := by
    rcases tableCreations_cases hd with rfl | ⟨base, hbase, rfl⟩
    · exact List.not_mem_nil
    · exact fun hname => h base hbase (List.mem_singleton.mp hname)
  rcases d.execute_cases c with ⟨-, heq⟩ | ⟨-, heq⟩ | ⟨-, -, heq⟩
  · rw [heq]
    exact hc
  · rw [heq, d.create_objects c hother]
    exact hc
  · rw [heq]
    exact hc

/-- A table that is there stays as it is, and one that is not is created with all its columns. -/
theorem withTables_tables (hclear : SchemaClear file) (hgenuine : SchemaGenuine file)
    {base : BaseTable} (hbase : base ∈ baseTables) : (withTables file).tables base.name =
      some ((file.tables base.name).getD (.create base.columns base.primaryKey)) := by
  have hmem := tableDefinition_mem hbase
  have hkept : (withTables file).objects base.name = file.objects base.name ∨
      (file.objects base.name = none ∧ (withTables file).objects base.name =
        some (.table (.create base.columns base.primaryKey))) := by
    refine allOf_keeps (I := fun c => c.objects base.name = file.objects base.name ∨
      (file.objects base.name = none ∧ c.objects base.name =
        some (.table (.create base.columns base.primaryKey)))) (fun step hstep c hc => ?_) (.inl rfl)
    obtain ⟨d, hd, rfl⟩ := List.mem_map.mp hstep
    rcases d.execute_cases c with ⟨-, heq⟩ | ⟨hcreatable, heq⟩ | ⟨-, -, heq⟩
    · rw [heq]
      exact hc
    · rw [heq]
      by_cases hname : base.name ∈ d.created
      · have hsame := created_unique hmem (tableCreations_mem hd) (List.mem_singleton_self _) hname
        subst hsame
        have hnone := Definition.objects_of_isCreatable hcreatable base.name hname
        rcases hc with hc | ⟨-, hc⟩
        · exact .inr ⟨hc.symm.trans hnone, Catalog.withObject_self _ _ _⟩
        · rw [hnone] at hc
          cases hc
      · rw [d.create_objects c hname]
        exact hc
    · rw [heq]
      exact hc
  rcases hkept with hkept | ⟨hnone, hcreated⟩
  · have htaken : (tableDefinition base).Taken (withTables file) :=
      (ensures_allOf _ _ tableCreations fun d _ => d.ensures_execute).holds file
        (tableCreations_succeed hclear) (tableDefinition base)
        (List.mem_append_right _ (List.mem_map_of_mem hbase))
    have hnamed : (tableDefinition base).isNamed file = true := by
      have hnamed := htaken.2
      simp only [tableDefinition, Definition.isNamed, hkept] at hnamed ⊢
      exact hnamed
    obtain ⟨t, ht, -⟩ := hgenuine _ hmem hnamed
    rw [Catalog.tables, hkept, ← Catalog.tables, ht]
    rfl
  · simp [Catalog.tables, hcreated, hnone]

theorem baseTablesPresent_withTables (hclear : SchemaClear file) (hgenuine : SchemaGenuine file) :
    BaseTablesPresent (withTables file) := by
  intro base hbase
  rw [withTables_tables hclear hgenuine hbase]
  rfl

end WithTables

/-- The migrated tables that are there have the columns of their indexes. -/
def IndexedColumnsPresent (file : DatabaseFile) : Prop :=
  ∀ table ∈ ["memory_entities", "memory_relations"], ∀ t, file.tables table = some t →
    "agent_id" ∈ t.columnNames ∧ "active" ∈ t.columnNames

theorem baseIndexes_settled : ∀ index ∈ baseIndexes, ∃ base ∈ baseTables, base.name = index.2.1 ∧
    index.2.2 ⊆ base.columns.map Prod.fst ∧
    ((∀ column ∈ index.2.2, ¬IsMigrated base.name column) ∨
      (base.name ∈ ["memory_entities", "memory_relations"] ∧
        index.2.2 ⊆ ["agent_id", "active"])) := by
  decide

theorem indexed_pair : ∀ table ∈ ["memory_entities", "memory_relations"],
    ∃ index ∈ baseIndexes, index.2.1 = table ∧ index.2.2 = ["agent_id", "active"] := by
  decide

/-- An index of a table that is there is there too, or it is created if its columns are there. -/
theorem index_succeeds_iff {file : DatabaseFile} (h : IsEarlierVersion file)
    {index : String × String × List String} (hindex : index ∈ baseIndexes) :
    (indexDefinition index).Taken (withTables file) ∨
        (indexDefinition index).isCreatable (withTables file) = true ↔
      (indexDefinition index).isNamed file = true ∨
        (withTables file).hasColumns index.2.1 index.2.2 = true := by
  have hobjects : (withTables file).objects index.1 = file.objects index.1 := by
    refine withTables_objects fun base hbase hname => ?_
    have hsame := created_unique (indexDefinition_mem hindex) (tableDefinition_mem hbase)
      (List.mem_singleton_self _) (hname ▸ List.mem_singleton_self _)
    cases hsame
  have htable : ((withTables file).tables index.2.1).isSome = true := by
    obtain ⟨base, hbase, hname, -⟩ := baseIndexes_settled index hindex
    rw [← hname]
    exact baseTablesPresent_withTables h.clear h.genuine base hbase
  have hfree : (indexDefinition index).isNamed file = true ∨ file.objects index.1 = none :=
    (h.clear _ (indexDefinition_mem hindex)).imp id fun hfree =>
      hfree index.1 (List.mem_singleton_self _)
  simp only [indexDefinition, Definition.Taken, Definition.hasTable, Definition.isNamed,
    Definition.isCreatable, hobjects, htable, true_and] at hfree ⊢
  rcases hfree with hnamed | hnone
  · simp [hnamed]
  · simp [hnone]

/-- The chain succeeds exactly when no index meets a table without its columns. -/
theorem creations_fst {file : DatabaseFile} (h : IsEarlierVersion file) :
    (allOf (creations.map Definition.execute) file).1 = true ↔ IndexedColumnsPresent file := by
  have hsplit : creations.map (Definition.execute (V := SqlValue)) =
      tableCreations.map Definition.execute ++
        baseIndexes.map fun i => (Definition.index i.1 i.2.1 i.2.2 : SchemaDefinition).execute := by
    simp [creations, tableCreations, indexDefinition, Function.comp_def]
  rw [hsplit, allOf_append_of_succeeds (tableCreations_succeed h.clear),
    allOf_indexes baseIndexes (by decide)]
  have hsteps := forall₂_congr fun i hi => @index_succeeds_iff _ h i hi
  refine Iff.trans hsteps ?_
  constructor
  · intro hindexes table htable t ht
    obtain ⟨i, hi, hon, hpair⟩ := indexed_pair table htable
    obtain ⟨base, hbase, hname, -⟩ := baseIndexes_settled i hi
    have hcolumns : file.hasColumns i.2.1 i.2.2 = true := by
      rcases hindexes i hi with hpresent | hcolumns
      · exact h.indexes i hi hpresent
      · obtain ⟨t', ht', hin⟩ := Catalog.hasColumns_iff.mp hcolumns
        rw [← hname, withTables_tables h.clear h.genuine hbase, hname, hon, ht] at ht'
        cases ht'
        exact Catalog.hasColumns_iff.mpr ⟨t, hon ▸ ht, hin⟩
    obtain ⟨t', ht', hin⟩ := Catalog.hasColumns_iff.mp hcolumns
    rw [hon, ht] at ht'
    cases ht'
    rw [hpair] at hin
    exact ⟨hin _ (by simp), hin _ (by simp)⟩
  · intro hcolumns i hi
    obtain ⟨base, hbase, hname, hsubset, hcases⟩ := baseIndexes_settled i hi
    right
    rw [← hname]
    refine Catalog.hasColumns_iff.mpr ⟨_, withTables_tables h.clear h.genuine hbase,
      fun column hcolumn => ?_⟩
    cases ht : file.tables base.name with
    | none => exact hsubset hcolumn
    | some t =>
        rcases hcases with hsettled | ⟨htable, hpair⟩
        · obtain ⟨t', ht', hversion⟩ := h.genuine _ (tableDefinition_mem hbase) (by
            simp [tableDefinition, Definition.isNamed, Catalog.tables_eq_some.mp ht,
              CatalogObject.isIndex])
          rw [ht] at ht'
          cases ht'
          obtain ⟨listed, hlisted, rfl⟩ := List.mem_map.mp (hsubset hcolumn)
          exact List.mem_map_of_mem (hversion.settled listed hlisted (hsettled _ hcolumn))
        · obtain ⟨hagent, hactive⟩ := hcolumns base.name htable t ht
          have hcolumn' := hpair hcolumn
          simp only [List.mem_cons, List.not_mem_nil, or_false] at hcolumn'
          rcases hcolumn' with rfl | rfl
          · exact hagent
          · exact hactive

/-! ## One call -/

theorem creations_grow {file : DatabaseFile} (h : SchemaClear file) :
    (withTables file).Extends (allOf (creations.map Definition.execute) file).2 := by
  have hsplit : creations.map (Definition.execute (V := SqlValue)) =
      tableCreations.map Definition.execute ++ (baseIndexes.map indexDefinition).map
        Definition.execute := by
    simp [creations, tableCreations]
  rw [hsplit, allOf_append_of_succeeds (tableCreations_succeed h)]
  exact (ensures_allOf _ _ _ fun d _ => d.ensures_execute).grows (withTables file)

theorem migrate_succeeds_iff {file : DatabaseFile} (h : IsEarlierVersion file) :
    (migrate file).1 = true ↔ IndexedColumnsPresent file := by
  have htables := (baseTablesPresent_withTables h.clear h.genuine).mono (creations_grow h.clear)
  rw [migrate_fst h.clear htables, creations_fst h]

theorem initializeStore_succeeds_iff {errmsg : Text} {file : DatabaseFile} :
    (initializeStore false (.ok ()) errmsg file).1 = memorySuccess ↔ (migrate file).1 = true := by
  simp only [initializeStore, Bool.false_eq_true, if_false]
  rcases migrate file with ⟨ok, file'⟩
  cases ok with
  | true => simp
  | false => simp [memorySuccess, sqliteFailure, memoryFailure]

theorem initializeStore_snd {errmsg : Text} {file : DatabaseFile} :
    (initializeStore false (.ok ()) errmsg file).2 = (migrate file).2 := by
  simp only [initializeStore, Bool.false_eq_true, if_false]
  rcases migrate file with ⟨ok, file'⟩
  cases ok <;> rfl

/-- A call migrates a database of an earlier version exactly when the tables of entities and of
relations, where they are there, have the columns that their indexes are made on. -/
theorem migrates_in_one_call_iff {errmsg : Text} {file : DatabaseFile}
    (h : IsEarlierVersion file) :
    MigratesInOneCall errmsg file ↔ IndexedColumnsPresent file := by
  rw [← migrate_succeeds_iff h]
  constructor
  · exact fun hcall => initializeStore_succeeds_iff.mp hcall.succeeds
  · intro hok
    have hmigrated := ensures_migrate.holds file hok
    constructor
    · exact initializeStore_succeeds_iff.mpr hok
    · rw [initializeStore_snd]
      exact isComplete_of_migrated hmigrated (schemaGenuine_migrate h.genuine)
    · rw [initializeStore_snd]
      exact ensures_migrate.grows file
    · intro errmsg'
      rw [initializeStore_snd]
      simp only [initializeStore, Bool.false_eq_true, if_false, ensures_migrate.idle _ hmigrated]

/-- A file without any object. -/
def newFile : DatabaseFile where
  objects := fun _ => none
  triggers := fun _ => none

theorem schemaGenuine_newFile : SchemaGenuine newFile := by
  intro d _
  cases d with
  | setting => exact fun _ => trivial
  | table | index | virtualTable | trigger => exact nofun

/-- A file with one table and nothing else. -/
def fileWith (name : String) (t : StoredTable String ColumnDeclaration SqlValue) : DatabaseFile :=
  newFile.withObject name (.table t)

theorem fileWith_tables {name other : String} {t t' : StoredTable String ColumnDeclaration SqlValue}
    (h : (fileWith name t).tables other = some t') : other = name ∧ t' = t := by
  rw [Catalog.tables_eq_some, fileWith] at h
  by_cases heq : other = name
  · rw [heq, Catalog.withObject_self] at h
    cases h
    exact ⟨heq, rfl⟩
  · rw [Catalog.withObject_of_ne heq] at h
    cases h

theorem isEarlierVersion_fileWith {base : BaseTable} (hbase : base ∈ baseTables)
    {t : StoredTable String ColumnDeclaration SqlValue}
    (h : IsVersion base.name base.columns base.primaryKey t) :
    IsEarlierVersion (fileWith base.name t) := by
  have hother {d : SchemaDefinition} (hd : d ∈ schemaDefinitions) (hne : tableDefinition base ≠ d) :
      ∀ name ∈ d.created, (fileWith base.name t).objects name = none := by
    intro name hname
    refine Catalog.withObject_of_ne (fun heq : name = base.name => hne ?_) _ _
    exact created_unique (tableDefinition_mem hbase) hd (List.mem_singleton_self _) (heq ▸ hname)
  have hobject : (fileWith base.name t).objects base.name = some (.table t) :=
    Catalog.withObject_self _ _ _
  have hnamed : (tableDefinition base).isNamed (fileWith base.name t) = true := by
    simp [tableDefinition, Definition.isNamed, hobject, CatalogObject.isIndex]
  constructor
  · intro d hd
    by_cases heq : tableDefinition base = d
    · subst heq
      exact fun _ => ⟨t, Catalog.tables_eq_some.mpr hobject, h⟩
    · exact (schemaGenuine_newFile d hd).congr (hother hd heq) fun _ _ => rfl
  · intro d hd
    by_cases heq : tableDefinition base = d
    · subst heq
      exact .inl hnamed
    · exact .inr (hother hd heq)
  · intro index hindex hnamed
    have hne : tableDefinition base ≠ indexDefinition index := by
      simp [tableDefinition, indexDefinition]
    have hfree := hother (indexDefinition_mem hindex) hne index.1 (List.mem_singleton_self _)
    simp [indexDefinition, Definition.isNamed, hfree] at hnamed

theorem indexedColumnsPresent_fileWith {name : String}
    {t : StoredTable String ColumnDeclaration SqlValue} :
    IndexedColumnsPresent (fileWith name t) ↔ (name ∈ ["memory_entities", "memory_relations"] →
      "agent_id" ∈ t.columnNames ∧ "active" ∈ t.columnNames) := by
  constructor
  · intro h hname
    exact h name hname t (Catalog.tables_eq_some.mpr (Catalog.withObject_self _ _ _))
  · intro h table htable t' ht'
    obtain ⟨rfl, rfl⟩ := fileWith_tables ht'
    exact h htable

/-- One row of `memory_entities` with none of the migrated columns. -/
def unmigratedEntities : StoredTable String ColumnDeclaration SqlValue :=
  ⟨[("id", { type := "TEXT", constraints := [.primaryKey] }), ("type", .text), ("name", .text),
      ("summary", .text), ("confidence", .real), ("metadata_json", .text),
      ("created_at", .datetimeNow), ("updated_at", .datetimeNow)], [],
    [[.text (ascii "e1"), .text (ascii "person"), .text (ascii "Ada"), .text [], .real 1,
      .text (ascii "{}"), .text [], .text []]], by simp⟩

theorem isVersion_unmigratedEntities :
    IsVersion "memory_entities" baseTables[3].columns [] unmigratedEntities where
  primaryKey := rfl
  settled := by decide
  declared := by
    have hdeclared : ∀ column ∈ baseTables[3].columns, ∀ listed ∈ unmigratedEntities.columns,
        listed.1 = column.1 → listed.2 = column.2 := by decide
    exact fun column hcolumn declaration hmem => hdeclared column hcolumn _ hmem rfl

/-- Some of the migrated columns are there, those of the index among them. -/
theorem migrates_in_one_call_indexed :
    MigratesInOneCall [] (fileWith "memory_entities"
      ((unmigratedEntities.addColumn ("agent_id", .text) (.text (ascii "a1"))).addColumn
        ("active", .integerDefault1) (.integer 1))) := by
  refine (migrates_in_one_call_iff (@isEarlierVersion_fileWith baseTables[3]
    (List.getElem_mem _) _ ⟨rfl, by decide, ?_⟩)).mpr
    (indexedColumnsPresent_fileWith.mpr fun _ => by decide)
  have hdeclared : ∀ column ∈ baseTables[3].columns, ∀ listed ∈
      ((unmigratedEntities.addColumn ("agent_id", .text) (.text (ascii "a1"))).addColumn
        ("active", .integerDefault1) (.integer 1)).columns,
      listed.1 = column.1 → listed.2 = column.2 := by decide
  exact fun column hcolumn declaration hmem => hdeclared column hcolumn _ hmem rfl

/-- The index on `agent_id` and `active` comes before these columns. -/
theorem not_migrated_in_one_call :
    IsEarlierVersion (fileWith "memory_entities" unmigratedEntities) ∧
      ¬MigratesInOneCall [] (fileWith "memory_entities" unmigratedEntities) := by
  have hversion := @isEarlierVersion_fileWith baseTables[3] (List.getElem_mem _) _
    isVersion_unmigratedEntities
  refine ⟨hversion, fun hcall => ?_⟩
  have hcolumns := (migrate_succeeds_iff hversion).mp
    (initializeStore_succeeds_iff.mp hcall.succeeds)
  exact absurd (indexedColumnsPresent_fileWith.mp hcolumns (by decide)) (by decide)

end AgentMemory
