import AgentMemory.Verification.Schema.Migration
import Mathlib.Logic.Relation

/-! # Repeated calls of `Initialize`

The connection of a store object doubles as the mark that its schema is complete. It is set before
the schema statements run, and a call that fails among them leaves it set. -/

namespace AgentMemory

open Foundation

/-! ## One call with refused statements -/

theorem forall_mem_zipIdx {α : Type} {P : α → Prop} {items : List α} :
    (∀ a ∈ items.zipIdx, P a.1) ↔ ∀ a ∈ items, P a := by
  have hmap : (∀ a ∈ items.zipIdx.map Prod.fst, P a) ↔ ∀ a ∈ items.zipIdx, P a.1 :=
    List.forall_mem_map
  rw [← hmap, List.zipIdx_map_fst]

/-- A refused statement fails without effect; otherwise the column is added if it is missing. -/
theorem addColumnUnlessListed_cases {column : String × String × ColumnDeclaration}
    (hvalid : isValidTableName column.1 = true) (listed altered : Bool) (file : DatabaseFile) :
    addColumnUnlessListed listed altered column file = (false, file) ∨
      addColumnUnlessListed listed altered column file = addColumnIfMissingUnlocked column file := by
  unfold addColumnUnlessListed addColumnIfMissingUnlocked
  simp only [hvalid, Bool.not_true, Bool.false_eq_true, if_false]
  cases altered with
  | false =>
      cases hlisted : listed && columnExistsUnlocked column.1 column.2.1 file with
      | true => exact .inr (by rw [(Bool.and_eq_true_iff.mp hlisted).2]; rfl)
      | false => exact .inl rfl
  | true =>
      cases listed with
      | true => exact .inr rfl
      | false =>
          cases hexists : columnExistsUnlocked column.1 column.2.1 file with
          | false => exact .inr rfl
          | true =>
              -- the column is there, or it is one of a view, so that adding it fails
              left
              have hcolumn := (Bool.and_eq_true_iff.mp hexists).2
              cases ht : file.tables column.1 with
              | none => simp [CatalogStep.unlessRefused, alterTable, Catalog.addColumn, ht]
              | some t =>
                  simp only [Catalog.tables_eq_some.mp ht, Option.any_some,
                    CatalogObject.columnNames, List.contains_iff_mem] at hcolumn
                  simp [CatalogStep.unlessRefused, alterTable, Catalog.addColumn, ht, hcolumn]

theorem achieves_addColumnUnlessListed {column : String × String × ColumnDeclaration}
    (hvalid : isValidTableName column.1 = true) (listed altered : Bool) :
    Achieves (addColumnUnlessListed listed altered column) (ColumnPresent column) where
  grows := by
    intro file
    rcases addColumnUnlessListed_cases hvalid listed altered file with h | h
    · rw [h]
      exact .refl file
    · rw [h]
      exact (ensures_addColumnIfMissing hvalid).grows file
  holds := by
    intro file hok
    rcases addColumnUnlessListed_cases hvalid listed altered file with h | h
    · rw [h] at hok
      cases hok
    · rw [h] at hok ⊢
      exact (ensures_addColumnIfMissing hvalid).holds file hok
  monotone := (ensures_addColumnIfMissing hvalid).monotone

theorem mem_migratedColumns {column : (String × String × ColumnDeclaration) × ℕ}
    (h : column ∈ migratedColumns.zipIdx) : isValidTableName column.1.1 = true :=
  isValidTableName_migrated _ (List.fst_mem_of_mem_zipIdx h)

/-- Whatever is refused, a call that succeeds leaves the schema migrated. -/
theorem achieves_migrateWith (outcome : InitializeOutcome) :
    Achieves (migrateWith outcome) Migrated := by
  refine (Achieves.eachOf (Achieves.eachOf (achieves_allOf _ (fun d => d.1.Taken)
    creations.zipIdx ?_) _ (fun column => ColumnPresent column.1) migratedColumns.zipIdx ?_) _
    (fun d => d.1.Taken) searchObjects.zipIdx ?_).congr fun file => ?_
  · exact fun d _ => d.1.ensures_execute.achieves.unlessRefused _
  · exact fun column hcolumn => achieves_addColumnUnlessListed (mem_migratedColumns hcolumn) _ _
  · exact fun d _ => d.1.ensures_execute.achieves.unlessRefused _
  · exact and_congr (and_congr (forall_mem_zipIdx (P := fun d : SchemaDefinition => d.Taken file))
      (forall_mem_zipIdx (P := fun column => ColumnPresent column file)))
      (forall_mem_zipIdx (P := fun d : SchemaDefinition => d.Taken file))

theorem schemaGenuine_migrateWith (outcome : InitializeOutcome) {file : DatabaseFile}
    (h : SchemaGenuine file) : SchemaGenuine (migrateWith outcome file).2 := by
  have hexecute : ∀ ds : List SchemaDefinition, ds ⊆ schemaDefinitions →
      ∀ accepts : ℕ → Bool, ∀ step ∈ ds.zipIdx.map fun d =>
        d.1.execute.unlessRefused (accepts d.2), ∀ c : DatabaseFile, SchemaGenuine c →
          SchemaGenuine (step c).2 := by
    intro ds hds accepts step hstep c hc
    obtain ⟨d, hd, rfl⟩ := List.mem_map.mp hstep
    unfold CatalogStep.unlessRefused
    split
    · exact schemaGenuine_execute (hds (List.fst_mem_of_mem_zipIdx hd)) hc
    · exact hc
  refine eachOf_keeps (hexecute searchObjects (List.subset_append_right _ _) _)
    (eachOf_keeps ?_ (allOf_keeps (hexecute creations (List.subset_append_left _ _) _) h))
  intro step hstep c hc
  obtain ⟨column, hcolumn, rfl⟩ := List.mem_map.mp hstep
  rcases addColumnUnlessListed_cases (mem_migratedColumns hcolumn) (outcome.tableInfo column.2)
    (outcome.alteration column.2) c with hrefused | hadded
  · rw [hrefused]
    exact hc
  · rw [hadded]
    exact schemaGenuine_addColumn (List.fst_mem_of_mem_zipIdx hcolumn) hc

theorem map_zipIdx_fst {α β : Type} (f : α → β) (items : List α) :
    (items.zipIdx.map fun a => f a.1) = items.map f := by
  rw [← List.zipIdx_map_fst 0 items, List.map_map, List.zipIdx_map_fst]
  rfl

theorem migrateWith_unrefused (opening : Except Text Unit) (errmsg : Text) :
    migrateWith { opening, errmsg } = migrate := by
  unfold migrateWith migrate
  rw [← map_zipIdx_fst Definition.execute creations,
    ← map_zipIdx_fst addColumnIfMissingUnlocked migratedColumns,
    ← map_zipIdx_fst Definition.execute searchObjects]
  rfl

/-- When nothing is refused, the call is that of `initializeStore`. -/
theorem initialize_unrefused (store : MemorySqliteStore) (opening : Except Text Unit)
    (errmsg : Text) :
    let outcome := store.initialize { opening, errmsg }
    (outcome.1, outcome.2.file) = initializeStore store.isOpen opening errmsg store.file := by
  unfold MemorySqliteStore.initialize initializeStore
  rw [migrateWith_unrefused]
  cases store.isOpen with
  | true => rfl
  | false =>
      cases opening with
      | error message => rfl
      | ok _ =>
          simp only [Bool.false_eq_true, if_false]
          rcases migrate store.file with ⟨ok, file⟩
          cases ok <;> rfl

/-! ## Sequences of calls -/

/-- A store object with what its calls of `Initialize` have returned so far. -/
structure Initialization where
  store : MemorySqliteStore
  replies : List MemoryOperationResult := []

namespace Initialization

def call (s : Initialization) (outcome : InitializeOutcome) : Initialization :=
  let (reply, store) := s.store.initialize outcome
  { store, replies := s.replies ++ [reply] }

/-- One call, whatever fails in it. -/
def Calls (s s' : Initialization) : Prop :=
  ∃ outcome, s' = s.call outcome

def HasSucceeded (s : Initialization) : Prop :=
  ∃ reply ∈ s.replies, reply.succeeded = true

/-- If the connection is open, a call has completed the schema. -/
def OpenIsInitialized (s : Initialization) : Prop :=
  s.store.isOpen = true → s.HasSucceeded

/-- If the last call returned success, the schema is complete. -/
def SuccessIsComplete (s : Initialization) : Prop :=
  ∀ reply, s.replies.getLast? = some reply → reply.succeeded = true → IsComplete s.store.file

/-- What every call under the condition keeps: nothing passes for an object of the schema, and a
success leaves the connection open and the schema complete. -/
structure Sound (s : Initialization) : Prop where
  genuine : SchemaGenuine s.store.file
  complete : s.HasSucceeded → s.store.isOpen = true ∧ IsComplete s.store.file

theorem Sound.successIsComplete {s : Initialization} (h : s.Sound) : s.SuccessIsComplete :=
  fun reply hlast hok => (h.complete ⟨reply, List.mem_of_getLast? hlast, hok⟩).2

theorem call_cases (s : Initialization) (outcome : InitializeOutcome) :
    (s.store.isOpen = true ∧ s.call outcome = { s with replies := s.replies ++ [memorySuccess] }) ∨
    (s.store.isOpen = false ∧ ∃ message, outcome.opening = .error message ∧ s.call outcome =
      { s with replies := s.replies ++ [sqliteFailure message "Initialize::open"] }) ∨
    (s.store.isOpen = false ∧ (migrateWith outcome s.store.file).1 = true ∧ s.call outcome =
      { store := { isOpen := true, file := (migrateWith outcome s.store.file).2 }
        replies := s.replies ++ [memorySuccess] }) ∨
    (s.store.isOpen = false ∧ (migrateWith outcome s.store.file).1 = false ∧ s.call outcome =
      { store := { isOpen := true, file := (migrateWith outcome s.store.file).2 }
        replies := s.replies ++ [sqliteFailure outcome.errmsg "Initialize::schema"] }) := by
  unfold call MemorySqliteStore.initialize
  cases hopen : s.store.isOpen with
  | true => exact .inl ⟨rfl, by simp⟩
  | false =>
      right
      cases hopening : outcome.opening with
      | error message => exact .inl ⟨rfl, message, rfl, by simp⟩
      | ok _ =>
          right
          rcases hmigrate : migrateWith outcome s.store.file with ⟨ok, file⟩
          cases ok with
          | true => exact .inl ⟨rfl, rfl, by simp⟩
          | false => exact .inr ⟨rfl, rfl, by simp⟩

/-- A failed call is no success, whatever it does to the store object. -/
theorem hasSucceeded_of_failed {s : Initialization} {store : MemorySqliteStore} {message : Text}
    {context : String}
    (h : HasSucceeded { store, replies := s.replies ++ [sqliteFailure message context] }) :
    s.HasSucceeded := by
  obtain ⟨reply, hreply, hok⟩ := h
  rcases List.mem_append.mp hreply with hreply | hreply
  · exact ⟨reply, hreply, hok⟩
  · rw [List.mem_singleton.mp hreply] at hok
    cases hok

/-- A call keeps the invariant when the connection is open only after a success. -/
theorem Sound.call {s : Initialization} (h : s.Sound) (hopen : s.OpenIsInitialized)
    (outcome : InitializeOutcome) : (s.call outcome).Sound := by
  rcases call_cases s outcome with ⟨htrue, heq⟩ | ⟨-, message, -, heq⟩ | ⟨-, hok, heq⟩ |
    ⟨hfalse, -, heq⟩
  · rw [heq]
    exact ⟨h.genuine, fun _ => h.complete (hopen htrue)⟩
  · rw [heq]
    exact ⟨h.genuine, fun hsucceeded => h.complete (hasSucceeded_of_failed hsucceeded)⟩
  · rw [heq]
    have hgenuine := schemaGenuine_migrateWith outcome h.genuine
    have hmigrated := (achieves_migrateWith outcome).holds _ hok
    exact ⟨hgenuine, fun _ => ⟨rfl, isComplete_of_migrated hmigrated hgenuine⟩⟩
  · rw [heq]
    refine ⟨schemaGenuine_migrateWith outcome h.genuine, fun hsucceeded => ?_⟩
    have htrue := (h.complete (hasSucceeded_of_failed hsucceeded)).1
    rw [hfalse] at htrue
    cases htrue

/-- Calls each of which finds the connection closed, or a success before it. -/
theorem run_sound {s s' : Initialization} (h : s.Sound)
    (hrun : Relation.ReflTransGen (fun s s' => s.OpenIsInitialized ∧ s.Calls s') s s') :
    s'.Sound := by
  induction hrun with
  | refl => exact h
  | tail _ hstep ih =>
      obtain ⟨hopen, outcome, rfl⟩ := hstep
      exact ih.call hopen outcome

end Initialization

/-- In every sequence of calls on a new store object and a file in which nothing passes for an object
of the schema, if no call follows a failure that left the connection open with no success before
it, a call that returns success leaves the schema complete. -/
theorem initialize_complete {file : DatabaseFile} (hfile : SchemaGenuine file)
    {s : Initialization} (hrun : Relation.ReflTransGen
      (fun s s' => s.OpenIsInitialized ∧ s.Calls s') { store := { file } } s) :
    s.SuccessIsComplete := by
  refine (Initialization.run_sound ⟨hfile, ?_⟩ hrun).successIsComplete
  rintro ⟨reply, hreply, -⟩
  cases hreply

theorem isEarlierVersion_newFile : IsEarlierVersion newFile where
  genuine := schemaGenuine_newFile
  clear := fun _ _ => .inr fun _ _ => rfl
  indexes := nofun

/-- Opening the file fails once; the next call creates the schema. -/
theorem initialize_complete_reopened :
    let s := (Initialization.call { store := { file := newFile } } { opening := .error [] }).call {}
    s.replies.getLast? = some memorySuccess ∧ IsComplete s.store.file := by
  intro s
  have hclosed {s : Initialization} (h : s.store.isOpen = false) : s.OpenIsInitialized := by
    intro hopen
    rw [h] at hopen
    cases hopen
  have hrun : Relation.ReflTransGen (fun s s' => s.OpenIsInitialized ∧ s.Calls s')
      { store := { file := newFile } } s :=
    .tail (.single ⟨hclosed rfl, _, rfl⟩) ⟨hclosed rfl, _, rfl⟩
  have hsucceeds : (initializeStore false (.ok ()) [] newFile).1 = memorySuccess := by
    rw [initializeStore_succeeds_iff, migrate_succeeds_iff isEarlierVersion_newFile]
    exact fun table _ t ht => by cases ht
  have hlast : s.replies.getLast? = some memorySuccess := by
    have hcall := congrArg Prod.fst (initialize_unrefused { file := newFile } (.ok ()) [])
    exact congrArg some (hcall.trans hsucceeds)
  exact ⟨hlast, initialize_complete schemaGenuine_newFile hrun _ hlast rfl⟩

/-- The first `PRAGMA` is refused, so that no table is created; the next call returns success. -/
theorem initialize_incomplete_retried :
    let s := (Initialization.call { store := { file := newFile } }
      { creation := fun n => n != 0 }).call {}
    Relation.ReflTransGen Initialization.Calls { store := { file := newFile } } s ∧
      ¬s.SuccessIsComplete := by
  intro s
  refine ⟨.tail (.single ⟨_, rfl⟩) ⟨_, rfl⟩, fun h => ?_⟩
  obtain ⟨t, ht, -⟩ := h memorySuccess rfl rfl _ (@tableDefinition_mem baseTables[0]
    List.mem_cons_self)
  have hmissing : (s.store.file.tables "memory_events").isSome = false := by decide
  rw [show s.store.file.tables "memory_events" = some t from ht] at hmissing
  cases hmissing

/-- An object that passes for one of the schema, other than a table, stays where it is, so that no
call completes the schema. -/
theorem not_isComplete_of_passing {d : SchemaDefinition} (hd : d ∈ schemaDefinitions)
    {file : DatabaseFile} (hnamed : d.isNamed file = true) (hother : ¬d.Realised file)
    (htable : ∀ name columns primaryKey, d ≠ .table name columns primaryKey)
    (outcome : InitializeOutcome) : ¬IsComplete (migrateWith outcome file).2 := by
  intro hcomplete
  have hrealised := hcomplete d hd
  have hext := (achieves_migrateWith outcome).grows file
  cases d with
  | setting => exact hother trivial
  | table name columns primaryKey => exact htable _ _ _ rfl
  | index name onTable columns =>
      obtain ⟨o, ho, hindex⟩ := (Option.any_eq_true _ _).mp hnamed
      obtain ⟨o', ho', hpreserves⟩ := hext.objects name o ho
      cases hpreserves with
      | same => exact hother (ho.trans (ho'.symm.trans hrealised))
      | table => cases hindex
  | virtualTable name definition columns shadows =>
      obtain ⟨o, ho, -⟩ := (Option.any_eq_true _ _).mp hnamed
      obtain ⟨o', ho', hpreserves⟩ := hext.objects name o ho
      cases hpreserves with
      | same => exact hother (ho.trans (ho'.symm.trans hrealised))
      | table => cases ho'.symm.trans hrealised
  | trigger name onTable definition =>
      obtain ⟨old, hold⟩ := Option.isSome_iff_exists.mp hnamed
      exact hother (hold.trans ((hext.triggers name old hold).symm.trans hrealised))

/-- An index of the same name on another column, and a call that returns success. -/
theorem initialize_incomplete_index :
    let file : DatabaseFile := (fileWith "memory_events" (.create baseTables[0].columns []))
      |>.withObject "idx_events_agent_session_id" (.index "memory_events" ["role"] true)
    let s := Initialization.call { store := { file } } {}
    s.replies = [memorySuccess] ∧ ¬IsComplete s.store.file := by
  intro file s
  have hsucceeds : (migrateWith {} file).1 = true := by decide +kernel
  rcases Initialization.call_cases { store := { file } } {} with ⟨hopen, -⟩ |
    ⟨-, message, hopening, -⟩ | ⟨-, -, heq⟩ | ⟨-, hfails, -⟩
  · cases hopen
  · cases hopening
  · have hother : ¬(indexDefinition baseIndexes[0]).Realised file := by
      intro h
      have hsame := (Catalog.withObject_self _ _ _).symm.trans h
      simp [baseIndexes] at hsame
    have hpassing := not_isComplete_of_passing (indexDefinition_mem (List.getElem_mem _))
      (by decide) hother nofun {}
    refine ⟨congrArg Initialization.replies heq, ?_⟩
    rw [show s.store.file = (migrateWith {} file).2 from congrArg (fun s => s.store.file) heq]
    exact hpassing
  · cases hsucceeds.symm.trans hfails

end AgentMemory
