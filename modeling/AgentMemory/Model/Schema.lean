import AgentMemory.Foundation.Catalog
import AgentMemory.Model.Store

/-! # The schema and its migration -/

namespace AgentMemory

open Foundation

inductive SqlValue where
  | null
  | integer (n : ℤ)
  | real (x : ℚ)
  | text (s : Text)
  | blob (bytes : Text)
deriving DecidableEq

inductive ColumnDefault where
  | integer (n : ℤ)
  | currentTimestamp
deriving DecidableEq

inductive ColumnConstraint where
  | primaryKey
  | autoincrement
  | notNull
  | unique
  | default (value : ColumnDefault)
  | other (text : String)
deriving DecidableEq

/-- What follows the name of a column in its table's definition. -/
structure ColumnDeclaration where
  type : String
  constraints : List ColumnConstraint := []
deriving DecidableEq

/-- What `ALTER TABLE ... ADD COLUMN` puts into the rows that are there. -/
def ColumnDeclaration.value (declaration : ColumnDeclaration) : SqlValue :=
  match declaration.constraints with
  | [.default (.integer n)] => .integer n
  | _ => .null

def ColumnDeclaration.text : ColumnDeclaration where
  type := "TEXT"

def ColumnDeclaration.real : ColumnDeclaration where
  type := "REAL"

def ColumnDeclaration.integer : ColumnDeclaration where
  type := "INTEGER"

/-- `INTEGER PRIMARY KEY AUTOINCREMENT`. -/
def ColumnDeclaration.autoincrementKey : ColumnDeclaration where
  type := "INTEGER"
  constraints := [.primaryKey, .autoincrement]

/-- `INTEGER DEFAULT 1`. -/
def ColumnDeclaration.integerDefault1 : ColumnDeclaration where
  type := "INTEGER"
  constraints := [.default (.integer 1)]

/-- `DATETIME DEFAULT CURRENT_TIMESTAMP`. -/
def ColumnDeclaration.datetimeNow : ColumnDeclaration where
  type := "DATETIME"
  constraints := [.default .currentTimestamp]

/-- What an SQLite file holds. -/
abbrev DatabaseFile := Catalog String ColumnDeclaration SqlValue VirtualTable Trigger

abbrev SchemaDefinition := Definition String ColumnDeclaration VirtualTable Trigger

abbrev SchemaStep := CatalogStep String ColumnDeclaration SqlValue VirtualTable Trigger

/-! ## The statements of `Initialize` -/

def validTableNames : List String :=
  ["memory_events", "memory_payloads", "memory_summaries", "memory_entities", "memory_relations",
    "memory_consolidation_cursors"]

structure BaseTable where
  name : String
  columns : List (String × ColumnDeclaration)
  primaryKey : List String := []

/-- The base tables with their columns. -/
def baseTables : List BaseTable :=
  [{ name := "memory_events"
     columns := [("id", .autoincrementKey), ("agent_id", .text), ("session_id", .text),
       ("event_type", .integer), ("role", .text), ("content", .text), ("payload_ref", .text),
       ("tool_call_id", .text), ("tool_name", .text), ("metadata_json", .text),
       ("created_at", .datetimeNow)] },
   { name := "memory_payloads"
     columns := [("id", .autoincrementKey), ("agent_id", .text), ("session_id", .text),
       ("ref", { type := "TEXT", constraints := [.unique] }), ("content_type", .text),
       ("tool_name", .text), ("summary", .text), ("original_chars", .integer),
       ("created_at", .datetimeNow)] },
   { name := "memory_summaries"
     columns := [("id", .autoincrementKey), ("agent_id", .text), ("session_id", .text),
       ("level", .text), ("topic", .text), ("summary", .text), ("source_refs_json", .text),
       ("confidence", .real), ("created_at", .datetimeNow), ("updated_at", .datetimeNow)] },
   { name := "memory_entities"
     columns := [("id", { type := "TEXT", constraints := [.primaryKey] }), ("agent_id", .text),
       ("type", .text), ("name", .text), ("summary", .text), ("confidence", .real),
       ("source_refs_json", .text), ("metadata_json", .text), ("active", .integerDefault1),
       ("superseded_by", .text), ("created_at", .datetimeNow), ("updated_at", .datetimeNow)] },
   { name := "memory_relations"
     columns := [("id", .autoincrementKey), ("agent_id", .text), ("from_entity", .text),
       ("relation", .text), ("to_entity", .text), ("confidence", .real), ("source_refs_json", .text),
       ("metadata_json", .text), ("active", .integerDefault1), ("created_at", .datetimeNow),
       ("updated_at", .datetimeNow)] },
   { name := "memory_consolidation_cursors"
     columns := [("agent_id", { type := "TEXT", constraints := [.notNull] }),
       ("session_id", { type := "TEXT", constraints := [.notNull] }),
       ("cursor", { type := "INTEGER", constraints := [.notNull, .default (.integer 0)] }),
       ("updated_at", .datetimeNow)]
     primaryKey := ["agent_id", "session_id"] }]

/-- The indexes, each with its table and columns. -/
def baseIndexes : List (String × String × List String) :=
  [("idx_events_agent_session_id", "memory_events", ["agent_id", "session_id", "id"]),
    ("idx_payloads_agent_session_created", "memory_payloads",
      ["agent_id", "session_id", "created_at", "id"]),
    ("idx_summaries_agent_session_updated", "memory_summaries",
      ["agent_id", "session_id", "updated_at", "id"]),
    ("idx_entities_agent_active", "memory_entities", ["agent_id", "active"]),
    ("idx_relations_agent_active", "memory_relations", ["agent_id", "active"]),
    ("idx_relations_active", "memory_relations", ["active"])]

def tableDefinition (table : BaseTable) : SchemaDefinition :=
  .table table.name table.columns table.primaryKey

def indexDefinition (index : String × String × List String) : SchemaDefinition :=
  .index index.1 index.2.1 index.2.2

/-- The statements chained by `&&`: three `PRAGMA`s, the tables and their indexes. -/
def creations : List SchemaDefinition :=
  List.replicate 3 .setting ++ baseTables.map tableDefinition ++ baseIndexes.map indexDefinition

/-- The columns that are added if they are missing. -/
def migratedColumns : List (String × String × ColumnDeclaration) :=
  [("memory_entities", "agent_id", .text),
    ("memory_entities", "active", .integerDefault1),
    ("memory_entities", "superseded_by", .text),
    ("memory_entities", "source_refs_json", .text),
    ("memory_relations", "agent_id", .text),
    ("memory_relations", "active", .integerDefault1),
    ("memory_relations", "source_refs_json", .text),
    ("memory_relations", "metadata_json", .text)]

/-- The shadow tables of an FTS5 table whose content is in another table. -/
def shadowTables (name : String) : List String :=
  ["_data", "_idx", "_docsize", "_config"].map (name ++ ·)

def virtualTableDefinition (v : VirtualTable) : SchemaDefinition :=
  .virtualTable v.name v v.columns (shadowTables v.name)

def triggerDefinition (t : Trigger) : SchemaDefinition :=
  .trigger t.name t.onTable t

/-- Each full-text table and the triggers of its content table, in the order of the statements. -/
def searchObjects : List SchemaDefinition :=
  virtualTableDefinition ftsMemorySummaries ::
      [ftsMemSumAi, ftsMemSumAd, ftsMemSumAu].map triggerDefinition ++
    virtualTableDefinition ftsMemoryEntities ::
      [ftsMemEntAi, ftsMemEntAd, ftsMemEntAu].map triggerDefinition ++
    virtualTableDefinition ftsMemoryRelations ::
      [ftsMemRelAi, ftsMemRelAd, ftsMemRelAu].map triggerDefinition

def schemaDefinitions : List SchemaDefinition :=
  creations ++ searchObjects

/-! ## Migration -/

def isValidTableName (tableName : String) : Bool :=
  validTableNames.contains tableName

/-- `PRAGMA table_info` has no row for a table that is not there. -/
def columnExistsUnlocked (tableName columnName : String) (file : DatabaseFile) : Bool :=
  isValidTableName tableName &&
    (file.objects tableName).any fun o => o.columnNames.contains columnName

/-- `ALTER TABLE ... ADD COLUMN` for a table, a column and what it is declared as. -/
def alterTable (column : String × String × ColumnDeclaration) : SchemaStep :=
  Catalog.addColumn column.1 column.2 column.2.2.value

def addColumnIfMissingUnlocked (column : String × String × ColumnDeclaration) : SchemaStep :=
  fun file =>
    if !isValidTableName column.1 then (false, file)
    else if columnExistsUnlocked column.1 column.2.1 file then (true, file)
    else alterTable column file

/-- The body of `Initialize` once the file is open, with the flag `ok`. -/
def migrate : SchemaStep :=
  eachOf (eachOf (allOf (creations.map Definition.execute))
    (migratedColumns.map addColumnIfMissingUnlocked)) (searchObjects.map Definition.execute)

/-- `MemorySqliteStore::Initialize`. A store object that has its file open does nothing;
`opening` is the outcome of `sqlite3_open`, and `errmsg` the text of `sqlite3_errmsg` at the end. -/
def initializeStore (isOpen : Bool) (opening : Except Text Unit) (errmsg : Text)
    (file : DatabaseFile) : MemoryOperationResult × DatabaseFile :=
  if isOpen then (memorySuccess, file)
  else
    match opening with
    | .error message => (sqliteFailure message "Initialize::open", file)
    | .ok () =>
        match migrate file with
        | (true, file) => (memorySuccess, file)
        | (false, file) => (sqliteFailure errmsg "Initialize::schema", file)

/-! ## Refused statements -/

/-- The outcomes of one call of `Initialize`: of `sqlite3_open`, and whether SQLite accepts each
statement, by its place among the creations, the migrated columns and the search objects. A
column has two statements, a `PRAGMA table_info` and an `ALTER TABLE`. -/
structure InitializeOutcome where
  opening : Except Text Unit := .ok ()
  creation : ℕ → Bool := fun _ => true
  tableInfo : ℕ → Bool := fun _ => true
  alteration : ℕ → Bool := fun _ => true
  searchObject : ℕ → Bool := fun _ => true
  errmsg : Text := []

/-- `AddColumnIfMissingUnlocked`. A column that could not be looked up counts as missing. -/
def addColumnUnlessListed (listed altered : Bool) (column : String × String × ColumnDeclaration) :
    SchemaStep := fun file =>
  if !isValidTableName column.1 then (false, file)
  else if listed && columnExistsUnlocked column.1 column.2.1 file then (true, file)
  else CatalogStep.unlessRefused altered (alterTable column) file

/-- The body of `Initialize` once the file is open, when some statements are refused. -/
def migrateWith (outcome : InitializeOutcome) : SchemaStep :=
  eachOf (eachOf
    (allOf (creations.zipIdx.map fun d => d.1.execute.unlessRefused (outcome.creation d.2)))
    (migratedColumns.zipIdx.map fun column =>
      addColumnUnlessListed (outcome.tableInfo column.2) (outcome.alteration column.2) column.1))
    (searchObjects.zipIdx.map fun d => d.1.execute.unlessRefused (outcome.searchObject d.2))

/-- A store object: whether `db_` is set, and the file of its path. -/
structure MemorySqliteStore where
  isOpen : Bool := false
  file : DatabaseFile

/-- `MemorySqliteStore::Initialize`. The object keeps its connection when the schema fails. -/
def MemorySqliteStore.initialize (outcome : InitializeOutcome) (store : MemorySqliteStore) :
    MemoryOperationResult × MemorySqliteStore :=
  if store.isOpen then (memorySuccess, store)
  else
    match outcome.opening with
    | .error message => (sqliteFailure message "Initialize::open", store)
    | .ok () =>
        match migrateWith outcome store.file with
        | (true, file) => (memorySuccess, { isOpen := true, file })
        | (false, file) =>
            (sqliteFailure outcome.errmsg "Initialize::schema", { isOpen := true, file })

end AgentMemory
