/-! # The full-text tables and their triggers

The statements of `Initialize` that create the three external-content tables and the nine triggers
that keep them in step with their base tables. -/

namespace AgentMemory

/-- A column of the row before the change or of the row after it. -/
inductive RowColumn where
  | old (column : String)
  | new (column : String)
deriving DecidableEq

/-- One statement of a trigger: `INSERT INTO table(columns) VALUES (values)`, or with the command
`'delete'` ahead of the values. -/
structure FtsStatement where
  table : String
  isDelete : Bool := false
  columns : List String
  values : List RowColumn
deriving DecidableEq

inductive TriggerEvent where
  | insert
  | delete
  | update
deriving DecidableEq

/-- `CREATE TRIGGER name AFTER event ON table BEGIN body END`. -/
structure Trigger where
  name : String
  event : TriggerEvent
  onTable : String
  body : List FtsStatement
deriving DecidableEq

/-- `CREATE VIRTUAL TABLE name USING fts5(columns, content=content, content_rowid=contentRowid)`. -/
structure VirtualTable where
  name : String
  columns : List String
  content : String
  contentRowid : String
deriving DecidableEq

/-! ## Summaries -/

def ftsMemorySummaries : VirtualTable where
  name := "fts_memory_summaries"
  columns := ["level", "topic", "summary"]
  content := "memory_summaries"
  contentRowid := "id"

def ftsMemSumAi : Trigger where
  name := "fts_mem_sum_ai"
  event := .insert
  onTable := "memory_summaries"
  body := [{
    table := "fts_memory_summaries"
    columns := ["rowid", "level", "topic", "summary"]
    values := [.new "id", .new "level", .new "topic", .new "summary"] }]

def ftsMemSumAd : Trigger where
  name := "fts_mem_sum_ad"
  event := .delete
  onTable := "memory_summaries"
  body := [{
    table := "fts_memory_summaries"
    isDelete := true
    columns := ["rowid", "level", "topic", "summary"]
    values := [.old "id", .old "level", .old "topic", .old "summary"] }]

def ftsMemSumAu : Trigger where
  name := "fts_mem_sum_au"
  event := .update
  onTable := "memory_summaries"
  body := [{
    table := "fts_memory_summaries"
    isDelete := true
    columns := ["rowid", "level", "topic", "summary"]
    values := [.old "id", .old "level", .old "topic", .old "summary"] }, {
    table := "fts_memory_summaries"
    columns := ["rowid", "level", "topic", "summary"]
    values := [.new "id", .new "level", .new "topic", .new "summary"] }]

/-! ## Entities -/

def ftsMemoryEntities : VirtualTable where
  name := "fts_memory_entities"
  columns := ["type", "name", "summary"]
  content := "memory_entities"
  contentRowid := "rowid"

def ftsMemEntAi : Trigger where
  name := "fts_mem_ent_ai"
  event := .insert
  onTable := "memory_entities"
  body := [{
    table := "fts_memory_entities"
    columns := ["rowid", "type", "name", "summary"]
    values := [.new "rowid", .new "type", .new "name", .new "summary"] }]

def ftsMemEntAd : Trigger where
  name := "fts_mem_ent_ad"
  event := .delete
  onTable := "memory_entities"
  body := [{
    table := "fts_memory_entities"
    isDelete := true
    columns := ["rowid", "type", "name", "summary"]
    values := [.old "rowid", .old "type", .old "name", .old "summary"] }]

def ftsMemEntAu : Trigger where
  name := "fts_mem_ent_au"
  event := .update
  onTable := "memory_entities"
  body := [{
    table := "fts_memory_entities"
    isDelete := true
    columns := ["rowid", "type", "name", "summary"]
    values := [.old "rowid", .old "type", .old "name", .old "summary"] }, {
    table := "fts_memory_entities"
    columns := ["rowid", "type", "name", "summary"]
    values := [.new "rowid", .new "type", .new "name", .new "summary"] }]

/-! ## Relations -/

def ftsMemoryRelations : VirtualTable where
  name := "fts_memory_relations"
  columns := ["from_entity", "relation", "to_entity"]
  content := "memory_relations"
  contentRowid := "id"

def ftsMemRelAi : Trigger where
  name := "fts_mem_rel_ai"
  event := .insert
  onTable := "memory_relations"
  body := [{
    table := "fts_memory_relations"
    columns := ["rowid", "from_entity", "relation", "to_entity"]
    values := [.new "id", .new "from_entity", .new "relation", .new "to_entity"] }]

def ftsMemRelAd : Trigger where
  name := "fts_mem_rel_ad"
  event := .delete
  onTable := "memory_relations"
  body := [{
    table := "fts_memory_relations"
    isDelete := true
    columns := ["rowid", "from_entity", "relation", "to_entity"]
    values := [.old "id", .old "from_entity", .old "relation", .old "to_entity"] }]

def ftsMemRelAu : Trigger where
  name := "fts_mem_rel_au"
  event := .update
  onTable := "memory_relations"
  body := [{
    table := "fts_memory_relations"
    isDelete := true
    columns := ["rowid", "from_entity", "relation", "to_entity"]
    values := [.old "id", .old "from_entity", .old "relation", .old "to_entity"] }, {
    table := "fts_memory_relations"
    columns := ["rowid", "from_entity", "relation", "to_entity"]
    values := [.new "id", .new "from_entity", .new "relation", .new "to_entity"] }]

/-- The triggers in the order of their statements. -/
def memoryTriggers : List Trigger :=
  [ftsMemSumAi, ftsMemSumAd, ftsMemSumAu, ftsMemEntAi, ftsMemEntAd, ftsMemEntAu, ftsMemRelAi,
    ftsMemRelAd, ftsMemRelAu]

end AgentMemory
