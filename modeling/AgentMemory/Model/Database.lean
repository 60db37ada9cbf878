import AgentMemory.Foundation.Table
import AgentMemory.Foundation.Transaction
import AgentMemory.Model.Triggers
import AgentMemory.Model.Types

/-! # The database and its statements

The six tables of the schema and the data-changing SQL statements of the store, with their
parameters as bound. A column of the event log is NULL where its text was too long to be bound. The
other tables are modelled for texts within SQLite's limit, so that the rows written to them have no
NULL column other than `superseded_by`. No statement deletes rows, so the high-water mark of
`AUTOINCREMENT` is the largest rowid present. -/

namespace AgentMemory

open Foundation

/-! ## TEXT values -/

/-- A TEXT value of the database. The store binds C strings, so no value holds a NUL byte. -/
structure SqlText where
  bytes : Text
  noNul : 0 ∉ bytes
deriving DecidableEq

/-- `sqlite3_bind_text(stmt, i, s.c_str(), -1, SQLITE_TRANSIENT)`: the bytes of `s` from its
first NUL on are lost. The rows of events also say what becomes of a text above SQLite's limit,
see `bindNullable`. -/
def bindText (s : Text) : SqlText where
  bytes := cStr s
  noNul := zero_notMem_cStr s

/-- `ColumnText`. The value read back is a C string, which a TEXT value already is. -/
def columnText (t : SqlText) : Text :=
  t.bytes

theorem columnText_bindText (s : Text) : columnText (bindText s) = cStr s :=
  rfl

theorem bindText_columnText (t : SqlText) : bindText (columnText t) = t := by
  obtain ⟨bytes, noNul⟩ := t
  simpa [bindText, columnText] using cStr_eq_self noNul

theorem columnText_injective : Function.Injective columnText :=
  Function.LeftInverse.injective bindText_columnText

theorem bindText_injOn {s t : Text} (hs : 0 ∉ s) (ht : 0 ∉ t) :
    bindText s = bindText t ↔ s = t := by
  simp [bindText, cStr_eq_self hs, cStr_eq_self ht]

/-- `SQLITE_MAX_LENGTH`. -/
def maxTextLength : ℕ := 1000000000

/-- A TEXT column that may be NULL. No text of the database is longer than SQLite's limit. -/
structure NullableText where
  text? : Option SqlText
  bounded : ∀ t ∈ text?, t.bytes.length ≤ maxTextLength
deriving DecidableEq

/-- `sqlite3_bind_text` with its result ignored: a text above the limit leaves the parameter
NULL. -/
def bindNullable (s : Text) : NullableText :=
  if h : (cStr s).length ≤ maxTextLength then ⟨some (bindText s), by simpa [bindText] using h⟩
  else ⟨none, by simp⟩

namespace NullableText

/-- `ColumnText`, which reads NULL as the empty string. -/
def columnText (column : NullableText) : Text :=
  match column.text? with
  | some t => AgentMemory.columnText t
  | none => []

/-- `column = ?`, which is not true of NULL. -/
def is (column : NullableText) (t : SqlText) : Bool :=
  column.text? == some t

/-- The column holds the string. -/
def holds (column : NullableText) (s : Text) : Bool :=
  column.text?.any fun t => t.bytes == s

/-- `column NOT IN (?, ...)`, a clause that is left out when there are no values. -/
def notIn (column : NullableText) (ts : List SqlText) : Bool :=
  ts.isEmpty || column.text?.any fun t => !ts.contains t

variable {column : NullableText} {t : SqlText}

theorem is_iff : column.is t = true ↔ column.text? = some t :=
  beq_iff_eq

theorem length_le_of_is (h : column.is t = true) : t.bytes.length ≤ maxTextLength :=
  column.bounded t (is_iff.mp h)

theorem columnText_of_is (h : column.is t = true) : column.columnText = AgentMemory.columnText t := by
  rw [columnText, is_iff.mp h]

theorem text?_bindNullable_of_le {s : Text} (h : (cStr s).length ≤ maxTextLength) :
    (bindNullable s).text? = some (bindText s) := by
  rw [bindNullable, dif_pos h]

theorem text?_bindNullable_of_lt {s : Text} (h : maxTextLength < (cStr s).length) :
    (bindNullable s).text? = none := by
  rw [bindNullable, dif_neg (by omega)]

theorem bindNullable_is {s : Text} (h : (cStr s).length ≤ maxTextLength) :
    (bindNullable s).is (bindText s) = true :=
  is_iff.mpr (text?_bindNullable_of_le h)

/-- A column holds the text that was bound, if any. -/
theorem eq_of_bindNullable_is {s : Text} (h : (bindNullable s).is t = true) : t = bindText s := by
  by_cases hle : (cStr s).length ≤ maxTextLength
  · rw [is_iff, text?_bindNullable_of_le hle] at h
    exact (Option.some.inj h).symm
  · rw [is_iff, text?_bindNullable_of_lt (by omega)] at h
    cases h

end NullableText

/-! ## Rows -/

structure EventValues where
  agentId : NullableText
  sessionId : NullableText
  eventType : ℤ
  role : NullableText
  content : NullableText
  payloadRef : NullableText
  toolCallId : NullableText
  toolName : NullableText
  metadataJson : NullableText
deriving DecidableEq

structure EventRow extends EventValues where
  createdAt : Text
deriving DecidableEq

structure PayloadValues where
  agentId : SqlText
  sessionId : SqlText
  ref : SqlText
  contentType : SqlText
  toolName : SqlText
  summary : SqlText
  originalChars : ℤ
deriving DecidableEq

structure PayloadRow extends PayloadValues where
  createdAt : Text
deriving DecidableEq

structure SummaryValues where
  agentId : SqlText
  sessionId : SqlText
  level : SqlText
  topic : SqlText
  summary : SqlText
  confidence : ℚ
  sourceRefsJson : SqlText
deriving DecidableEq

structure SummaryRow extends SummaryValues where
  createdAt : Text
  updatedAt : Text
deriving DecidableEq

structure EntityValues where
  id : SqlText
  agentId : SqlText
  entityType : SqlText
  name : SqlText
  summary : SqlText
  confidence : ℚ
  sourceRefsJson : SqlText
  metadataJson : SqlText
  active : Bool
  supersededBy : Option SqlText
deriving DecidableEq

structure EntityRow extends EntityValues where
  createdAt : Text
  updatedAt : Text
deriving DecidableEq

structure RelationValues where
  agentId : SqlText
  fromEntity : SqlText
  relation : SqlText
  toEntity : SqlText
  confidence : ℚ
  sourceRefsJson : SqlText
  metadataJson : SqlText
deriving DecidableEq

structure RelationRow extends RelationValues where
  active : Bool
  createdAt : Text
  updatedAt : Text
deriving DecidableEq

structure CursorRow where
  agentId : SqlText
  sessionId : SqlText
  cursor : Int64
  updatedAt : Text
deriving DecidableEq

/-! ## Tables -/

/-- The texts in the three columns of a full-text index. -/
abbrev FtsColumns := SqlText × SqlText × SqlText

def SummaryRow.ftsColumns (r : SummaryRow) : FtsColumns :=
  (r.level, r.topic, r.summary)

def EntityRow.ftsColumns (r : EntityRow) : FtsColumns :=
  (r.entityType, r.name, r.summary)

def RelationRow.ftsColumns (r : RelationRow) : FtsColumns :=
  (r.fromEntity, r.relation, r.toEntity)

/-- What a trigger reads in a column of a row. -/
inductive Cell where
  | rowid (i : Rowid)
  | text (t : SqlText)

/-- The rowid and the texts of a row under their column names; `id` is the rowid. -/
def SummaryRow.cell (r : Rowid × SummaryRow) (column : String) : Option Cell :=
  [("rowid", .rowid r.1), ("id", .rowid r.1), ("agent_id", .text r.2.agentId),
    ("session_id", .text r.2.sessionId), ("level", .text r.2.level), ("topic", .text r.2.topic),
    ("summary", .text r.2.summary), ("source_refs_json", Cell.text r.2.sourceRefsJson)].lookup
      column

/-- The rowid and the texts of a row under their column names; `id` is a text. -/
def EntityRow.cell (r : Rowid × EntityRow) (column : String) : Option Cell :=
  [("rowid", .rowid r.1), ("id", .text r.2.id), ("agent_id", .text r.2.agentId),
    ("type", .text r.2.entityType), ("name", .text r.2.name), ("summary", .text r.2.summary),
    ("source_refs_json", .text r.2.sourceRefsJson),
    ("metadata_json", Cell.text r.2.metadataJson)].lookup column

/-- The rowid and the texts of a row under their column names; `id` is the rowid. -/
def RelationRow.cell (r : Rowid × RelationRow) (column : String) : Option Cell :=
  [("rowid", .rowid r.1), ("id", .rowid r.1), ("agent_id", .text r.2.agentId),
    ("from_entity", .text r.2.fromEntity), ("relation", .text r.2.relation),
    ("to_entity", .text r.2.toEntity), ("source_refs_json", .text r.2.sourceRefsJson),
    ("metadata_json", Cell.text r.2.metadataJson)].lookup column

/-- The value that a trigger's statement gives to a column of the index. -/
def FtsStatement.value (old new : String → Option Cell) (statement : FtsStatement)
    (column : String) : Option Cell :=
  match (statement.columns.zip statement.values).lookup column with
  | some (.old source) => old source
  | some (.new source) => new source
  | none => none

/-- The entry that a trigger's statement names: a rowid and a text for each column. -/
def VirtualTable.entry (fts : VirtualTable) (value : String → Option Cell) :
    Option (Rowid × FtsColumns) :=
  match value "rowid", fts.columns.map value with
  | some (.rowid i), [some (.text a), some (.text b), some (.text c)] => some (i, a, b, c)
  | _, _ => none

/-- What a trigger's statement asks of an index; nothing when it writes to another table or does
not name an entry. -/
def VirtualTable.command (fts : VirtualTable) (old new : String → Option Cell)
    (statement : FtsStatement) : Option (IndexCommand FtsColumns) :=
  if statement.table = fts.name then
    (fts.entry (statement.value old new)).map fun entry =>
      if statement.isDelete then .delete entry else .insert entry
  else none

/-- The statements of the triggers that an event on a table fires. -/
def firedStatements (event : TriggerEvent) (table : String) : List FtsStatement :=
  (memoryTriggers.filter fun t => t.event = event ∧ t.onTable = table).flatMap Trigger.body

/-- What the triggers of an index's content table do to the index. -/
def VirtualTable.triggers {α : Type} (fts : VirtualTable)
    (cell : Rowid × α → String → Option Cell) :
    IndexTriggers α FtsColumns where
  afterInsert r :=
    (firedStatements .insert fts.content).filterMap (fts.command (fun _ => none) (cell r))
  afterUpdate r r' :=
    (firedStatements .update fts.content).filterMap (fts.command (cell r) (cell r'))

def summaryTriggers : IndexTriggers SummaryRow FtsColumns :=
  ftsMemorySummaries.triggers SummaryRow.cell

def entityTriggers : IndexTriggers EntityRow FtsColumns :=
  ftsMemoryEntities.triggers EntityRow.cell

def relationTriggers : IndexTriggers RelationRow FtsColumns :=
  ftsMemoryRelations.triggers RelationRow.cell

structure Database where
  events : Table EventRow
  payloads : Table PayloadRow
  summaries : IndexedTable SummaryRow FtsColumns
  entities : IndexedTable EntityRow FtsColumns
  relations : IndexedTable RelationRow FtsColumns
  cursors : List CursorRow

/-- The database that `Initialize` creates. -/
def Database.empty : Database where
  events := .empty
  payloads := .empty
  summaries := .empty
  entities := .empty
  relations := .empty
  cursors := []

/-! ## Statements -/

/-- `prepare` is a preparation apart from its step, where the code does something in between;
everywhere else preparing and stepping a statement is one operation that may fail. -/
inductive Write where
  | prepare
  | insertEvent (v : EventValues)
  | upsertPayload (v : PayloadValues)
  | insertSummary (v : SummaryValues)
  | markDuplicateEntities (id agentId entityType name : SqlText)
  | upsertEntity (v : EntityValues)
  | markEntityObsolete (entityId supersededBy : SqlText)
  | deactivateRelation (fromEntity relation toEntity agentId : SqlText)
  | insertRelation (v : RelationValues)
  | upsertCursor (agentId sessionId : SqlText) (cursor : Int64)

/-- `UPDATE memory_entities SET active = 0, superseded_by = ?, updated_at = CURRENT_TIMESTAMP`. -/
def EntityRow.obsolete (now : Text) (supersededBy : SqlText) (r : EntityRow) : EntityRow :=
  { r with active := false, supersededBy := some supersededBy, updatedAt := now }

/-- The `WHERE` clause of the duplicate marking. -/
def EntityRow.isDuplicateOf (id agentId entityType name : SqlText) (r : EntityRow) : Bool :=
  r.agentId == agentId && r.entityType == entityType && r.name == name && r.id != id && r.active

/-- The `WHERE` clause of the relation deactivation. -/
def RelationRow.isLive (fromEntity relation toEntity agentId : SqlText) (r : RelationRow) : Bool :=
  r.fromEntity == fromEntity && r.relation == relation && r.toEntity == toEntity && r.active &&
    r.agentId == agentId

def CursorRow.isFor (agentId sessionId : SqlText) (r : CursorRow) : Bool :=
  r.agentId == agentId && r.sessionId == sessionId

def Database.updateEntities (p : EntityRow → Bool) (f : EntityRow → EntityRow) (db : Database) :
    Database :=
  { db with entities := db.entities.update entityTriggers p f }

def Database.updateRelations (p : RelationRow → Bool) (f : RelationRow → RelationRow)
    (db : Database) : Database :=
  { db with relations := db.relations.update relationTriggers p f }

/-- What a statement executed at `CURRENT_TIMESTAMP = now` does. `none` is the error of a full
table. -/
def Write.effect (now : Text) : Write → Database → Option Database
  | .prepare, db => db
  | .insertEvent v, db => do
      let events ← db.events.insert { v with createdAt := now }
      return { db with events }
  | .upsertPayload v, db =>
      if db.payloads.rows.any fun r => r.2.ref == v.ref then
        let payloads := db.payloads.update (fun r => r.ref == v.ref)
          fun r => { v with createdAt := r.createdAt }
        some { db with payloads }
      else do
        let payloads ← db.payloads.insert { v with createdAt := now }
        return { db with payloads }
  | .insertSummary v, db => do
      let summaries ← db.summaries.insert summaryTriggers
        { v with createdAt := now, updatedAt := now }
      return { db with summaries }
  | .markDuplicateEntities id agentId entityType name, db =>
      db.updateEntities (EntityRow.isDuplicateOf id agentId entityType name)
        (EntityRow.obsolete now id)
  | .upsertEntity v, db =>
      if db.entities.rows.any fun r => r.2.id == v.id then
        db.updateEntities (fun r => r.id == v.id)
          fun r => { v with createdAt := r.createdAt, updatedAt := now }
      else do
        let entities ← db.entities.insert entityTriggers
          { v with createdAt := now, updatedAt := now }
        return { db with entities }
  | .markEntityObsolete entityId supersededBy, db =>
      db.updateEntities (fun r => r.id == entityId) (EntityRow.obsolete now supersededBy)
  | .deactivateRelation fromEntity relation toEntity agentId, db =>
      db.updateRelations (RelationRow.isLive fromEntity relation toEntity agentId)
        fun r => { r with active := false, updatedAt := now }
  | .insertRelation v, db => do
      let relations ← db.relations.insert relationTriggers
        { v with active := true, createdAt := now, updatedAt := now }
      return { db with relations }
  | .upsertCursor agentId sessionId cursor, db =>
      if db.cursors.any (CursorRow.isFor agentId sessionId) then
        let cursors := db.cursors.map fun r =>
          if r.isFor agentId sessionId then { r with cursor, updatedAt := now } else r
        some { db with cursors }
      else
        let row : CursorRow := { agentId, sessionId, cursor, updatedAt := now }
        some { db with cursors := db.cursors ++ [row] }

/-! ## The connection -/

/-- What SQLite reports for a statement: whether it succeeds, and if not the text of
`sqlite3_errmsg` and whether it is the preparation that failed; and `CURRENT_TIMESTAMP`. -/
structure StatementOutcome where
  accepted : Bool := true
  errmsg : Text := []
  atPrepare : Bool := false
  now : Text := []

/-- The code outside the repository: SQLite's answers to the statements of a connection, by
their number, and `json::parse` with exceptions off (`none` is a discarded value). -/
structure Host where
  outcome : ℕ → StatementOutcome
  parseJson : Text → Option Json

/-- A host that refuses no statement and parses no text. -/
def Host.obliging : Host where
  outcome _ := {}
  parseJson _ := none

/-- The engine of a host whose refusals leave an open transaction to the caller. SQLite rolls it
back with the statement after `SQLITE_FULL`, `SQLITE_IOERR`, `SQLITE_NOMEM` and
`SQLITE_INTERRUPT`: `executeWith`. A callback that executes nothing after a refusal cannot tell
the difference, by `Executes.run_executeWith`. -/
def Host.engine (host : Host) : Engine Write Database Text where
  accepts n := (host.outcome n).accepted
  effect n w := w.effect (host.outcome n).now
  message n := (host.outcome n).errmsg
  rollsBack _ := false

theorem engine_effect (host : Host) (n : ℕ) (w : Write) (db : Database) :
    host.engine.effect n w db = w.effect (host.outcome n).now db := rfl

abbrev Connection := Session Database

/-- A program of SQL statements. The reply to a statement is its success or the text of
`sqlite3_errmsg`. -/
abbrev SqlM := Program (Command.signature Write Text) CxxException

def Host.execute (host : Host) : Handler (Command.signature Write Text) Connection :=
  Session.execute host.engine

/-- The statements of a host that rolls the transaction back with those of its refusals that
`rollsBack` names. -/
def Host.executeWith (host : Host) (rollsBack : ℕ → Bool) :
    Handler (Command.signature Write Text) Connection :=
  Session.execute (host.engine.rollingBack rollsBack)

/-- Runs a program of SQL statements on a connection. -/
def SqlM.runOn {α : Type} (host : Host) (p : SqlM α) (c : Connection) :
    Except CxxException α × Connection :=
  p.run host.execute c

end AgentMemory
