import AgentMemory.Model.Search
import AgentMemory.Verification.Serialization.Dump

/-! # Columns that hold JSON

What a serialised column reads back as. -/

namespace AgentMemory

open Foundation

/-- `json::parse` gives back the value that was dumped. -/
def Host.ReadsBack (host : Host) (json : Json) : Prop :=
  ∀ text, json.dump = .ok text → host.parseJson text = some json.normal

theorem columnText_dump {json : Json} {text : Text} (h : json.dump = .ok text) :
    columnText (bindText text) = text :=
  cStr_eq_self (Json.zero_notMem_dump h)

theorem normal_isObject (json : Json) : json.normal.isObject = json.isObject := by
  cases json with
  | integer n =>
      unfold Json.normal
      split <;> rfl
  | _ => rfl

section ReadBack

variable {host : Host} {text : Text}

theorem parseJsonSafely_dump {json : Json} (h : json.dump = .ok text)
    (hobject : json.isObject = true) (hreads : host.ReadsBack json) :
    parseJsonSafely host (columnText (bindText text)) = json.normal := by
  unfold parseJsonSafely
  rw [columnText_dump h, hreads text h]
  simp [normal_isObject, hobject]

end ReadBack

end AgentMemory
