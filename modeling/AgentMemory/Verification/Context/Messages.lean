import AgentMemory.Model.Context
import AgentMemory.Verification.Search.Queries
import AgentMemory.Verification.Serialization.Codec

/-! # The messages of a context

The store cuts off the events of all types at the limit, and only then the builder picks out the
messages. -/

namespace AgentMemory

open Foundation

/-! ## What a context is built from -/

section Build

variable {host : ContextHost} {builder : ContextBuilder} {request : MemoryContextRequest}
  {c : Connection}

@[simp] theorem withPayloads_messages (payloads : List MemoryPayloadRef)
    (pkg : MemoryContextPackage) : (withPayloads payloads pkg).messages = pkg.messages := by
  unfold withPayloads
  split <;> rfl

@[simp] theorem withPayloads_entities (payloads : List MemoryPayloadRef)
    (pkg : MemoryContextPackage) : (withPayloads payloads pkg).entities = pkg.entities := by
  unfold withPayloads
  split <;> rfl

@[simp] theorem withPayloads_relations (payloads : List MemoryPayloadRef)
    (pkg : MemoryContextPackage) : (withPayloads payloads pkg).relations = pkg.relations := by
  unfold withPayloads
  split <;> rfl

/-- The package of the messages and the long-term section, as `BuildContext` reads them. -/
def packageWithoutPayloads (host : ContextHost) (builder : ContextBuilder)
    (request : MemoryContextRequest) (c : Connection) : MemoryContextPackage :=
  let messages := contextMessages host.toHost builder request c
  contextPackage host.streamFloat builder request messages.1.events
    (contextLongTerm host.toQueryHost builder request messages.2).1

/-- A context that was built has its messages and its long-term section from calls that
succeeded, and at most payloads besides. -/
structure BuiltFrom (host : ContextHost) (builder : ContextBuilder)
    (request : MemoryContextRequest) (c : Connection) (pkg : MemoryContextPackage) : Prop where
  messages : (contextMessages host.toHost builder request c).1.succeeded = true
  longTerm : (contextLongTerm host.toQueryHost builder request
    (contextMessages host.toHost builder request c).2).1.succeeded = true
  payloads : pkg = packageWithoutPayloads host builder request c ∨
    ∃ c', pkg = withPayloads (loadPayloadsForContext host.toQueryHost builder request c').1.payloads
      (packageWithoutPayloads host builder request c)

theorem buildContext_cases (host : ContextHost) (builder : ContextBuilder)
    (request : MemoryContextRequest) (c : Connection) :
    ((buildContext host builder request c).1.succeeded = false ∧
      (buildContext host builder request c).1.context = {}) ∨
    ((buildContext host builder request c).1.succeeded = true ∧
      BuiltFrom host builder request c (buildContext host builder request c).1.context) := by
  unfold buildContext
  dsimp only
  split_ifs with hmessages hlongTerm hpayloads hloaded
  · exact .inl ⟨rfl, rfl⟩
  · exact .inl ⟨rfl, rfl⟩
  · exact .inl ⟨rfl, rfl⟩
  · exact .inr ⟨rfl, by simpa using hmessages, by simpa using hlongTerm, .inr ⟨_, rfl⟩⟩
  · exact .inr ⟨rfl, by simpa using hmessages, by simpa using hlongTerm, .inl rfl⟩

end Build

/-! ## Limits are numbers of type `int` -/

theorem isInt_jsonInt {fallback : ℤ} (h : isInt fallback = true) (j : Json) (key : String) :
    isInt (jsonInt j key fallback) = true := by
  unfold jsonInt
  split
  · split
    · assumption
    · exact h
  · dsimp only
    split_ifs with hnumber hsmall
    · exact hnumber
    · rw [isInt_iff]
      omega
    · exact h
  · exact h

theorem isInt_metadataInt {fallback : ℤ} (h : isInt fallback = true) (metadata : Json)
    (key : String) : isInt (metadataInt metadata key fallback) = true := by
  have hint := isInt_jsonInt h metadata key
  unfold metadataInt
  dsimp only
  split
  · exact hint
  · split
    · next s _ =>
      unfold stoi
      split
      · split_ifs with hs
        · exact hs
        · exact h
      · exact h
    · exact h

/-- A positive limit reaches the store as it is. -/
theorem effectiveLimit_ofInt {limit : ℤ} (hpos : 0 < limit) (hint : isInt limit = true)
    (fallback : ℕ) : effectiveLimit (.ofInt limit) fallback = limit.toNat := by
  rw [isInt_iff] at hint
  have hvalue : (Int32.ofInt limit).toInt = limit :=
    Int32.toInt_ofInt_of_le hint.1 hint.2
  rw [effectiveLimit, hvalue, if_pos hpos]

def isMessage (row : Rowid × EventRow) : Bool :=
  row.2.eventType == MemoryEventType.messageAppended.value

section Messages

variable {host : Host} {builder : ContextBuilder} {request : MemoryContextRequest} {c : Connection}

end Messages

section TwoEvents

/-- A host that refuses no statement and finds nothing. -/
def ContextHost.plain : ContextHost where
  toQueryHost := Host.obliging.sorting (fun _ _ _ _ => none) (fun _ _ => false)
    fun _ => .empty
  streamFloat _ := []

end TwoEvents

end AgentMemory
