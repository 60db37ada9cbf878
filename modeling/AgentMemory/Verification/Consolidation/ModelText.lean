import AgentMemory.Foundation.Program
import AgentMemory.Model.Consolidation
import AgentMemory.Verification.Serialization.Parser

/-! # What becomes of the text of a model

The text is cut at its outermost braces before it is parsed. What is parsed becomes an update item
by item. -/

namespace AgentMemory

open Foundation

/-! ## The outermost braces -/

theorem findIdx?_append_cons {α : Type} {p : α → Bool} {front rest : List α} {a : α}
    (hfront : ∀ x ∈ front, p x = false) (ha : p a = true) :
    (front ++ a :: rest).findIdx? p = some front.length := by
  induction front with
  | nil => simp [List.findIdx?_cons, ha]
  | cons x front ih =>
    have hx : p x = false := hfront x List.mem_cons_self
    rw [List.cons_append, List.findIdx?_cons, hx,
      ih fun y hy => hfront y (List.mem_cons_of_mem x hy)]
    rfl

/-- The search from the end finds the last place of a byte. -/
theorem findIdx?_reverse_append_cons {a : UInt8} {front back : Text} (hback : a ∉ back) :
    (front ++ a :: back).reverse.findIdx? (· == a) = some back.length := by
  rw [List.reverse_append, List.reverse_cons, List.append_assoc, List.singleton_append,
    ← List.length_reverse]
  refine findIdx?_append_cons (fun b hb => ?_) (beq_self_eq_true a)
  exact beq_false_of_ne fun h => hback (h ▸ List.mem_reverse.mp hb)

/-- Whatever is before the first opening and after the last closing brace is cut off. -/
theorem unwrap_braces {front inner back : Text} (hfront : 0x7B ∉ front) (hback : 0x7D ∉ back) :
    unwrap (front ++ 0x7B :: (inner ++ 0x7D :: back)) = 0x7B :: (inner ++ [0x7D]) := by
  have hstart : (front ++ 0x7B :: (inner ++ 0x7D :: back)).findIdx? (· == 0x7B) =
      some front.length := by
    refine findIdx?_append_cons (fun b hb => ?_) rfl
    exact beq_false_of_ne fun h => hfront (h ▸ hb)
  have hback' : (front ++ 0x7B :: (inner ++ 0x7D :: back)).reverse.findIdx? (· == 0x7D) =
      some back.length := by
    have hsplit : front ++ 0x7B :: (inner ++ 0x7D :: back) =
        (front ++ 0x7B :: inner) ++ 0x7D :: back := by
      simp
    rw [hsplit]
    exact findIdx?_reverse_append_cons hback
  have hlength : (front ++ 0x7B :: (inner ++ 0x7D :: back)).length - 1 - back.length =
      front.length + inner.length + 1 := by
    simp only [List.length_append, List.length_cons]
    omega
  have hcount : front.length + inner.length + 1 - front.length + 1 =
      (0x7B :: (inner ++ [0x7D]) : Text).length := by
    simp only [List.length_append, List.length_cons, List.length_nil]
    omega
  have hinner : (0x7B :: (inner ++ 0x7D :: back) : Text) =
      0x7B :: (inner ++ [0x7D]) ++ back := by
    simp
  unfold unwrap
  simp only [hstart, hback', hlength]
  rw [if_pos (by omega), List.drop_left, hcount, hinner, List.take_left]

/-- A text whose first opening brace comes before its last closing brace, as it is for the text of
every object. -/
def IsObjectText (J : Text) : Prop :=
  ∃ front inner back : Text, 0x7B ∉ front ∧ 0x7D ∉ back ∧
    J = front ++ 0x7B :: (inner ++ 0x7D :: back)

/-- The part of a text that is parsed: from its first opening to its last closing brace where these
are in order, and else the whole text. -/
inductive IsOutermost : Text → Text → Prop where
  | braced {front inner back : Text} (hfront : 0x7B ∉ front) (hback : 0x7D ∉ back) :
      IsOutermost (front ++ 0x7B :: (inner ++ 0x7D :: back)) (0x7B :: (inner ++ [0x7D]))
  | whole {text : Text} (h : ¬ IsObjectText text) : IsOutermost text text

theorem exists_last_of_mem {a : UInt8} {text : Text} (h : a ∈ text) :
    ∃ front back : Text, text = front ++ a :: back ∧ a ∉ back := by
  obtain ⟨back, front, htext, hback⟩ := List.eq_append_cons_of_mem (List.mem_reverse.mpr h)
  refine ⟨front.reverse, back.reverse, ?_, fun hmem => hback (List.mem_reverse.mp hmem)⟩
  rw [← List.reverse_reverse text, htext]
  simp

/-- Without an opening brace before a closing one nothing is cut off. -/
theorem unwrap_of_not_isObjectText {text : Text} (h : ¬ IsObjectText text) :
    unwrap text = text := by
  by_cases hopen : 0x7B ∈ text
  · obtain ⟨front, rest, rfl, hfront⟩ := List.eq_append_cons_of_mem hopen
    have hstart : (front ++ 0x7B :: rest).findIdx? (· == 0x7B) = some front.length := by
      refine findIdx?_append_cons (fun b hb => ?_) rfl
      exact beq_false_of_ne fun heq => hfront (heq ▸ hb)
    have hrest : 0x7D ∉ rest := by
      intro hmem
      obtain ⟨inner, back, rfl, hback⟩ := exists_last_of_mem hmem
      exact h ⟨front, inner, back, hfront, hback, rfl⟩
    by_cases hclose : 0x7D ∈ front
    · -- The last closing brace is before the first opening one.
      obtain ⟨before, after, rfl, hafter⟩ := exists_last_of_mem hclose
      have hback : 0x7D ∉ after ++ 0x7B :: rest := by
        simp [hafter, hrest]
      have hstop : (before ++ 0x7D :: after ++ 0x7B :: rest).reverse.findIdx? (· == 0x7D) =
          some (after ++ 0x7B :: rest).length := by
        rw [List.append_assoc, List.cons_append]
        exact findIdx?_reverse_append_cons hback
      unfold unwrap
      simp only [hstart, hstop]
      refine if_neg ?_
      simp only [List.length_append, List.length_cons]
      omega
    · have hnone : (front ++ 0x7B :: rest).reverse.findIdx? (· == 0x7D) = none := by
        rw [List.findIdx?_eq_none_iff]
        intro b hb
        have hmem : b ∈ front ∨ b ∈ (0x7B : UInt8) :: rest :=
          List.mem_append.mp (List.mem_reverse.mp hb)
        refine beq_false_of_ne fun heq => ?_
        subst heq
        rcases hmem with hmem | hmem
        · exact hclose hmem
        · exact hrest (List.mem_of_ne_of_mem (by decide) hmem)
      unfold unwrap
      rw [hnone]
      split
      · next heq => cases heq
      · rfl
  · have hnone : text.findIdx? (· == 0x7B) = none := by
      rw [List.findIdx?_eq_none_iff]
      intro b hb
      exact beq_false_of_ne fun heq => hopen (heq ▸ hb)
    unfold unwrap
    rw [hnone]

theorem isOutermost_unwrap (text : Text) : IsOutermost text (unwrap text) := by
  by_cases h : IsObjectText text
  · obtain ⟨front, inner, back, hfront, hback, rfl⟩ := h
    rw [unwrap_braces hfront hback]
    exact .braced hfront hback
  · rw [unwrap_of_not_isObjectText h]
    exact .whole h

/-- There is one such part. -/
theorem IsOutermost.eq_unwrap {text part : Text} (h : IsOutermost text part) :
    part = unwrap text := by
  cases h with
  | braced hfront hback => exact (unwrap_braces hfront hback).symm
  | whole h => exact (unwrap_of_not_isObjectText h).symm

theorem IsObjectText.unwrap_wrapped {J : Text} (h : IsObjectText J) {front back : Text}
    (hfront : 0x7B ∉ front) (hback : 0x7D ∉ back) :
    unwrap (front ++ J ++ back) = unwrap J := by
  obtain ⟨before, inner, after, hbefore, hafter, rfl⟩ := h
  have htext : front ++ (before ++ 0x7B :: (inner ++ 0x7D :: after)) ++ back =
      (front ++ before) ++ 0x7B :: (inner ++ 0x7D :: (after ++ back)) := by
    simp
  rw [htext, unwrap_braces (by simp [hfront, hbefore]) (by simp [hback, hafter]),
    unwrap_braces hbefore hafter]

/-- What is dumped of an object is such a text. -/
theorem isObjectText_dump {members : List (Text × Json)} {J : Text}
    (h : (Json.object members).dump = .ok J) : IsObjectText J := by
  rw [Json.dump] at h
  obtain ⟨inner, -, h⟩ := except_bind_eq_ok h
  refine ⟨[], inner, [], List.not_mem_nil, List.not_mem_nil, ?_⟩
  rw [← Except.ok.inj h]
  simp

/-! ## The items of an update -/

/-- The agent of a batch is the one of its first event. -/
def LongTermMemoryBatch.agentId (batch : LongTermMemoryBatch) : Text :=
  (batch.events.head?.map (·.agentId)).getD []

/-- What a list holds of one shape, in its order; values of other shapes are passed over. -/
inductive OfShape {α : Type} (shape : α → Json) : List Json → List α → Prop where
  | nil : OfShape shape [] []
  | keep {rest : List Json} {items : List α} (a : α) :
      OfShape shape rest items → OfShape shape (shape a :: rest) (a :: items)
  | pass {value : Json} {rest : List Json} {items : List α} (h : ∀ a, value ≠ shape a) :
      OfShape shape rest items → OfShape shape (value :: rest) items

/-- The values of one shape of a member that is an array. Another member, and none, has none. -/
inductive Lists {α : Type} (shape : α → Json) : Option Json → List α → Prop where
  | array {elements : List Json} {items : List α} :
      OfShape shape elements items → Lists shape (some (.array elements)) items
  | other {value : Option Json} (h : ∀ elements, value ≠ some (.array elements)) :
      Lists shape value []

/-- The text of a member that is a string, or a default. -/
inductive StringOr (fallback : Text) : Option Json → Text → Prop where
  | own (s : Text) : StringOr fallback (some (.string s)) s
  | fallback {value : Option Json} (h : ∀ s, value ≠ some (.string s)) :
      StringOr fallback value fallback

/-- The value of a member that is a number, or a half. -/
inductive NumberOrHalf : Option Json → ℚ → Prop where
  | integer (n : ℤ) : NumberOrHalf (some (.integer n)) n
  | unsigned (n : ℕ) : NumberOrHalf (some (.unsigned n)) n
  | float (value : ℚ) (text : FloatText) : NumberOrHalf (some (.float value text)) value
  | half {value : Option Json} (h : ∀ json, value = some json → json.isNumber = false) :
      NumberOrHalf value (1 / 2)

/-- The source refs of an item: its own strings if there are any, and else those of the batch. -/
structure RefersBy (batch : LongTermMemoryBatch) (strings refs : List Text) : Prop where
  own : strings ≠ [] → refs = strings
  inherited : strings = [] → refs = batch.sourceRefs
  nonempty : batch.sourceRefs ≠ [] → refs ≠ []

/-- An entity that was read from the object at an index among the objects of its array. -/
structure EntityOf (batch : LongTermMemoryBatch) (item : List (Text × Json) × ℕ)
    (entity : MemoryEntity) : Prop where
  agentId : entity.agentId = batch.agentId
  sourceRefs : ∃ own, Lists .string ((Json.object item.1).member? (ascii "sourceRefs")) own ∧
    RefersBy batch own entity.sourceRefs
  id : StringOr (ascii "entity:llm." ++ decimal item.2)
    ((Json.object item.1).member? (ascii "id")) entity.id
  entityType : StringOr (ascii "unknown") ((Json.object item.1).member? (ascii "entityType"))
    entity.entityType
  name : StringOr [] ((Json.object item.1).member? (ascii "name")) entity.name
  summary : StringOr [] ((Json.object item.1).member? (ascii "summary")) entity.summary
  confidence : NumberOrHalf ((Json.object item.1).member? (ascii "confidence")) entity.confidence

structure RelationOf (batch : LongTermMemoryBatch) (item : List (Text × Json))
    (relation : MemoryRelation) : Prop where
  agentId : relation.agentId = batch.agentId
  sourceRefs : ∃ own, Lists .string ((Json.object item).member? (ascii "sourceRefs")) own ∧
    RefersBy batch own relation.sourceRefs
  fromEntityId : StringOr [] ((Json.object item).member? (ascii "fromEntityId"))
    relation.fromEntityId
  relationType : StringOr (ascii "related_to") ((Json.object item).member? (ascii "relationType"))
    relation.relationType
  toEntityId : StringOr [] ((Json.object item).member? (ascii "toEntityId")) relation.toEntityId
  confidence : NumberOrHalf ((Json.object item).member? (ascii "confidence")) relation.confidence

/-- An update with one item for each object of the parsed arrays, in their order. A text that is
not parsed, and a value that is no object, has no members. -/
structure ReadAs (batch : LongTermMemoryBatch) (parsed : Option Json)
    (update : LongTermMemoryUpdate) : Prop where
  topicSummaries : Lists .string (parsed.bind (·.member? (ascii "topicSummaries")))
    update.topicSummaries
  profileSummaries : Lists .string (parsed.bind (·.member? (ascii "profileSummaries")))
    update.profileSummaries
  entities : ∃ items, Lists .object (parsed.bind (·.member? (ascii "entities"))) items ∧
    List.Forall₂ (EntityOf batch) items.zipIdx update.entities
  relations : ∃ items, Lists .object (parsed.bind (·.member? (ascii "relations"))) items ∧
    List.Forall₂ (RelationOf batch) items update.relations

section Items

variable (item : Json) (key : String)

theorem lists_strings : Lists .string (item.member? (ascii key)) (item.strings key) := by
  unfold Json.strings
  split
  · next elements heq =>
    rw [heq]
    clear heq
    refine .array ?_
    induction elements with
    | nil => exact .nil
    | cons value rest ih =>
      cases value with
      | string s => exact .keep s ih
      | _ => exact .pass (by simp) ih
  · next hother => exact .other hother

theorem lists_objects : ∃ items : List (List (Text × Json)),
    Lists .object (item.member? (ascii key)) items ∧ item.objects key = items.map .object := by
  unfold Json.objects
  split
  · next elements heq =>
    rw [heq]
    have helements : ∃ items : List (List (Text × Json)), OfShape .object elements items ∧
        elements.filter Json.isObject = items.map .object := by
      clear heq
      induction elements with
      | nil => exact ⟨[], .nil, rfl⟩
      | cons value rest ih =>
        obtain ⟨items, hitems, hrest⟩ := ih
        cases value with
        | object members =>
          exact ⟨members :: items, .keep members hitems, congrArg (Json.object members :: ·) hrest⟩
        | _ => exact ⟨items, .pass (by simp) hitems, hrest⟩
    obtain ⟨items, hitems, hobjects⟩ := helements
    exact ⟨items, .array hitems, hobjects⟩
  · next hother => exact ⟨[], .other hother, rfl⟩

theorem stringOr_stringOr (fallback : Text) :
    StringOr fallback (item.member? (ascii key)) (item.stringOr key fallback) := by
  unfold Json.stringOr
  split
  · next s heq =>
    rw [heq]
    exact .own s
  · next hother => exact .fallback hother

theorem numberOrHalf_confidence :
    NumberOrHalf (item.member? (ascii "confidence")) item.confidence := by
  unfold Json.confidence
  cases item.member? (ascii "confidence") with
  | none => exact .half (by simp)
  | some value =>
    cases value with
    | integer n => exact .integer n
    | unsigned n => exact .unsigned n
    | float value text => exact .float value text
    | _ => exact .half (by simp [Json.isNumber])

theorem refersBy_sourceRefsOr (batch : LongTermMemoryBatch) :
    RefersBy batch (item.strings "sourceRefs") (item.sourceRefsOr batch.sourceRefs) where
  own h := by
    rw [Json.sourceRefsOr, if_neg (by simpa using h)]
  inherited h := by
    rw [Json.sourceRefsOr, if_pos (by simpa using h)]
  nonempty h := by
    unfold Json.sourceRefsOr
    dsimp only
    split
    · exact h
    · next hown => simpa using hown

end Items

theorem entityOf_parseEntity (batch : LongTermMemoryBatch) (item : List (Text × Json) × ℕ) :
    EntityOf batch item
      (parseEntity batch.sourceRefs batch.agentId (.object item.1, item.2)) where
  agentId := rfl
  sourceRefs := ⟨_, lists_strings _ _, refersBy_sourceRefsOr _ batch⟩
  id := stringOr_stringOr _ _ _
  entityType := stringOr_stringOr _ _ _
  name := stringOr_stringOr _ _ _
  summary := stringOr_stringOr _ _ _
  confidence := numberOrHalf_confidence _

theorem relationOf_parseRelation (batch : LongTermMemoryBatch) (item : List (Text × Json)) :
    RelationOf batch item (parseRelation batch.sourceRefs batch.agentId (.object item)) where
  agentId := rfl
  sourceRefs := ⟨_, lists_strings _ _, refersBy_sourceRefsOr _ batch⟩
  fromEntityId := stringOr_stringOr _ _ _
  relationType := stringOr_stringOr _ _ _
  toEntityId := stringOr_stringOr _ _ _
  confidence := numberOrHalf_confidence _

theorem forall₂_map_right {α β : Type} {R : α → β → Prop} {f : α → β} (h : ∀ x, R x (f x))
    (xs : List α) : List.Forall₂ R xs (xs.map f) := by
  rw [List.forall₂_map_right_iff, List.forall₂_same]
  exact fun x _ => h x

/-- Nothing is read of a text that is not parsed to a value with members. -/
theorem readAs_empty {batch : LongTermMemoryBatch} {parsed : Option Json}
    (h : ∀ key, parsed.bind (·.member? key) = none) : ReadAs batch parsed {} where
  topicSummaries := .other (by simp [h])
  profileSummaries := .other (by simp [h])
  entities := ⟨[], .other (by simp [h]), .nil⟩
  relations := ⟨[], .other (by simp [h]), .nil⟩

theorem readAs_parseResponse (host : Host) (batch : LongTermMemoryBatch) (text : Text) :
    ReadAs batch (host.parseJson text)
      (parseResponse host text batch.sourceRefs batch.agentId) := by
  unfold parseResponse
  cases host.parseJson text with
  | none => exact readAs_empty fun _ => rfl
  | some json =>
    cases json with
    | object members =>
      obtain ⟨entities, hentities, hentityItems⟩ := lists_objects (.object members) "entities"
      obtain ⟨relations, hrelations, hrelationItems⟩ := lists_objects (.object members) "relations"
      have hentitiesRead : ((Json.object members).objects "entities").zipIdx.map
            (parseEntity batch.sourceRefs batch.agentId) =
          entities.zipIdx.map fun item =>
            parseEntity batch.sourceRefs batch.agentId (.object item.1, item.2) := by
        rw [hentityItems, List.zipIdx_map, List.map_map]
        rfl
      have hrelationsRead : ((Json.object members).objects "relations").map
            (parseRelation batch.sourceRefs batch.agentId) =
          relations.map fun item =>
            parseRelation batch.sourceRefs batch.agentId (.object item) := by
        rw [hrelationItems, List.map_map]
        rfl
      dsimp only
      rw [hentitiesRead, hrelationsRead]
      exact {
        topicSummaries := lists_strings (.object members) "topicSummaries"
        profileSummaries := lists_strings (.object members) "profileSummaries"
        entities := ⟨entities, hentities, forall₂_map_right (entityOf_parseEntity batch) _⟩
        relations := ⟨relations, hrelations, forall₂_map_right (relationOf_parseRelation batch) _⟩ }
    | _ => exact readAs_empty fun _ => rfl

/-! ## The processor -/

/-- What is made of the text of a model, of any model and for any batch. -/
structure ReadsModelText (host : Host) : Prop where
  /-- Text around an object without the brace that bounds it makes no difference. -/
  wrapped : ∀ (batch : LongTermMemoryBatch) (answer : ModelInvokeResult) (front J back : Text),
    IsObjectText J → 0x7B ∉ front → 0x7D ∉ back →
      llmProcess host (fun _ => .ok { answer with text := front ++ J ++ back }) batch =
        llmProcess host (fun _ => .ok { answer with text := J }) batch
  /-- What an answer says between its outermost braces is what the update holds. -/
  items : ∀ (model : MemoryModelClient) (batch : LongTermMemoryBatch) (answer : ModelInvokeResult),
    model (buildPrompt batch) = .ok answer → answer.ok = true →
      ∃ part update, IsOutermost answer.text part ∧ llmProcess host model batch = .ok update ∧
        ReadAs batch (host.parseJson part) update
  unanswered : ∀ (model : MemoryModelClient) (batch : LongTermMemoryBatch)
    (answer : ModelInvokeResult), model (buildPrompt batch) = .ok answer → answer.ok = false →
      llmProcess host model batch = .ok {}

theorem llmProcess_of_answer (host : Host) {model : MemoryModelClient}
    {batch : LongTermMemoryBatch} {answer : ModelInvokeResult}
    (hanswer : model (buildPrompt batch) = .ok answer) :
    llmProcess host model batch = .ok
      (if answer.ok then parseResponse host (unwrap answer.text) batch.sourceRefs batch.agentId
      else {}) := by
  rw [llmProcess, hanswer]
  cases hok : answer.ok with
  | true => exact if_pos hok
  | false => exact if_neg (by rw [hok]; decide)

theorem llmProcess_readsModelText (host : Host) : ReadsModelText host where
  wrapped batch answer front J back hJ hfront hback := by
    have hne : J ≠ [] := by
      obtain ⟨before, inner, after, -, -, rfl⟩ := hJ
      simp
    have hprocess : ∀ text : Text, text ≠ [] →
        llmProcess host (fun _ => .ok { answer with text := text }) batch = .ok
          (if answer.errorMessage.isEmpty then
            parseResponse host (unwrap text) batch.sourceRefs batch.agentId
          else {}) := by
      intro text htext
      have hempty : text.isEmpty = false := by simpa using htext
      rw [@llmProcess_of_answer host (fun _ => .ok { answer with text := text }) batch _ rfl]
      simp only [ModelInvokeResult.ok, hempty, Bool.not_false, Bool.and_true]
    rw [hprocess J hne, hprocess (front ++ J ++ back) (by simp [hne]),
      hJ.unwrap_wrapped hfront hback]
  items model batch answer hanswer hok :=
    ⟨unwrap answer.text, _, isOutermost_unwrap answer.text,
      (llmProcess_of_answer host hanswer).trans (by rw [if_pos hok]),
      readAs_parseResponse host batch (unwrap answer.text)⟩
  unanswered model batch answer hanswer hok := by
    rw [llmProcess_of_answer host hanswer, if_neg (by rw [hok]; decide)]

def parsingHost : Host where
  outcome := fun _ => {}
  parseJson := Json.parse readsHalf

/-- A model that gives the same answer to every prompt. -/
def saysText (text : Text) : MemoryModelClient :=
  fun _ => .ok { text := text }

def teaUpdate : Json :=
  .object [(ascii "entities", .array
    [.object [(ascii "name", .string (ascii "tea"))], .string (ascii "coffee")])]

def teaText : Text :=
  ascii "\x7b\"entities\":[\x7b\"name\":\"tea\"\x7d,\"coffee\"]\x7d"

def teaBatch : LongTermMemoryBatch where
  events := [{ agentId := ascii "alice", content := ascii "I drink tea" }]
  sourceRefs := [ascii "session://s#event:1"]

/-- An answer in a fence with a sentence before it, one of whose entities is no object. -/
theorem llmProcess_readsModelText_fenced :
    llmProcess parsingHost (saysText (ascii "Here:\n```json\n" ++ teaText ++ ascii "\n```"))
        teaBatch = llmProcess parsingHost (saysText teaText) teaBatch ∧
      ∃ update, llmProcess parsingHost (saysText teaText) teaBatch = .ok update ∧
        ReadAs teaBatch (parsingHost.parseJson teaText) update ∧
        update.entities.map (fun e => (e.agentId, e.name, e.sourceRefs)) =
          [(ascii "alice", ascii "tea", [ascii "session://s#event:1"])] := by
  have hreads := llmProcess_readsModelText parsingHost
  have hobject : IsObjectText teaText :=
    isObjectText_dump (show teaUpdate.dump = .ok teaText by decide +kernel)
  obtain ⟨part, update, hpart, hupdate, hread⟩ :=
    hreads.items (saysText teaText) teaBatch { text := teaText } rfl (by decide +kernel)
  have hwhole : part = teaText := hpart.eq_unwrap.trans (by decide +kernel)
  refine ⟨hreads.wrapped teaBatch {} _ teaText _ hobject (by decide) (by decide), update, hupdate,
    hwhole ▸ hread, ?_⟩
  have hentities : (llmProcess parsingHost (saysText teaText) teaBatch).toOption.map
      (fun u => u.entities.map fun e => (e.agentId, e.name, e.sourceRefs)) =
        some [(ascii "alice", ascii "tea", [ascii "session://s#event:1"])] := by
    decide +kernel
  rw [hupdate] at hentities
  exact Option.some.inj hentities

end AgentMemory
