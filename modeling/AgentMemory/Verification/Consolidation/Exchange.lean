import AgentMemory.Model.Client
import AgentMemory.Verification.Serialization.Utf8

/-! # What a client can send and what it can read

The prompt quotes the session id, the roles and the contents of the batch byte by byte, so its
request can be serialised just when these are valid UTF-8. Of an answer each client reads one kind
of member without a look at its type. -/

namespace AgentMemory

open Json Foundation

/-! ## The references of a batch -/

/-- Every event of the batch has its reference, which names the session and a valid cursor. -/
structure LongTermMemoryBatch.RefersTo (batch : LongTermMemoryBatch) (sessionId : Text) : Prop where
  length : batch.sourceRefs.length = batch.events.length
  refs : ∀ ref ∈ batch.sourceRefs, ∃ cursor, ValidUtf8 cursor ∧
    ref = ascii "session://" ++ sessionId ++ ascii "#event:" ++ cursor

theorem validUtf8_eventCursor {event : MemoryEvent} (h : ValidUtf8 event.storeCursor) (i : ℕ) :
    ValidUtf8 (eventCursor event i) := by
  unfold eventCursor
  split
  · exact validUtf8_decimal _
  · exact h

theorem buildLoop_refersTo (request : MemoryConsolidationRequest) (limit : ℤ)
    {events : List MemoryEvent} (hcursors : ∀ event ∈ events, ValidUtf8 event.storeCursor) (i : ℕ)
    (count : ℤ) (result : ConsolidationBatchBuildResult)
    (h : result.batch.RefersTo result.sessionId) :
    (buildLoop request limit i count result events).sessionId = result.sessionId ∧
      (buildLoop request limit i count result events).batch.RefersTo result.sessionId := by
  induction events generalizing i count result with
  | nil => exact ⟨rfl, h⟩
  | cons event rest ih =>
    have hcursor := validUtf8_eventCursor (hcursors event List.mem_cons_self) i
    have hrest : ∀ event ∈ rest, ValidUtf8 event.storeCursor :=
      fun e he => hcursors e (List.mem_cons_of_mem _ he)
    simp only [buildLoop]
    by_cases hselects : request.selects event = true
    · rw [if_pos hselects]
      have hadded : LongTermMemoryBatch.RefersTo {
          events := result.batch.events ++ [event]
          sourceRefs := result.batch.sourceRefs ++
            [ascii "session://" ++ result.sessionId ++ ascii "#event:" ++ eventCursor event i] }
          result.sessionId := by
        refine ⟨by simp [h.length], fun ref href => ?_⟩
        rcases List.mem_append.mp href with href | href
        · exact h.refs ref href
        · exact ⟨_, hcursor, List.mem_singleton.mp href⟩
      split
      · exact ⟨rfl, hadded⟩
      · exact ih hrest (i + 1) (count + 1) _ hadded
    · rw [if_neg hselects]
      exact ih hrest (i + 1) count _ h

/-- The references of a batch and of its session summary. -/
theorem build_refersTo (request : MemoryConsolidationRequest) {events : List MemoryEvent}
    (hcursors : ∀ event ∈ events, ValidUtf8 event.storeCursor) :
    (build request events).batch.RefersTo request.sessionId ∧
      ((build request events).batch.events ≠ [] →
        (build request events).sessionSourceRefs = [ascii "session://" ++ request.sessionId]) := by
  have hempty : LongTermMemoryBatch.RefersTo {} request.sessionId := ⟨rfl, by simp⟩
  unfold build
  dsimp only
  split
  · exact ⟨hempty, fun h => absurd rfl h⟩
  · have hloop := fun limit => buildLoop_refersTo request limit hcursors 0 0
      { sessionId := request.sessionId } hempty
    exact ⟨(hloop _).2, fun _ => by simp [(hloop _).1]⟩

/-! ## The prompt -/

theorem validUtf8_sourceRef_iff {sessionId cursor : Text} (hcursor : ValidUtf8 cursor) :
    ValidUtf8 (ascii "session://" ++ sessionId ++ ascii "#event:" ++ cursor) ↔
      ValidUtf8 sessionId := by
  have hscheme : ValidUtf8 (ascii "session://") := by decide
  rw [List.append_assoc, List.append_assoc, hscheme.append_iff,
    validUtf8_append_ascii (by decide) (lt_of_mem_ascii _ (by decide))]
  exact and_iff_left hcursor

/-- A line ends in an ASCII character, so it is valid apart from what follows. -/
theorem validUtf8_line_append_iff (s t : Text) :
    ValidUtf8 (s ++ ascii "\n" ++ t) ↔ ValidUtf8 s ∧ ValidUtf8 t := by
  rw [List.append_assoc, validUtf8_append_ascii (by decide) (lt_of_mem_ascii _ (by decide))]

theorem validUtf8_line_iff (s : Text) : ValidUtf8 (s ++ ascii "\n") ↔ ValidUtf8 s := by
  have h := validUtf8_line_append_iff s []
  rw [List.append_nil] at h
  rw [h]
  exact and_iff_left rfl

theorem validUtf8_flatten_iff {lines : List Text} (h : ∀ line ∈ lines, ∃ s, line = s ++ ascii "\n") :
    ValidUtf8 lines.flatten ↔ ∀ line ∈ lines, ValidUtf8 line := by
  induction lines with
  | nil => exact iff_of_true rfl (by simp)
  | cons line rest ih =>
    obtain ⟨s, rfl⟩ := h line List.mem_cons_self
    rw [List.flatten_cons, validUtf8_line_append_iff, List.forall_mem_cons, validUtf8_line_iff,
      ih fun line hline => h line (List.mem_cons_of_mem _ hline)]

theorem validUtf8_promptHeader : ValidUtf8 (ascii promptHeader) := by
  unfold promptHeader
  iterate 28 refine validUtf8_ascii_append ?_ _ (by decide)
  exact validUtf8_ascii _ (by decide)

section Prompt

variable {batch : LongTermMemoryBatch} {sessionId : Text}

theorem promptLine_eq (h : batch.RefersTo sessionId) (event : MemoryEvent) {i : ℕ}
    (hi : i < batch.events.length) :
    ∃ cursor, ValidUtf8 cursor ∧
      promptLine batch (event, i) =
        ascii "session://" ++ sessionId ++ ascii "#event:" ++ cursor ++ ascii " [" ++ event.role ++
          ascii "]: " ++ event.content ++ ascii "\n" := by
  have hlt : i < batch.sourceRefs.length := by
    rw [h.length]
    exact hi
  obtain ⟨cursor, hcursor, href⟩ := h.refs _ (List.getElem_mem hlt)
  refine ⟨cursor, hcursor, ?_⟩
  unfold promptLine
  rw [List.getElem?_eq_getElem hlt, Option.getD_some, href]

theorem validUtf8_promptLine_iff (h : batch.RefersTo sessionId) (event : MemoryEvent) {i : ℕ}
    (hi : i < batch.events.length) :
    ValidUtf8 (promptLine batch (event, i)) ↔
      ValidUtf8 sessionId ∧ ValidUtf8 event.role ∧ ValidUtf8 event.content := by
  obtain ⟨cursor, hcursor, hline⟩ := promptLine_eq h event hi
  have hscheme : ValidUtf8 (ascii "session://") := by decide
  rw [hline, validUtf8_line_iff]
  simp only [List.append_assoc]
  rw [hscheme.append_iff, validUtf8_append_ascii (by decide) (lt_of_mem_ascii _ (by decide)),
    hcursor.append_iff]
  have hbracket : ValidUtf8 (ascii " [") := by decide
  rw [hbracket.append_iff, validUtf8_append_ascii (by decide) (lt_of_mem_ascii _ (by decide))]

/-- A prompt for at least one event is valid just when everything it quotes is. -/
theorem validUtf8_buildPrompt_iff (h : batch.RefersTo sessionId) (hne : batch.events ≠ []) :
    ValidUtf8 (buildPrompt batch) ↔
      ValidUtf8 sessionId ∧
        ∀ event ∈ batch.events, ValidUtf8 event.role ∧ ValidUtf8 event.content := by
  have hbounds : ∀ p ∈ batch.events.zipIdx, p.2 < batch.events.length :=
    fun p hp => (List.mem_zipIdx' hp).1
  have hlines : ∀ line ∈ batch.events.zipIdx.map (promptLine batch),
      ∃ s, line = s ++ ascii "\n" := by
    intro line hline
    obtain ⟨p, -, rfl⟩ := List.mem_map.mp hline
    exact ⟨_, rfl⟩
  unfold buildPrompt
  rw [validUtf8_promptHeader.append_iff, validUtf8_flatten_iff hlines, List.forall_mem_map]
  constructor
  · intro hvalid
    have hquoted : ∀ event ∈ batch.events,
        ValidUtf8 sessionId ∧ ValidUtf8 event.role ∧ ValidUtf8 event.content := by
      intro event hevent
      obtain ⟨i, hi, rfl⟩ := List.mem_iff_getElem.mp hevent
      exact (validUtf8_promptLine_iff h _ hi).mp (hvalid _ (List.mk_mem_zipIdx_iff_getElem?.mpr
        (List.getElem?_eq_getElem hi)))
    obtain ⟨first, hfirst⟩ := List.exists_mem_of_ne_nil _ hne
    exact ⟨(hquoted first hfirst).1, fun event hevent => (hquoted event hevent).2⟩
  · rintro ⟨hsession, hevents⟩ ⟨event, i⟩ hp
    have hmem : event ∈ batch.events :=
      List.mem_of_getElem? (List.mk_mem_zipIdx_iff_getElem?.mp hp)
    exact (validUtf8_promptLine_iff h event (hbounds _ hp)).mpr ⟨hsession, hevents event hmem⟩

end Prompt

/-! ## Requests -/

section Requests

variable (printFloat : ℚ → FloatText)

theorem serialises_chatMessage_iff {role : String} (hrole : ValidUtf8 (ascii role)) (content : Text) :
    (chatMessage role content).Serialises ↔ ValidUtf8 content := by
  have hempty : (Json.object []).Serialises := ⟨_, rfl⟩
  have hmessage : chatMessage role content =
      ((Json.object []).set (ascii "role") (.string (ascii role))).set (ascii "content")
        (.string content) := rfl
  have hplaceholder : (Json.string []).Serialises := (serialises_string _).mpr rfl
  have hrole := hempty.set (show ValidUtf8 (ascii "role") by decide)
    ((serialises_string _).mpr hrole)
  have hrest := hrole.set (show ValidUtf8 (ascii "content") by decide) hplaceholder
  rw [hmessage, serialises_set_iff rfl hplaceholder, serialises_string]
  exact and_iff_right hrest

theorem serialises_user_iff (content : Text) :
    (chatMessage "user" content).Serialises ↔ ValidUtf8 content :=
  serialises_chatMessage_iff (by decide) content

theorem serialises_system : (chatMessage "system" systemPrompt).Serialises :=
  (serialises_chatMessage_iff (by decide) systemPrompt).mpr (validUtf8_ascii _ (by decide))

/-- The prompt apart, whether a request can be serialised is decided by the configuration. -/
theorem serialises_requestBody_iff (client : ModelClient) (prompt : Text) :
    (client.requestBody printFloat prompt).Serialises ↔
      (client.requestBody printFloat []).Serialises ∧ ValidUtf8 prompt := by
  cases client with
  | openai config =>
    have hmessages : ∀ content, (Json.array [chatMessage "system" systemPrompt,
        chatMessage "user" content]).Serialises ↔ ValidUtf8 content := by
      intro content
      simp [serialises_array, serialises_system, serialises_user_iff]
    refine (serialises_set_iff ?_ ((hmessages []).mpr rfl)).trans
      (and_congr_right fun _ => hmessages prompt)
    split
    · simp
    · simp
  | anthropic config =>
    have hmessages : ∀ content, (Json.array [chatMessage "user" content]).Serialises ↔
        ValidUtf8 content := by
      intro content
      simp [serialises_array, serialises_user_iff]
    refine (serialises_set_iff ?_ ((hmessages []).mpr rfl)).trans
      (and_congr_right fun _ => hmessages prompt)
    simp

end Requests

/-! ## Responses -/

/-- The content of the first choice's message is a string if it is there. -/
def OpenAiShaped (json : Json) : Prop :=
  json.member? (ascii "error") = none →
    ∀ choice rest, json.member? (ascii "choices") = some (.array (choice :: rest)) →
      ∀ message, choice.member? (ascii "message") = some message → message.TextOrAbsent "content"

/-- The type of every block is a string if it is there. -/
def AnthropicShaped (json : Json) : Prop :=
  json.member? (ascii "error") = none →
    ∀ blocks, json.member? (ascii "content") = some (.array blocks) →
      ∀ block ∈ blocks, block.TextOrAbsent "type"

def ModelClient.Shaped : ModelClient → Json → Prop
  | .openai _ => OpenAiShaped
  | .anthropic _ => AnthropicShaped

theorem value_ok_iff (json : Json) (key : String) (fallback : Text) :
    (∃ text, json.value key fallback = .ok text) ↔ json.TextOrAbsent key := by
  unfold Json.value Json.TextOrAbsent
  cases json.member? (ascii key) with
  | none => simp
  | some value =>
    cases value with
    | string s => simp
    | _ => simp

/-- A document is passed over if it is no object, and then it has no member, or if it reports an
error. -/
theorem document_cases (json : Json) :
    ((!json.isObject || (json.member? (ascii "error")).isSome) = true ∧
        (json.member? (ascii "error") = none → ∀ key, json.member? key = none)) ∨
      ((!json.isObject || (json.member? (ascii "error")).isSome) = false ∧
        json.member? (ascii "error") = none) := by
  cases hobject : json.isObject with
  | false => exact .inl ⟨rfl, fun _ => member?_of_not_isObject hobject⟩
  | true =>
    cases json.member? (ascii "error") with
    | none => exact .inr ⟨rfl, rfl⟩
    | some value => exact .inl ⟨rfl, fun h => by cases h⟩

/-- Only a message that is an object is looked at further. -/
theorem choice_ok_iff (choice : Json) :
    (∃ text, (match choice.member? (ascii "message"), choice.member? (ascii "text") with
      | some (.object members), _ => (Json.object members).value "content" []
      | _, some (.string text) => .ok text
      | _, _ => .ok []) = .ok text) ↔
      ∀ message, choice.member? (ascii "message") = some message →
        message.TextOrAbsent "content" := by
  split
  · next members _ hmessage =>
    rw [hmessage, value_ok_iff]
    simp
  · next hmessage =>
    refine iff_of_true ⟨_, rfl⟩ fun message h => textOrAbsent_of_not_isObject ?_ _
    cases message with
    | object members => exact absurd h (hmessage members)
    | _ => rfl
  · next hmessage _ =>
    refine iff_of_true ⟨_, rfl⟩ fun message h => textOrAbsent_of_not_isObject ?_ _
    cases message with
    | object members => exact absurd h (hmessage members)
    | _ => rfl

theorem openAiResponseText_ok_iff (json : Json) :
    (∃ text, openAiResponseText json = .ok text) ↔ OpenAiShaped json := by
  unfold openAiResponseText OpenAiShaped
  rcases document_cases json with ⟨hover, habsent⟩ | ⟨hover, herror⟩
  · rw [hover]
    refine iff_of_true ⟨[], rfl⟩ fun herror choice rest hchoices => ?_
    rw [habsent herror] at hchoices
    cases hchoices
  · rw [hover, herror]
    simp only [Bool.false_eq_true, if_false, true_imp_iff]
    split
    · next choice rest hchoices =>
      rw [hchoices]
      refine (choice_ok_iff choice).trans ?_
      simp only [Option.some.injEq, Json.array.injEq, List.cons.injEq, and_imp]
      exact ⟨fun h _ _ hchoice _ => hchoice ▸ h, fun h => h choice rest rfl rfl⟩
    · next hchoices =>
      exact iff_of_true ⟨[], rfl⟩ fun choice rest h => absurd h (hchoices choice rest)

theorem textOfBlocks_ok_iff (blocks : List Json) :
    (∃ text, textOfBlocks blocks = .ok text) ↔ ∀ block ∈ blocks, block.TextOrAbsent "type" := by
  induction blocks with
  | nil => simp [textOfBlocks]
  | cons block rest ih =>
    rw [List.forall_mem_cons, ← ih, textOfBlocks]
    cases hobject : block.isObject with
    | false => exact (and_iff_right (textOrAbsent_of_not_isObject hobject _)).symm
    | true =>
      rw [← value_ok_iff block "type" []]
      constructor
      · rintro ⟨text, h⟩
        obtain ⟨type, htype, h⟩ := except_bind_eq_ok h
        obtain ⟨others, hothers, -⟩ := except_bind_eq_ok h
        exact ⟨⟨type, htype⟩, others, hothers⟩
      · rintro ⟨⟨type, htype⟩, others, hothers⟩
        exact ⟨_, by simp only [Bool.not_true, Bool.false_eq_true, if_false, htype, hothers]; rfl⟩

theorem anthropicResponseText_ok_iff (json : Json) :
    (∃ text, anthropicResponseText json = .ok text) ↔ AnthropicShaped json := by
  unfold anthropicResponseText AnthropicShaped
  rcases document_cases json with ⟨hover, habsent⟩ | ⟨hover, herror⟩
  · rw [hover]
    refine iff_of_true ⟨[], rfl⟩ fun herror blocks hblocks => ?_
    rw [habsent herror] at hblocks
    cases hblocks
  · rw [hover, herror]
    simp only [Bool.false_eq_true, if_false, true_imp_iff]
    split
    · next blocks hblocks =>
      rw [hblocks, textOfBlocks_ok_iff]
      simp
    · next hblocks => exact iff_of_true ⟨[], rfl⟩ fun blocks h => absurd h (hblocks blocks)

theorem responseText_ok_iff (client : ModelClient) (json : Json) :
    (∃ text, client.responseText json = .ok text) ↔ client.Shaped json := by
  cases client with
  | openai config => exact openAiResponseText_ok_iff json
  | anthropic config => exact anthropicResponseText_ok_iff json

/-! ## The call -/

/-- A client that is not configured sends nothing. -/
def ModelClient.Configured (client : ModelClient) : Prop :=
  client.config.baseUrl ≠ [] ∧ client.config.modelName ≠ []

/-- A response that is no failure and holds a document has the shape the client expects. -/
def ModelClient.Reads (host : Host) (client : ModelClient) (response : HttpResponse) : Prop :=
  200 ≤ response.status → response.status < 300 →
    ∀ json, host.parseJson response.body = some json → client.Shaped json

theorem parseResponseBody_ok_iff (host : Host) (client : ModelClient) (body : Text) :
    (∃ text, client.parseResponseBody host body = .ok text) ↔
      ∀ json, host.parseJson body = some json → client.Shaped json := by
  unfold ModelClient.parseResponseBody
  cases host.parseJson body with
  | none => simp
  | some json => simp [responseText_ok_iff]

section Call

variable {host : Host} {printFloat : ℚ → FloatText} {transport : JsonPostTransport}
  {client : ModelClient}

/-- A configured client returns just when it can send its request and read the response. -/
theorem generateMemoryUpdate_ok_iff (prompt : Text) :
    (∃ result, client.generateMemoryUpdate host printFloat transport prompt = .ok result) ↔
      (client.Configured → (client.requestBody printFloat prompt).Serialises ∧
        ∀ body, (client.requestBody printFloat prompt).dump = .ok body →
          client.Reads host (transport (client.postRequest body))) := by
  unfold ModelClient.generateMemoryUpdate ModelClient.Configured
  split
  · next hunset =>
    refine iff_of_true ⟨_, rfl⟩ fun hset => ?_
    simp [hset.1, hset.2] at hunset
  · next hset =>
    have hconfigured : client.config.baseUrl ≠ [] ∧ client.config.modelName ≠ [] := by
      simpa using hset
    rw [imp_iff_right hconfigured]
    unfold Json.Serialises
    cases (client.requestBody printFloat prompt).dump with
    | error e =>
      refine iff_of_false ?_ ?_
      · rintro ⟨result, h⟩
        cases h
      · rintro ⟨⟨text, h⟩, -⟩
        cases h
    | ok body =>
      simp only [Except.ok.injEq, exists_eq', true_and, forall_eq', bind, Except.bind]
      generalize transport (client.postRequest body) = response
      unfold ModelClient.Reads
      rw [← parseResponseBody_ok_iff]
      split
      · next hfailed =>
        refine iff_of_true ⟨_, rfl⟩ fun hlow hhigh => ?_
        simp only [Bool.or_eq_true, decide_eq_true_eq] at hfailed
        omega
      · next hstatus =>
        simp only [Bool.or_eq_true, decide_eq_true_eq, not_or, not_lt, not_le] at hstatus
        rw [imp_iff_right hstatus.1, imp_iff_right hstatus.2]
        constructor
        · rintro ⟨result, h⟩
          obtain ⟨text, htext, -⟩ := except_bind_eq_ok h
          exact ⟨text, htext⟩
        · rintro ⟨text, htext⟩
          simp only [htext]
          split
          · exact ⟨_, rfl⟩
          · exact ⟨_, rfl⟩

theorem llmProcess_ok_iff (model : MemoryModelClient) (batch : LongTermMemoryBatch) :
    (∃ update, llmProcess host model batch = .ok update) ↔
      ∃ result, model (buildPrompt batch) = .ok result := by
  constructor
  · rintro ⟨update, h⟩
    obtain ⟨result, hresult, -⟩ := except_bind_eq_ok h
    exact ⟨result, hresult⟩
  · rintro ⟨result, hresult⟩
    unfold llmProcess
    simp only [hresult, bind, Except.bind]
    split
    · exact ⟨_, rfl⟩
    · exact ⟨_, rfl⟩

end Call

end AgentMemory
