import AgentMemory.Model.Mcp
import AgentMemory.Verification.Serialization.Utf8

/-! # Responses are correlated with their requests

Whatever the members of a request are and whatever the runtime throws, some `catch` clause answers
with the request's id, but for two cases: the method is read before any of them knows the id, and
they let pass what is no `std::exception`. -/

namespace AgentMemory

open Json Foundation

/-! ## The texts of the library's exceptions -/

theorem validUtf8_typeError {message : Text} (h : ValidUtf8 message) (id : ℕ) :
    ∃ what, typeError id message = .standard what ∧ ValidUtf8 what := by
  refine ⟨_, rfl, ?_⟩
  have hscope : ValidUtf8 (ascii "[json.exception.type_error.") := by decide
  have hclose : ValidUtf8 (ascii "] ") := by decide
  rw [List.append_assoc, List.append_assoc, hscope.append_iff, (validUtf8_decimal _).append_iff,
    hclose.append_iff]
  exact h

theorem validUtf8_typeName (json : Json) : ValidUtf8 (ascii json.typeName) := by
  cases json <;> exact validUtf8_ascii _ (by decide)

theorem validUtf8_hexBytes (byte : UInt8) : ValidUtf8 (hexBytes byte) := by
  have hnibble : ∀ n, nibbleToHex n < 0x80 := by
    intro n
    have hall : ∀ b ∈ ascii "0123456789ABCDEF", b < 0x80 := lt_of_mem_ascii _ (by decide)
    unfold nibbleToHex
    rw [List.getD_eq_getElem?_getD]
    cases hn : (ascii "0123456789ABCDEF")[n]? with
    | none => exact (by decide : (0 : UInt8) < 0x80)
    | some b => exact hall b (List.mem_of_getElem? hn)
  exact validUtf8_of_ascii (by simp [hexBytes, hnibble])

theorem validUtf8_utf8Error {back : UInt8} {s message : Text} {i : ℕ} {state : Utf8State}
    (h : utf8Error back i state s = some message) : ValidUtf8 message := by
  induction s generalizing i state with
  | nil =>
    have hincomplete : ValidUtf8 (ascii "incomplete UTF-8 string; last byte: 0x") :=
      validUtf8_ascii _ (by decide)
    unfold utf8Error at h
    split at h
    · cases h
    · cases h
      rw [hincomplete.append_iff]
      exact validUtf8_hexBytes back
  | cons b rest ih =>
    have hinvalid : ValidUtf8 (ascii "invalid UTF-8 byte at index ") := validUtf8_ascii _ (by decide)
    have hcolon : ValidUtf8 (ascii ": 0x") := by decide
    unfold utf8Error at h
    split at h
    · cases h
      rw [List.append_assoc, List.append_assoc, hinvalid.append_iff,
        (validUtf8_decimal _).append_iff, hcolon.append_iff]
      exact validUtf8_hexBytes b
    · exact ih h

theorem validUtf8_dumpError (json : Json) :
    ∃ what, json.dumpError = .standard what ∧ ValidUtf8 what := by
  refine validUtf8_typeError ?_ 316
  cases hfound : json.texts.findSome? fun s => utf8Error (s.getLastD 0) 0 .accept s with
  | none => rfl
  | some message =>
    obtain ⟨s, -, hs⟩ := List.exists_of_findSome?_eq_some hfound
    exact validUtf8_utf8Error hs

/-- A dump returns a valid text, or its exception has one. -/
theorem dumped_cases (json : Json) :
    (∃ text, json.dumped = .ok text ∧ ValidUtf8 text) ∨
      ∃ what, json.dumped = .error (.standard what) ∧ ValidUtf8 what := by
  unfold dumped
  cases hdump : json.dump with
  | ok text => exact .inl ⟨text, rfl, validUtf8_dump hdump⟩
  | error e =>
    obtain ⟨what, hwhat, hvalid⟩ := validUtf8_dumpError json
    exact .inr ⟨what, congrArg Except.error hwhat, hvalid⟩

theorem dumped_of_serialises {json : Json} (h : json.Serialises) :
    ∃ text, json.dump = .ok text ∧ json.dumped = .ok text := by
  obtain ⟨text, htext⟩ := h
  exact ⟨text, htext, by rw [dumped, htext]⟩

theorem valueMember?_of_isObject {json : Json} (h : json.isObject = true) (key : String) :
    json.valueMember? key = .ok (json.member? (ascii key)) :=
  if_pos h

theorem valueMember?_of_not_isObject {json : Json} (h : json.isObject = false) (key : String) :
    ∃ what, json.valueMember? key = .error (.standard what) ∧ ValidUtf8 what := by
  have hcannot : ValidUtf8 (ascii "cannot use value() with ") := validUtf8_ascii _ (by decide)
  obtain ⟨what, hwhat, hvalid⟩ := validUtf8_typeError
    ((hcannot.append_iff _).mpr (validUtf8_typeName json)) 306
  refine ⟨what, ?_, hvalid⟩
  rw [valueMember?, h, ← hwhat]
  rfl

/-- `value` returns a string that is there, or none, and else throws. -/
theorem stringValue_cases (json : Json) (key : String) :
    (json.isObject = true ∧ json.TextOrAbsent key ∧ ∃ s, json.stringValue key = .ok s) ∨
      (¬(json.isObject = true ∧ json.TextOrAbsent key) ∧
        ∃ what, json.stringValue key = .error (.standard what) ∧ ValidUtf8 what) := by
  unfold stringValue
  cases hobject : json.isObject with
  | false =>
    obtain ⟨what, hwhat, hvalid⟩ := valueMember?_of_not_isObject hobject key
    rw [hwhat]
    exact .inr ⟨by simp, what, rfl, hvalid⟩
  | true =>
    rw [valueMember?_of_isObject hobject]
    unfold TextOrAbsent
    cases hmember : json.member? (ascii key) with
    | none => exact .inl ⟨rfl, by simp, [], rfl⟩
    | some value =>
      by_cases hstring : ∃ s, value = .string s
      · obtain ⟨s, rfl⟩ := hstring
        exact .inl ⟨rfl, by simp, s, rfl⟩
      · have hmust : ValidUtf8 (ascii "type must be string, but is ") :=
          validUtf8_ascii _ (by decide)
        obtain ⟨what, hwhat, hvalid⟩ := validUtf8_typeError
          ((hmust.append_iff _).mpr (validUtf8_typeName value)) 302
        refine .inr ⟨fun h => hstring (h.2 value rfl), what, ?_, hvalid⟩
        cases value with
        | string s => exact absurd ⟨s, rfl⟩ hstring
        | _ => exact congrArg Except.error hwhat

theorem validUtf8_stringValue {json : Json} (h : json.Serialises) {key : String} {s : Text}
    (hvalue : json.stringValue key = .ok s) : ValidUtf8 s := by
  obtain ⟨member, hmember, hvalue⟩ := except_bind_eq_ok hvalue
  have hobject : member = json.member? (ascii key) := by
    unfold valueMember? at hmember
    split at hmember
    · cases hmember
      rfl
    · cases hmember
  split at hvalue
  · cases hvalue
    rfl
  · next text =>
    cases hvalue
    exact (serialises_string _).mp (h.member hobject.symm)
  · cases hvalue

theorem jsonValue_cases (json : Json) (key : String) :
    (∃ value, json.jsonValue key = .ok value) ∨
      ∃ what, json.jsonValue key = .error (.standard what) ∧ ValidUtf8 what := by
  unfold jsonValue
  cases hobject : json.isObject with
  | false =>
    obtain ⟨what, hwhat, hvalid⟩ := valueMember?_of_not_isObject hobject key
    rw [hwhat]
    exact .inr ⟨what, rfl, hvalid⟩
  | true =>
    rw [valueMember?_of_isObject hobject]
    exact .inl ⟨_, rfl⟩

/-! ## What leaves a guarded call -/

/-- A returned value is `good` and a standard exception has a text that is `told`, unless the
runtime has thrown something else: this `escapes`. -/
def Guarded {α : Type} (escapes : Prop) (good : α → Prop) (told : Text → Prop) :
    Except Thrown α → Prop
  | .ok a => ¬escapes ∧ good a
  | .error (.standard what) => ¬escapes ∧ told what
  | .error .other => escapes

section Guards

variable {σ α β : Type} {escapes : Prop} {good : α → Prop} {told' : Text → Prop}
  (h : Handler (RuntimeOp.signature.fallible Thrown) σ) (s : σ)

theorem Guarded.mono {good' : α → Prop} {told : Text → Prop} {outcome : Except Thrown α}
    (houtcome : Guarded escapes good told outcome) (hgood : ∀ a, good a → good' a)
    (htold : ∀ what, told what → told' what) : Guarded escapes good' told' outcome := by
  cases outcome with
  | ok a => exact ⟨houtcome.1, hgood a houtcome.2⟩
  | error e =>
    cases e with
    | standard what => exact ⟨houtcome.1, htold what houtcome.2⟩
    | other => exact houtcome

/-- A `catch` clause answers for the standard exceptions of its `try` block. -/
theorem guarded_catching (told : Text → Prop) {p : McpM α} {handle : Text → McpM α}
    (hp : Guarded escapes good told (p.run h s).1)
    (hhandle : ∀ what t, ¬escapes → told what →
      Guarded escapes good told' ((handle what).run h t).1) :
    Guarded escapes good told' ((catching p handle).run h s).1 := by
  unfold catching
  rw [Program.run_tryBind]
  revert hp
  generalize p.run h s = outcome
  obtain ⟨reply, t⟩ := outcome
  intro hp
  cases reply with
  | ok a => exact hp
  | error e =>
    cases e with
    | standard what => exact hhandle what t hp.1 hp.2
    | other => exact hp

theorem guarded_bind (good' : β → Prop) {told : Text → Prop} {p : McpM β} {next : β → McpM α}
    (hp : Guarded escapes good' told (p.run h s).1)
    (hnext : ∀ b t, ¬escapes → good' b → Guarded escapes good told ((next b).run h t).1) :
    Guarded escapes good told ((p >>= next).run h s).1 := by
  rw [Program.run_bind]
  revert hp
  generalize p.run h s = outcome
  obtain ⟨reply, t⟩ := outcome
  intro hp
  cases reply with
  | ok b => exact hnext b t hp.1 hp.2
  | error e =>
    cases e with
    | standard what => exact hp
    | other => exact hp

end Guards

theorem guarded_makeTextResult {escapes : Prop} (hescapes : ¬escapes) (value : Json) :
    Guarded escapes Json.Serialises ValidUtf8 (MemoryMcpProtocol.makeTextResult value) := by
  unfold MemoryMcpProtocol.makeTextResult
  rcases dumped_cases value with ⟨text, htext, hvalid⟩ | ⟨what, hwhat, hvalid⟩
  · rw [htext]
    have hpart :
        (Json.ofMembers [("type", .string (ascii "text")), ("text", .string text)]).Serialises :=
      serialises_ofMembers (by simp +decide [serialises_string, hvalid])
    exact ⟨hescapes, serialises_ofMembers (by simp +decide [serialises_array, hpart])⟩
  · rw [hwhat]
    exact ⟨hescapes, hvalid⟩

/-! ## Tools -/

/-- The operation that a tool calls. -/
def Tool.operation? (tool : Tool) (args : Json) : Option RuntimeOp :=
  match tool with
  | .appendEvent => some (.appendEvent (eventFromJson args))
  | .buildContext => some (.buildContext (contextRequestFromJson args))
  | .writePayload => some (.writePayload (payloadWriteRequestFromJson args))
  | .readPayload => (args.stringValue "uri").toOption.map .readPayload
  | .consolidate => some (.consolidate (consolidationRequestFromJson args))
  | .search => some (.searchMemory (searchRequestFromJson args))
  | .stats => some .getStats

/-- The operation, if there is one, throws something that is no `std::exception`. -/
def Escapes {σ : Type} (h : Handler (RuntimeOp.signature.fallible Thrown) σ) (s : σ)
    (op? : Option RuntimeOp) : Prop :=
  ∃ op, op? = some op ∧ (h op s).1 = .error .other

section Tools

variable {σ : Type} (h : Handler (RuntimeOp.signature.fallible Thrown) σ) (s : σ)

theorem not_escapes_none : ¬Escapes h s none := by
  rintro ⟨op, hop, -⟩
  cases hop

theorem escapes_some_iff (op : RuntimeOp) :
    Escapes h s (some op) ↔ (h op s).1 = .error .other := by
  constructor
  · rintro ⟨_, ⟨⟩, hop⟩
    exact hop
  · intro hop
    exact ⟨op, rfl, hop⟩

theorem guarded_report (op : RuntimeOp) (succeeded : RuntimeOp.signature.Reply op → Bool)
    (data : RuntimeOp.signature.Reply op → Json)
    (error : RuntimeOp.signature.Reply op → MemoryError) :
    Guarded (Escapes h s (some op)) Json.Serialises (fun _ => True)
      ((Tool.report op succeeded data error).run h s).1 := by
  refine guarded_bind h s (fun _ => True) ?_ fun result t hescapes _ => ?_
  · rw [escapes_some_iff]
    change Guarded _ _ _ ((Program.ofExcept (h op s).1 : McpM _).run h (h op s).2).1
    rw [Program.run_ofExcept]
    cases hreply : (h op s).1 with
    | ok reply => exact ⟨by simp, trivial⟩
    | error e =>
      cases e with
      | standard what => exact ⟨by simp, trivial⟩
      | other => rfl
  · rw [Program.run_ofExcept]
    exact (guarded_makeTextResult hescapes _).mono (fun _ hresult => hresult) fun _ _ => trivial

theorem guarded_handle (printFloat : ℚ → FloatText) (tool : Tool) (args : Json) :
    Guarded (Escapes h s (tool.operation? args)) Json.Serialises (fun _ => True)
      ((tool.handle printFloat args).run h s).1 := by
  cases tool with
  | readPayload =>
    unfold Tool.handle Tool.operation?
    rcases stringValue_cases args "uri" with ⟨-, -, uri, huri⟩ | ⟨-, what, hwhat, -⟩
    · rw [huri]
      exact guarded_report h s _ _ _ _
    · rw [hwhat]
      exact ⟨not_escapes_none h s, trivial⟩
  | _ => exact guarded_report h s _ _ _ _

theorem guarded_callTool (protocol : MemoryMcpProtocol) (name : Text) (args : Json) :
    Guarded (Escapes h s ((Tool.find? name).bind (·.operation? args))) Json.Serialises ValidUtf8
      ((protocol.callTool name args).run h s).1 := by
  unfold MemoryMcpProtocol.callTool
  refine guarded_catching h s (fun _ => True) ?_ fun what t hescapes _ => ?_
  · cases Tool.find? name with
    | some tool => exact guarded_handle h s protocol.printFloat tool args
    | none =>
      dsimp only
      rw [Program.run_ofExcept]
      exact (guarded_makeTextResult (not_escapes_none h s) _).mono (fun _ hresult => hresult)
        fun _ _ => trivial
  · rw [Program.run_ofExcept]
    exact guarded_makeTextResult hescapes _

end Tools

/-! ## Answers -/

/-- A response object with the version, the id of the request and one of `result` and `error`. -/
structure Answers (request response : Json) : Prop where
  isObject : response.isObject = true
  version : response.member? (ascii "jsonrpc") = some (.string (ascii "2.0"))
  id : response.member? (ascii "id") = request.member? (ascii "id")
  exactlyOne : Xor ((response.member? (ascii "result")).isSome = true)
    ((response.member? (ascii "error")).isSome = true)

theorem member?_error_id (id : Json) (code : ℤ) (message : Text) :
    (MemoryMcpProtocol.error id code message).member? (ascii "id") = some id := by
  simp +decide [MemoryMcpProtocol.error, member?_ofMembers]

section Answers

variable {request id : Json} (hid : request.member? (ascii "id") = some id)

include hid

theorem answers_error (code : ℤ) (message : Text) :
    Answers request (MemoryMcpProtocol.error id code message) := by
  constructor
  · exact isObject_ofMembers _
  · simp +decide [MemoryMcpProtocol.error, member?_ofMembers]
  · rw [member?_error_id, hid]
  · simp +decide [MemoryMcpProtocol.error, member?_ofMembers]

theorem answers_success (result : Json) : Answers request (MemoryMcpProtocol.success id result) := by
  constructor
  · exact isObject_ofMembers _
  · simp +decide [MemoryMcpProtocol.success, member?_ofMembers]
  · simp +decide [MemoryMcpProtocol.success, member?_ofMembers, hid]
  · simp +decide [MemoryMcpProtocol.success, member?_ofMembers]

end Answers

theorem serialises_error {id : Json} (hid : id.Serialises) (code : ℤ) {message : Text}
    (hmessage : ValidUtf8 message) : (MemoryMcpProtocol.error id code message).Serialises := by
  have hcode : (Json.integer code).Serialises := ⟨_, rfl⟩
  have hdetail : (Json.ofMembers [("code", .integer code), ("message", .string message)]).Serialises :=
    serialises_ofMembers (by simp +decide [serialises_string, hcode, hmessage])
  exact serialises_ofMembers (by simp +decide [serialises_string, hid, hdetail])

theorem serialises_success {id result : Json} (hid : id.Serialises) (hresult : result.Serialises) :
    (MemoryMcpProtocol.success id result).Serialises :=
  serialises_ofMembers (by simp +decide [serialises_string, hid, hresult])

theorem validUtf8_errorMessage (protocol : MemoryMcpProtocol) {what : Text} (h : ValidUtf8 what)
    {fallback : String} (hfallback : ValidUtf8 (ascii fallback)) :
    ValidUtf8 (protocol.errorMessage what fallback) := by
  unfold MemoryMcpProtocol.errorMessage
  split
  · exact h
  · exact hfallback

theorem serialises_typed {type : String} (h : ValidUtf8 (ascii type)) :
    (Tool.typed type).Serialises :=
  serialises_ofMembers (by simp +decide [serialises_string, h])

/-- Every name and text of the tools list is a literal. -/
theorem serialises_properties (tool : Tool) : (Json.ofMembers tool.properties).Serialises := by
  have hstring := serialises_typed (show ValidUtf8 (ascii "string") by decide)
  have hinteger := serialises_typed (show ValidUtf8 (ascii "integer") by decide)
  have hboolean := serialises_typed (show ValidUtf8 (ascii "boolean") by decide)
  have hobject := serialises_typed (show ValidUtf8 (ascii "object") by decide)
  have hstrings : Tool.strings.Serialises :=
    serialises_ofMembers (by simp +decide [serialises_string, hstring])
  refine serialises_ofMembers ?_
  cases tool <;>
    simp +decide [Tool.properties, hstring, hinteger, hboolean, hobject, hstrings]

theorem serialises_schema (tool : Tool) : tool.schema.Serialises := by
  have hname : ValidUtf8 (ascii tool.name) := by
    cases tool <;> exact validUtf8_ascii _ (by decide)
  have hdescription : ValidUtf8 (ascii tool.description) := by
    cases tool <;> exact validUtf8_ascii _ (by decide)
  have hrequired : ∀ name ∈ tool.required, ValidUtf8 (ascii name) := by
    cases tool <;> decide
  have hinput : (Json.ofMembers [("type", .string (ascii "object")),
      ("properties", .ofMembers tool.properties),
      ("required", .ofStrings (tool.required.map ascii))]).Serialises :=
    serialises_ofMembers (by
      simpa +decide [serialises_string, serialises_ofStrings, serialises_properties]
        using hrequired)
  exact serialises_ofMembers
    (by simp +decide [serialises_string, hname, hdescription, hinput])

theorem serialises_buildToolsList : buildToolsList.Serialises :=
  serialises_ofMembers (by simp +decide [serialises_array, serialises_schema])

/-! ## Requests -/

/-- The operation that a `tools/call` request calls. -/
def calledOperation? (req : Json) : Option RuntimeOp :=
  match req.jsonValue "params" with
  | .error _ => none
  | .ok params =>
      match params.stringValue "name", params.jsonValue "arguments" with
      | .ok name, .ok args => (Tool.find? name).bind (·.operation? args)
      | _, _ => none

/-- The operation that a request calls, if it calls one. -/
def requestedOperation? (req : Json) : Option RuntimeOp :=
  match req.stringValue "method" with
  | .error _ => none
  | .ok method => if method = ascii "tools/call" then calledOperation? req else none

section Requests

variable {σ : Type} (h : Handler (RuntimeOp.signature.fallible Thrown) σ) (s : σ)
  (protocol : MemoryMcpProtocol)

theorem guarded_toolsCall (req id : Json) :
    Guarded (Escapes h s (calledOperation? req))
      (fun response => ∃ result, result.Serialises ∧
        response = MemoryMcpProtocol.success id result)
      ValidUtf8 ((protocol.toolsCall req id).run h s).1 := by
  unfold MemoryMcpProtocol.toolsCall calledOperation?
  rcases jsonValue_cases req "params" with ⟨params, hparams⟩ | ⟨what, hwhat, hvalid⟩
  · rw [hparams, Program.ofExcept_ok_bind]
    dsimp only
    rcases stringValue_cases params "name" with ⟨-, -, name, hname⟩ | ⟨-, what, hwhat, hvalid⟩
    · rw [hname, Program.ofExcept_ok_bind]
      rcases jsonValue_cases params "arguments" with ⟨args, hargs⟩ | ⟨what, hwhat, hvalid⟩
      · rw [hargs, Program.ofExcept_ok_bind]
        refine guarded_bind h s Json.Serialises (guarded_callTool h s protocol name args) ?_
        intro result t hescapes hresult
        exact ⟨hescapes, result, hresult, rfl⟩
      · rw [hwhat]
        exact ⟨not_escapes_none h s, hvalid⟩
    · rw [hwhat]
      exact ⟨not_escapes_none h s, hvalid⟩
  · rw [hwhat]
    exact ⟨not_escapes_none h s, hvalid⟩

variable {req id : Json} (hreq : req.Serialises) (hid : req.member? (ascii "id") = some id)

include hreq hid

theorem answered_error (code : ℤ) {message : Text} (hmessage : ValidUtf8 message) :
    Answers req (MemoryMcpProtocol.error id code message) ∧
      (MemoryMcpProtocol.error id code message).Serialises :=
  ⟨answers_error hid code message, serialises_error (hreq.member hid) code hmessage⟩

theorem answered_success {result : Json} (hresult : result.Serialises) :
    Answers req (MemoryMcpProtocol.success id result) ∧
      (MemoryMcpProtocol.success id result).Serialises :=
  ⟨answers_success hid result, serialises_success (hreq.member hid) hresult⟩

theorem answered_initializeReply :
    Answers req (MemoryMcpProtocol.initializeReply req id) ∧
      (MemoryMcpProtocol.initializeReply req id).Serialises := by
  have hversion : ValidUtf8 MemoryMcpProtocol.supportedVersion := validUtf8_ascii _ (by decide)
  unfold MemoryMcpProtocol.initializeReply
  split
  · exact answered_error hreq hid _ (validUtf8_ascii _ (by decide))
  · next params hparams =>
    split
    · next clientVersion hclient =>
      split
      · have hsent : ValidUtf8 (ascii "unsupported protocol version: client sent ") :=
          validUtf8_ascii _ (by decide)
        have honly : ValidUtf8 (ascii ", server only supports ") := validUtf8_ascii _ (by decide)
        have hclientVersion : ValidUtf8 clientVersion :=
          (serialises_string _).mp ((hreq.member hparams).member hclient)
        refine answered_error hreq hid _ ?_
        rw [List.append_assoc, List.append_assoc, hsent.append_iff, hclientVersion.append_iff,
          honly.append_iff]
        exact hversion
      · have hinfo : (Json.ofMembers [("name", .string (ascii "memory-server")),
            ("version", .string MemoryMcpProtocol.version)]).Serialises :=
          serialises_ofMembers (by simp +decide [serialises_string])
        have hcapabilities : (Json.ofMembers [("tools", .object [])]).Serialises := ⟨_, rfl⟩
        exact answered_success hreq hid (serialises_ofMembers
          (by simp +decide [serialises_string, hinfo, hcapabilities]))
    · exact answered_error hreq hid _ (validUtf8_ascii _ (by decide))

theorem methodHandler?_cases (method : Text) :
    (method = ascii "tools/call" ∧ protocol.methodHandler? method = some protocol.toolsCall) ∨
    (method ≠ ascii "tools/call" ∧
      ((protocol.methodHandler? method = none) ∨ ∃ response,
        (Answers req response ∧ response.Serialises) ∧
          ∃ handler, protocol.methodHandler? method = some handler ∧
            handler req id = return response)) := by
  unfold MemoryMcpProtocol.methodHandler?
  split
  · next heq =>
    rw [heq]
    exact .inr ⟨by decide, .inr ⟨_, answered_initializeReply hreq hid, _, rfl, rfl⟩⟩
  · split
    · next heq =>
      rw [heq]
      exact .inr ⟨by decide,
        .inr ⟨_, answered_success hreq hid serialises_buildToolsList, _, rfl, rfl⟩⟩
    · split
      · next heq => exact .inl ⟨heq, rfl⟩
      · next heq => exact .inr ⟨heq, .inl rfl⟩

/-- With the method a string or absent, only what is no standard exception leaves the request. -/
theorem guarded_handleRequest (hmethod : req.TextOrAbsent "method") :
    Guarded (Escapes h s (requestedOperation? req))
      (fun response => Answers req response ∧ response.Serialises) (fun _ => False)
      ((protocol.handleRequest req).run h s).1 := by
  have hobject : req.isObject = true := by
    by_contra hobject
    rw [member?_of_not_isObject (by simpa using hobject)] at hid
    cases hid
  have hread : ∃ method, req.stringValue "method" = .ok method := by
    rcases stringValue_cases req "method" with ⟨-, -, hread⟩ | ⟨hnot, -⟩
    · exact hread
    · exact absurd ⟨hobject, hmethod⟩ hnot
  obtain ⟨method, hread⟩ := hread
  unfold MemoryMcpProtocol.handleRequest requestedOperation?
  rw [hid, hread, Option.getD_some, Program.ofExcept_ok_bind]
  dsimp only
  rcases methodHandler?_cases protocol hreq hid method with
    ⟨rfl, hhandler⟩ | ⟨hne, hhandler | ⟨response, hresponse, handler, hhandler, hreply⟩⟩
  · rw [hhandler, if_pos rfl]
    refine guarded_catching h s ValidUtf8 ?_ fun what t hescapes hwhat => ?_
    · refine (guarded_toolsCall h s protocol req id).mono ?_ fun _ hwhat => hwhat
      rintro _ ⟨result, hresult, rfl⟩
      exact answered_success hreq hid hresult
    · exact ⟨hescapes, answered_error hreq hid _
        (validUtf8_errorMessage protocol hwhat (validUtf8_ascii _ (by decide)))⟩
  · rw [hhandler, if_neg hne]
    have hnotFound : ValidUtf8 (ascii "method not found: ") := validUtf8_ascii _ (by decide)
    exact ⟨not_escapes_none h s, answered_error hreq hid _
      ((hnotFound.append_iff _).mpr (validUtf8_stringValue hreq hread))⟩
  · rw [hhandler, if_neg hne]
    dsimp only
    rw [hreply]
    exact ⟨not_escapes_none h s, hresponse⟩

end Requests

/-! ## The response to a message -/

namespace MemoryMcpProtocol

/-- `result.dump()`, next to the object it is the text of. -/
def serialised (result : Json) : McpM (Option (Json × Text)) := do
  let text ← .ofExcept result.dumped
  return some (result, text)

/-- The object that `HandleJsonRpcText` serialises, with its text, if there is one. -/
def respond (host : Host) (protocol : MemoryMcpProtocol) (body : Text) :
    McpM (Option (Json × Text)) :=
  catching
    (do
      let req ← .ofExcept (match host.parseJson body with
        | some req => .ok req
        | none => .error (.standard (protocol.parseError body)))
      let result ← protocol.handleJsonRpc req
      if result.empty then return none else serialised result)
    fun what => serialised (error .null (-32700) (protocol.errorMessage what "parse error"))

/-- The text of a response; none has the empty one. -/
def textOf : Option (Json × Text) → Text
  | none => []
  | some (_, text) => text

end MemoryMcpProtocol

theorem catching_map {α β : Type} (p : McpM α) (handle : Text → McpM α) (f : α → β) :
    catching (do return f (← p)) (fun what => do return f (← handle what)) =
      (do return f (← catching p handle)) := by
  unfold catching
  change (p.tryBind _).tryBind _ = (p.tryBind _).tryBind _
  rw [Program.tryBind_tryBind, Program.tryBind_tryBind]
  congr 1
  funext reply
  cases reply with
  | ok a => rfl
  | error e =>
    cases e with
    | standard what => rfl
    | other => rfl

theorem textOf_serialised (result : Json) :
    (do return MemoryMcpProtocol.textOf (← MemoryMcpProtocol.serialised result) : McpM Text) =
      .ofExcept result.dumped := by
  unfold MemoryMcpProtocol.serialised
  cases result.dumped <;> rfl

/-- `HandleJsonRpcText` returns the text of the response. -/
theorem handleJsonRpcText_eq (host : Host) (protocol : MemoryMcpProtocol) (body : Text) :
    protocol.handleJsonRpcText host body =
      (do return MemoryMcpProtocol.textOf (← protocol.respond host body)) := by
  unfold MemoryMcpProtocol.handleJsonRpcText MemoryMcpProtocol.respond
  rw [← catching_map]
  simp only [textOf_serialised, Program.bind_assoc]
  congr 1
  congr 1
  funext req
  congr 1
  funext result
  cases result.empty with
  | true => rfl
  | false => exact (textOf_serialised result).symm

section Respond

variable {σ : Type} {host : Host} (protocol : MemoryMcpProtocol)
  (h : Handler (RuntimeOp.signature.fallible Thrown) σ) (s : σ) {body : Text} {request : Json}
  (hbody : host.parseJson body = some request)

include hbody

/-- Without an id nothing is done. -/
theorem handleJsonRpcText_of_no_id (hid : request.member? (ascii "id") = none) :
    protocol.handleJsonRpcText host body = return [] := by
  unfold MemoryMcpProtocol.handleJsonRpcText MemoryMcpProtocol.handleJsonRpc
  rw [hbody, Program.ofExcept_ok_bind, hid]
  rfl

/-- With an id, the request is handled and what it gives is serialised. -/
theorem respond_of_id {id : Json} (hid : request.member? (ascii "id") = some id) :
    protocol.respond host body = catching
      (do
        let result ← protocol.handleRequest request
        if result.empty then return none else MemoryMcpProtocol.serialised result)
      fun what => MemoryMcpProtocol.serialised (MemoryMcpProtocol.error .null (-32700)
        (protocol.errorMessage what "parse error")) := by
  unfold MemoryMcpProtocol.respond MemoryMcpProtocol.handleJsonRpc
  rw [hbody, Program.ofExcept_ok_bind, hid]

variable {id : Json} (hid : request.member? (ascii "id") = some id)

include hid

/-- What the request returns is sent, if it can be serialised and is not empty. -/
theorem respond_run_of_ok {response : Json} (hserialises : response.Serialises)
    (hempty : response.empty = false) {t : σ}
    (hrun : (protocol.handleRequest request).run h s = (.ok response, t)) :
    ∃ text, response.dump = .ok text ∧
      (protocol.respond host body).run h s = (.ok (some (response, text)), t) := by
  obtain ⟨text, htext, hdumped⟩ := dumped_of_serialises hserialises
  refine ⟨text, htext, ?_⟩
  rw [respond_of_id protocol hbody hid]
  unfold catching
  rw [Program.run_tryBind, Program.run_bind, hrun]
  simp only [hempty, Bool.false_eq_true, if_false]
  unfold MemoryMcpProtocol.serialised
  rw [hdumped]
  rfl

/-- For a standard exception of the request the null id is sent. -/
theorem respond_run_of_standard {what : Text} (hwhat : ValidUtf8 what) {t : σ}
    (hrun : (protocol.handleRequest request).run h s = (.error (.standard what), t)) :
    ∃ text, (protocol.respond host body).run h s =
      (.ok (some (MemoryMcpProtocol.error .null (-32700)
        (protocol.errorMessage what "parse error"), text)), t) ∧
      (MemoryMcpProtocol.error .null (-32700)
        (protocol.errorMessage what "parse error")).dump = .ok text := by
  have hnull : Json.null.Serialises := ⟨_, rfl⟩
  have hserialises := serialises_error hnull (-32700)
    (validUtf8_errorMessage protocol hwhat (show ValidUtf8 (ascii "parse error") by decide))
  obtain ⟨text, htext, hdumped⟩ := dumped_of_serialises hserialises
  refine ⟨text, ?_, htext⟩
  rw [respond_of_id protocol hbody hid]
  unfold catching
  rw [Program.run_tryBind, Program.run_bind, hrun]
  unfold MemoryMcpProtocol.serialised
  dsimp only
  rw [hdumped]
  rfl

theorem respond_run_of_other {t : σ}
    (hrun : (protocol.handleRequest request).run h s = (.error .other, t)) :
    (protocol.respond host body).run h s = (.error .other, t) := by
  rw [respond_of_id protocol hbody hid]
  unfold catching
  rw [Program.run_tryBind, Program.run_bind, hrun]
  rfl

end Respond

theorem Answers.not_empty {request response : Json} (h : Answers request response) :
    response.empty = false := by
  have hversion := h.version
  cases response with
  | object members =>
    cases members with
    | nil => cases hversion
    | cons m rest => rfl
  | _ => cases hversion

/-- The method of the request is read outside every `catch` clause that knows its id. -/
theorem handleRequest_of_method {σ : Type} (protocol : MemoryMcpProtocol)
    (h : Handler (RuntimeOp.signature.fallible Thrown) σ) (s : σ) {request : Json}
    (hmethod : ¬request.TextOrAbsent "method") :
    requestedOperation? request = none ∧
      ∃ what, ValidUtf8 what ∧
        (protocol.handleRequest request).run h s = (.error (.standard what), s) := by
  rcases stringValue_cases request "method" with ⟨-, htext, -⟩ | ⟨-, what, hwhat, hvalid⟩
  · exact absurd htext hmethod
  · unfold requestedOperation? MemoryMcpProtocol.handleRequest
    rw [hwhat]
    exact ⟨rfl, what, hvalid, rfl⟩

/-- One response object is sent, which answers the request. -/
def Answered {σ : Type} (host : Host) (protocol : MemoryMcpProtocol)
    (h : Handler (RuntimeOp.signature.fallible Thrown) σ) (s : σ) (body : Text) (request : Json) :
    Prop :=
  ∃ response text, ((protocol.respond host body).run h s).1 = .ok (some (response, text)) ∧
    ((protocol.handleJsonRpcText host body).run h s).1 = .ok text ∧
    response.dump = .ok text ∧ Answers request response

section Answered

variable {σ : Type} {host : Host} (hparse : host.ParsesUtf8) (protocol : MemoryMcpProtocol)
  (h : Handler (RuntimeOp.signature.fallible Thrown) σ) (s : σ) {body : Text} {request id : Json}
  (hbody : host.parseJson body = some request) (hid : request.member? (ascii "id") = some id)

theorem handleJsonRpcText_run_of_respond {response : Json} {text : Text} {t : σ}
    (hrun : (protocol.respond host body).run h s = (.ok (some (response, text)), t)) :
    ((protocol.handleJsonRpcText host body).run h s).1 = .ok text := by
  rw [handleJsonRpcText_eq, Program.run_map, hrun]
  rfl

include hbody hid

include hparse in
theorem answered_iff_of_method (hmethod : request.TextOrAbsent "method") :
    Answered host protocol h s body request ↔ ¬Escapes h s (requestedOperation? request) := by
  have hguarded := guarded_handleRequest h s protocol (hparse body request hbody) hid hmethod
  cases hrun : (protocol.handleRequest request).run h s with
  | mk reply t =>
    rw [hrun] at hguarded
    cases reply with
    | ok response =>
      obtain ⟨hescapes, hanswers, hserialises⟩ := hguarded
      obtain ⟨text, htext, hrespond⟩ := respond_run_of_ok protocol h s hbody hid hserialises
        hanswers.not_empty hrun
      refine iff_of_true ⟨response, text, ?_, ?_, htext, hanswers⟩ hescapes
      · rw [hrespond]
      · exact handleJsonRpcText_run_of_respond protocol h s hrespond
    | error e =>
      cases e with
      | standard what => exact absurd hguarded.2 not_false
      | other =>
        refine iff_of_false ?_ (not_not_intro hguarded)
        rintro ⟨response, text, hrespond, -⟩
        rw [respond_run_of_other protocol h s hbody hid hrun] at hrespond
        cases hrespond

theorem answered_iff_of_not_method (hmethod : ¬request.TextOrAbsent "method") :
    Answered host protocol h s body request ↔ id = .null := by
  obtain ⟨-, what, hvalid, hrun⟩ := handleRequest_of_method protocol h s hmethod
  obtain ⟨text, hrespond, htext⟩ := respond_run_of_standard protocol h s hbody hid hvalid hrun
  constructor
  · rintro ⟨response, text', hresponse, -, -, hanswers⟩
    rw [hrespond] at hresponse
    cases hresponse
    have hnull := hanswers.id
    rw [hid, member?_error_id] at hnull
    exact (Option.some.inj hnull).symm
  · rintro rfl
    refine ⟨_, text, ?_, handleJsonRpcText_run_of_respond protocol h s hrespond, htext,
      answers_error hid _ _⟩
    rw [hrespond]

end Answered

/-- A request with an id gets one response object, which has its id, and any other message gets
none and calls nothing. -/
structure Correlated {σ : Type} (host : Host) (protocol : MemoryMcpProtocol)
    (h : Handler (RuntimeOp.signature.fallible Thrown) σ) (s : σ) (body : Text) (request : Json) :
    Prop where
  answered : (request.member? (ascii "id")).isSome = true →
    Answered host protocol h s body request
  silent : request.member? (ascii "id") = none →
    ((protocol.handleJsonRpcText host body).run h s).1 = .ok [] ∧
      (protocol.handleJsonRpcText host body).trace h s = []

/-- Responses are correlated exactly when, for a request with an id, the method is a string or
absent or the id is null, and the runtime throws nothing but standard exceptions. -/
theorem handleJsonRpcText_correlated_iff {σ : Type} (host : Host) (hparse : host.ParsesUtf8)
    (protocol : MemoryMcpProtocol) (h : Handler (RuntimeOp.signature.fallible Thrown) σ) (s : σ)
    (body : Text) (request : Json) (hbody : host.parseJson body = some request) :
    Correlated host protocol h s body request ↔
      ∀ id, request.member? (ascii "id") = some id →
        (request.TextOrAbsent "method" ∨ id = .null) ∧
          ∀ op, requestedOperation? request = some op → (h op s).1 ≠ .error .other := by
  have hsilent : request.member? (ascii "id") = none →
      ((protocol.handleJsonRpcText host body).run h s).1 = .ok [] ∧
        (protocol.handleJsonRpcText host body).trace h s = [] := by
    intro hid
    rw [handleJsonRpcText_of_no_id protocol hbody hid]
    exact ⟨rfl, rfl⟩
  have hanswered : ∀ id, request.member? (ascii "id") = some id →
      (Answered host protocol h s body request ↔
        (request.TextOrAbsent "method" ∨ id = .null) ∧
          ∀ op, requestedOperation? request = some op → (h op s).1 ≠ .error .other) := by
    intro id hid
    by_cases hmethod : request.TextOrAbsent "method"
    · rw [answered_iff_of_method hparse protocol h s hbody hid hmethod]
      simp [Escapes, hmethod]
    · obtain ⟨hnone, -⟩ := handleRequest_of_method protocol h s hmethod
      rw [answered_iff_of_not_method protocol h s hbody hid hmethod, hnone]
      simp [hmethod]
  constructor
  · intro hcorrelated id hid
    exact (hanswered id hid).mp (hcorrelated.answered (by rw [hid]; rfl))
  · intro hcondition
    refine ⟨fun hsome => ?_, hsilent⟩
    obtain ⟨id, hid⟩ := Option.isSome_iff_exists.mp hsome
    exact (hanswered id hid).mpr (hcondition id hid)

/-- A runtime that throws the same exception whatever it is called for. -/
def throwing (thrown : Thrown) : Handler (RuntimeOp.signature.fallible Thrown) Unit :=
  fun _ s => (.error thrown, s)

def statsRequest : Json :=
  .object [(ascii "id", .unsigned 1), (ascii "method", .string (ascii "tools/call")),
    (ascii "params", .object [(ascii "name", .string (ascii "memory_stats"))])]

def statsText : Text :=
  ascii ("\x7b\"id\":1,\"method\":\"tools/call\"," ++
    "\"params\":\x7b\"name\":\"memory_stats\"\x7d\x7d")

/-- A request whose operation throws a standard exception is answered. -/
theorem handleJsonRpcText_correlated_throwing :
    Correlated (.parsing statsText statsRequest) { printFloat := printZero, parseError := id }
      (throwing (.standard (ascii "disk full"))) () statsText statsRequest := by
  refine (handleJsonRpcText_correlated_iff _ (parsesUtf8_parsing ⟨_, rfl⟩) _ _ _ _ _
    (parseJson_parsing _ _)).mpr ?_
  intro id _
  refine ⟨.inl fun value hvalue => ?_, fun op _ hop => ?_⟩
  · cases hvalue
    exact ⟨_, rfl⟩
  · cases hop

def numberMethodRequest : Json :=
  .object [(ascii "id", .unsigned 1), (ascii "method", .unsigned 5)]

def numberMethodText : Text :=
  ascii "\x7b\"id\":1,\"method\":5\x7d"

/-- A request with a number for the method is answered with a null id. -/
theorem handleJsonRpcText_not_correlated_number_method :
    ¬Correlated (.parsing numberMethodText numberMethodRequest)
      { printFloat := printZero, parseError := id } (throwing (.standard (ascii "disk full"))) ()
      numberMethodText numberMethodRequest := by
  intro h
  have hmethod : ¬numberMethodRequest.TextOrAbsent "method" := by
    intro htext
    obtain ⟨s, hs⟩ := htext (.unsigned 5) rfl
    cases hs
  have hnull := (answered_iff_of_not_method _ _ _ (parseJson_parsing _ _) rfl hmethod).mp
    (h.answered rfl)
  cases hnull

/-- Its id is lost. -/
example :
    ((MemoryMcpProtocol.handleJsonRpcText (.parsing numberMethodText numberMethodRequest)
      { printFloat := printZero, parseError := id } numberMethodText).run
        (throwing (.standard (ascii "disk full"))) ()).1 =
      .ok (ascii ("\x7b\"error\":\x7b\"code\":-32700,\"message\":\"parse error\"\x7d," ++
        "\"id\":null,\"jsonrpc\":\"2.0\"\x7d")) := by
  rfl

end AgentMemory
