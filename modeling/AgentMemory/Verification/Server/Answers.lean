import AgentMemory.Verification.Server.Routes

/-! # What a request is answered with

Every request is answered, whatever the runtime replies or throws. A response with content holds
a JSON document; one without content is no success. -/

namespace AgentMemory

open Foundation Json Httplib

/-- The content of a response is a document. -/
structure Holds (res : Response) (json : Json) : Prop where
  body : json.dump = .ok res.body
  contentType : res.contentType = some (ascii "application/json")

/-- What a response may be, for the status that stands for success. -/
inductive Answer (success : ℤ) (res : Response) : Prop where
  | document (json : Json) (holds : Holds res json) (status : res.status = success)
  | failure (json : Json) (holds : Holds res json)
      (error : (json.member? (ascii "error")).isSome = true) (status : 400 ≤ res.status)
  | bare (body : res.body = []) (contentType : res.contentType = none)
      (status : res.status = 202 ∨ 400 ≤ res.status)

section Returns

variable {σ α β : Type} (h : Handler (RuntimeOp.signature.fallible Thrown) σ) (s : σ)

/-- What a function returns, if it returns, satisfies `P`. -/
def Returns (P : α → Prop) (p : McpM α) : Prop :=
  ∀ a, (p.run h s).1 = .ok a → P a

theorem returns_pure {P : α → Prop} {a : α} (ha : P a) : Returns h s P (pure a) := by
  rintro _ ⟨⟩
  exact ha

theorem returns_bind {P : α → Prop} (Q : β → Prop) {p : McpM β} {f : β → McpM α}
    (hp : Returns h s Q p) (hf : ∀ b t, Q b → Returns h t P (f b)) : Returns h s P (p >>= f) := by
  intro a ha
  rw [Program.run_bind] at ha
  revert ha
  cases hrun : p.run h s with
  | mk outcome t =>
      cases outcome with
      | ok b => exact fun ha => hf b t (hp b (by rw [hrun])) a ha
      | error e => rintro ⟨⟩

theorem returns_catching {P : α → Prop} {p : McpM α} {handle : Text → McpM α}
    (hp : Returns h s P p) (hhandle : ∀ what t, Returns h t P (handle what)) :
    Returns h s P (catching p handle) := by
  intro a ha
  unfold catching at ha
  rw [Program.run_tryBind] at ha
  revert ha
  cases hrun : p.run h s with
  | mk outcome t =>
      cases outcome with
      | ok b =>
          rintro ⟨⟩
          exact hp a (by rw [hrun])
      | error e =>
          cases e with
          | standard what => exact fun ha => hhandle what t a ha
          | other => rintro ⟨⟩

theorem returns_dumped (json : Json) :
    Returns h s (fun text => json.dump = .ok text) (.ofExcept json.dumped : McpM Text) := by
  intro text htext
  rw [Program.run_ofExcept] at htext
  unfold dumped at htext
  cases hdump : json.dump with
  | ok text' =>
      rw [hdump] at htext
      cases htext
      rfl
  | error e => simp [hdump] at htext

theorem returns_setJson (json : Json) (res : Response) :
    Returns h s (fun res' => Holds res' json ∧ res'.status = res.status)
      (MemoryHttpRoutes.setJson json res) :=
  returns_bind h s _ (returns_dumped h s json) fun _ t hbody => returns_pure h t ⟨⟨hbody, rfl⟩, rfl⟩

/-! ### Handlers -/

variable (server : MemoryHttpRoutes)

theorem returns_refuse {status : ℤ} (hstatus : 400 ≤ status) (message : Text) (res : Response) :
    Returns h s (Answer (-1)) (MemoryHttpRoutes.refuse status message res) := by
  intro res' hres'
  obtain ⟨hholds, hkept⟩ := returns_setJson h s _ _ res' hres'
  refine .failure (MemoryHttpRoutes.refusal message) hholds ?_ (by rw [hkept]; exact hstatus)
  simp +decide [MemoryHttpRoutes.refusal, member?_ofMembers]

theorem returns_handleJsonGet (handler : McpM Json) :
    Returns h s (Answer (-1)) (server.handleJsonGet handler {}) := by
  refine returns_catching h s ?_ fun what t => returns_refuse h t (by decide) _ _
  refine returns_bind h s (fun _ => True) (fun _ _ => trivial) fun json t _ => ?_
  intro res hres
  obtain ⟨hholds, hkept⟩ := returns_setJson h t json {} res hres
  exact .document json hholds hkept

theorem returns_handleJsonPost (handler : Json → McpM Json) (body : Text) :
    Returns h s (Answer (-1)) (server.handleJsonPost handler body {}) := by
  unfold MemoryHttpRoutes.handleJsonPost
  split_ifs with hsize
  · exact returns_refuse h s (by decide) _ _
  · cases server.host.parseJson body with
    | none => exact returns_refuse h s (by decide) _ _
    | some j => exact returns_handleJsonGet h s server (handler j)

theorem returns_getPayload (matched : Text) :
    Returns h s (Answer (-1)) (server.getPayload matched {}) := by
  unfold MemoryHttpRoutes.getPayload
  cases MemoryHttpRoutes.refusesPath matched with
  | none => exact returns_handleJsonGet h s server _
  | some message =>
      intro res hres
      obtain ⟨hholds, hkept⟩ := returns_setJson h s _ _ res hres
      refine .failure _ hholds ?_ (by simp [hkept])
      simp +decide [errorEnvelope, member?_withSchema, member?_ofMembers]

theorem returns_handleJsonRpcText (body : Text) :
    Returns h s (fun text => text = [] ∨ ∃ json : Json, json.dump = .ok text)
      (server.protocol.handleJsonRpcText server.host body) := by
  unfold MemoryMcpProtocol.handleJsonRpcText
  have hdumped : ∀ json : Json, ∀ t, Returns h t
      (fun text => text = [] ∨ ∃ json : Json, json.dump = .ok text)
      (.ofExcept json.dumped : McpM Text) :=
    fun json t text htext => .inr ⟨json, returns_dumped h t json text htext⟩
  refine returns_catching h s ?_ fun what t => hdumped _ t
  refine returns_bind h s (fun _ => True) (fun _ _ => trivial) fun req t _ => ?_
  refine returns_bind h t (fun _ => True) (fun _ _ => trivial) fun result t' _ => ?_
  split_ifs
  · exact returns_pure h t' (.inl rfl)
  · exact hdumped result t'

theorem returns_postMcp (body : Text) : Returns h s (Answer (-1)) (server.postMcp body {}) := by
  unfold MemoryHttpRoutes.postMcp
  split_ifs with hsize
  · intro res hres
    obtain ⟨hholds, hkept⟩ := returns_setJson h s _ _ res hres
    refine .failure _ hholds ?_ (by simp [hkept])
    rfl
  · refine returns_bind h s _ (returns_handleJsonRpcText h s server body) ?_
    intro text t htext
    split_ifs with hempty
    · exact returns_pure h t (.bare rfl rfl (.inl rfl))
    · rcases htext with rfl | ⟨json, hjson⟩
      · exact absurd rfl hempty
      · exact returns_pure h t (.document json ⟨hjson, rfl⟩ rfl)

/-! ### Requests -/

/-- What routing comes to: an answer, or a response without content that has a status of its own
at most for a failure. -/
def Routed : Bool × Response → Prop
  | (true, res) => Answer (-1) res
  | (false, res) =>
      res.body = [] ∧ res.contentType = none ∧ (res.status = -1 ∨ 400 ≤ res.status)

theorem returns_dispatched {p : McpM Response} (hp : Returns h s (Answer (-1)) p) :
    Returns h s Routed (do return (true, ← p)) :=
  returns_bind h s _ hp fun _ t hres => returns_pure h t hres

theorem routed_nothing : Routed (false, {}) :=
  ⟨rfl, rfl, .inl rfl⟩

theorem returns_post (path body : Text) :
    Returns h s Routed (dispatchRequest path body {} server.postHandlers) := by
  rw [MemoryHttpRoutes.dispatchRequest_post]
  cases server.mcpPath path with
  | some matched => exact returns_dispatched h s (returns_postMcp h s server body)
  | none =>
      cases PostRoute.find? path with
      | none => exact returns_pure h s routed_nothing
      | some route => exact returns_dispatched h s (returns_handleJsonPost h s server _ body)

theorem returns_get (path body : Text) :
    Returns h s Routed (dispatchRequest path body {} server.getHandlers) := by
  rw [MemoryHttpRoutes.dispatchRequest_get]
  cases startingWith "/v1/payloads/" path with
  | some matched => exact returns_dispatched h s (returns_getPayload h s server matched)
  | none =>
      dsimp only
      split_ifs
      · exact returns_dispatched h s (returns_handleJsonGet h s server _)
      · refine returns_dispatched h s fun res hres => ?_
        obtain ⟨hholds, hkept⟩ := returns_setJson h s _ _ res hres
        exact .document _ hholds hkept
      · exact returns_pure h s routed_nothing

theorem returns_dispatchContent (req : RoutedRequest) :
    Returns h s Routed (dispatchContent server.getHandlers server.postHandlers req {}) := by
  unfold dispatchContent
  cases if req.expectContent then req.content else .ok [] with
  | error failure =>
      refine returns_pure h s ⟨rfl, rfl, ?_⟩
      cases failure with
      | unexplained => exact .inl rfl
      | _ => exact .inr (by decide)
  | ok body =>
      dsimp only
      split_ifs
      · exact returns_get h s server req.path body
      · exact returns_post h s server req.path body
      · exact returns_pure h s routed_nothing
      · exact returns_pure h s ⟨rfl, rfl, .inr (by decide)⟩

theorem holds_unauthorized : Holds unauthorized (MemoryHttpRoutes.refusal (ascii "unauthorized")) :=
  ⟨dump_unauthorized, rfl⟩

theorem answer_settled {routed : Bool} {res : Response} (hres : Routed (routed, res)) :
    Answer 200 (res.settled routed) := by
  unfold Response.settled
  cases routed with
  | true =>
      cases hres with
      | document json holds status =>
          rw [if_pos status]
          exact .document json ⟨holds.body, holds.contentType⟩ rfl
      | failure json holds error status =>
          rw [if_neg (by omega)]
          exact .failure json holds error status
      | bare body contentType status =>
          rw [if_neg (by omega)]
          exact .bare body contentType status
  | false =>
      obtain ⟨hbody, htype, hstatus⟩ := hres
      simp only [Bool.false_eq_true, if_false]
      split_ifs with hunset
      · exact .bare hbody htype (.inr (by norm_num))
      · exact .bare hbody htype (.inr (by omega))

/-- What routing has come to is sent as it is, or cut to the ranges that are asked for. -/
theorem cut_settled (platform : Platform) (boundary : Text) (ranges : List Httplib.Range)
    {routed : Bool} {res : Response} (hres : Routed (routed, res)) :
    Cut ranges (res.settled routed) (completed platform boundary ranges routed res) := by
  have hfailed (hstatus : 300 ≤ res.status) :
      Cut ranges (res.settled routed) (completed platform boundary ranges routed res) := by
    rw [completed_of_status platform boundary hstatus, Response.settled, if_neg (by omega)]
    exact .failed hstatus
  cases routed with
  | true =>
      cases hres with
      | document json holds status => exact cut_completed platform boundary status
      | failure json holds error status => exact hfailed (by omega)
      | bare body contentType status =>
          rcases status with haccepted | hstatus
          · rw [Response.settled, if_neg (by omega)]
            exact cut_completed_empty platform boundary (by omega) (by omega) body
          · exact hfailed (by omega)
  | false =>
      obtain ⟨-, -, hunset | hstatus⟩ := hres
      · have hsettled : completed platform boundary ranges false res = res.settled false := rfl
        rw [hsettled]
        refine .failed ?_
        rw [Response.settled, if_pos hunset]
        norm_num
      · exact hfailed (by omega)

/-- A response is what is sent of an answer to its request. -/
def SentAnswer (platform : Platform) (req : RoutedRequest) (res : Response) : Prop :=
  ∃ whole, Answer 200 whole ∧ Sent platform req whole res

theorem sentAnswer_of_failed {platform : Platform} {req : RoutedRequest} {whole : Response}
    (hanswer : Answer 200 whole) (hfailed : 300 ≤ whole.status) :
    SentAnswer platform req (req.written whole) :=
  ⟨whole, hanswer, whole, .failed hfailed, rfl⟩

/-- Every request is answered: with a document, or without content where it failed or nothing is
to be said. No exception leaves the server. -/
theorem processRequest_answers (req : RoutedRequest) :
    ∃ res, ((server.processRequest req).run h s).1 = .ok res ∧
      SentAnswer server.platform req res := by
  cases hhead : req.parseHead server.platform with
  | error status =>
      have hstatus : 400 ≤ status := by
        unfold RoutedRequest.parseHead at hhead
        split_ifs at hhead
        · cases hhead
          decide
        · split at hhead <;> cases hhead
          decide
      rw [MemoryHttpRoutes.processRequest_of_error hhead]
      exact ⟨_, rfl, sentAnswer_of_failed (.bare rfl rfl (.inr hstatus)) (by dsimp only; omega)⟩
  | ok ranges =>
      by_cases hreq : server.LetsThrough req
      · unfold MemoryHttpRoutes.processRequest
        rw [hhead]
        dsimp only
        rw [Program.run_tryBind, MemoryHttpRoutes.routing_letsThrough hreq]
        have hrouted := returns_dispatchContent h s server req
        revert hrouted
        unfold Returns
        cases ((dispatchContent server.getHandlers server.postHandlers req {}).run h s).1 with
        | ok outcome =>
            intro hrouted
            have hcut := cut_settled server.platform req.boundary ranges (hrouted outcome rfl)
            rw [← ranges_of_parseHead hhead] at hcut
            exact ⟨_, rfl, _, answer_settled (hrouted outcome rfl), _, hcut,
              by rw [ranges_of_parseHead hhead]⟩
        | error e =>
            intro hrouted
            exact ⟨_, rfl, sentAnswer_of_failed (.bare rfl rfl (.inr (by decide))) (by decide)⟩
      · rw [MemoryHttpRoutes.processRequest_refused hhead hreq]
        exact ⟨_, rfl,
          sentAnswer_of_failed (.failure _ holds_unauthorized rfl (by decide)) (by decide)⟩

end Returns

end AgentMemory
