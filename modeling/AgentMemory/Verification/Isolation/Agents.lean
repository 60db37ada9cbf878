import AgentMemory.Verification.Isolation.Views
import AgentMemory.Verification.Payloads.Runs
import AgentMemory.Verification.Runtime.Calls

/-! # Agents are kept apart

Whatever one agent appends, offloads and consolidates, the rows of another agent stay as they are,
as long as no id of its consolidation is that of an entity of the other agent. The rule-based
extraction gives the same ids for every agent. -/

namespace AgentMemory

open Foundation

/-! ## Operations on behalf of an agent -/

inductive AgentOperation where
  | append (event : MemoryEvent)
  | writePayload (request : MemoryPayloadWriteRequest)
  | consolidate (request : MemoryConsolidationRequest) (model : Option MemoryModelClient)

def AgentOperation.agentId : AgentOperation → Text
  | .append event => event.agentId
  | .writePayload request => request.agentId
  | .consolidate request _ => request.agentId

section Operations

variable (host : PayloadHost) (services : RuntimeServices) (payloadService : PayloadService)

def AgentOperation.perform (w : World) : AgentOperation → World
  | .append event =>
      { w with connection := ((appendEvent services event).runOn host.database w.connection).2 }
  | .writePayload request =>
      ((AgentMemory.writePayload payloadService request).run host.perform w).2
  | .consolidate request model =>
      { w with connection :=
          (consolidateWithModel host.database services request model w.connection).2 }

/-- The rows of an agent are the same before and after, as seen and as persisted. -/
structure KeepsView (agent : SqlText) (c c' : Connection) : Prop where
  current : c'.current.view agent = c.current.view agent
  durable : c'.durable.view agent = c.durable.view agent

/-- The name of the file that a write which starts now is for. -/
def World.nextName (request : MemoryPayloadWriteRequest) (w : World) : Text :=
  buildPayloadRef request (host.outcome (w.clock + 1)).number (host.outcome (w.clock + 2)).number ++
    ascii ".txt"

/-- The events that a consolidation which starts now extracts from. -/
def Connection.nextBatch (request : MemoryConsolidationRequest) (c : Connection) :
    ConsolidationBatchBuildResult :=
  build request ((request.loaded (request.start c.current) c.current).map
    (readEventRow host.database))

/-- The ids of the entities that an update saves or retires. -/
def LongTermMemoryUpdate.touched (update : LongTermMemoryUpdate) : List SqlText :=
  update.entities.flatMap (fun entity => bindText entity.id ::
    if entity.supersededEntityId.isEmpty then [] else [bindText entity.supersededEntityId]) ++
  (update.relations.filter fun relation => relation.relationType = ascii "supersedes").map
    fun relation => bindText relation.toEntityId

/-- The operation is for another agent, as the columns tell them apart. A payload whose ref is that
of a row of the agent is found to exist; and the entities that a consolidation saves or retires are
not active entities of the agent. -/
def AgentOperation.SparesAgent (agent : SqlText) (w : World) : AgentOperation → Prop
  | .append event => bindText event.agentId ≠ agent
  | .writePayload request => bindText request.agentId ≠ agent ∧
      ((∃ r ∈ (w.connection.current.view agent).payloads,
          r.2.ref = bindText (payloadService.uri (w.nextName host request))) →
        (w.files (w.nextName host request)).isSome = true ∧
          (host.outcome (w.clock + 4)).failed = false)
  | .consolidate request model => bindText request.agentId ≠ agent ∧
      ∀ update fallbackUsed,
        extract host.database (some services.longTermProcessor) model
          (w.connection.nextBatch host request) = .ok (update, fallbackUsed) →
        ∀ id ∈ update.touched, (w.connection.current.view agent).Lacks id

end Operations

theorem keepsView_of_saved {agent : SqlText} {c c' : Connection} (hsaved : c'.saved = c.saved)
    (hview : c'.current.view agent = c.current.view agent) : KeepsView agent c c' := by
  refine ⟨hview, ?_⟩
  unfold Session.durable
  rw [hsaved]
  cases c.saved with
  | none => exact hview
  | some d => rfl

/-! ## Events -/

theorem keepsView_append (host : Host) (services : RuntimeServices) {event : MemoryEvent}
    {agent : SqlText} (h : bindText event.agentId ≠ agent) (c : Connection) :
    KeepsView agent c ((appendEvent services event).runOn host c).2 := by
  obtain ⟨reply, c', hrun, hsaved, hcases⟩ := run_appendEvent host services event c
  rw [hrun]
  refine keepsView_of_saved hsaved ?_
  rcases hcases with ⟨-, metadataJson, now, i, hrest, hrows⟩ | ⟨-, hcurrent⟩
  · dsimp only
    have hother : (event.values metadataJson).agentId.is agent = false := by
      rw [Bool.eq_false_iff]
      exact fun his => h (NullableText.eq_of_bindNullable_is his).symm
    have hsame := filter_insert (fun r : EventRow => r.agentId.is agent) hrows hother
    rw [hrest, Database.view, hsame]
    rfl
  · dsimp only
    rw [hcurrent]

/-! ## Payloads -/

section Payloads

variable {host : PayloadHost}

/-- The operation is not the one that writes to the store. -/
def PayloadOp.IsLocal : PayloadOp → Prop
  | .savePayload .. => False
  | _ => True

theorem perform_connection {op : PayloadOp} (h : op.IsLocal) (w : World) :
    (host.perform op w).2.connection = w.connection := by
  cases op with
  | scheduleTempFileCleanup => rfl
  | random => rfl
  | createDirectories => rfl
  | fileExists name => rfl
  | openFile name =>
      simp only [PayloadHost.perform]
      split <;> rfl
  | writeFile name content =>
      simp only [PayloadHost.perform]
      split <;> rfl
  | rename source target =>
      simp only [PayloadHost.perform]
      split
      · split <;> rfl
      · rfl
  | removeFile name =>
      simp only [PayloadHost.perform]
      split <;> rfl
  | savePayload request payload => exact h.elim

/-- A program of local operations leaves the store alone. -/
theorem run_connection {α : Type} {p : PayloadM α} (h : p.All PayloadOp.IsLocal) (w : World) :
    (p.run host.perform w).2.connection = w.connection := by
  refine h.run_invariant (I := fun w' : World => w'.connection = w.connection) ?_ rfl
  intro op w' hop hw'
  rw [perform_connection hop, hw']

theorem isLocal_writeTempFile (name temp content : Text) :
    (writeTempFile name temp content).All PayloadOp.IsLocal := by
  refine ⟨trivial, fun opened => ?_⟩
  cases opened with
  | false => trivial
  | true =>
  refine ⟨trivial, fun written => ?_⟩
  cases written with
  | false => exact ⟨trivial, fun _ => trivial⟩
  | true =>
  refine ⟨trivial, fun renamed => ?_⟩
  cases renamed with
  | error message => exact ⟨trivial, fun _ => trivial⟩
  | ok _ => trivial

theorem isLocal_writePayloadFileAtomically (name content : Text) :
    (writePayloadFileAtomically name content).All PayloadOp.IsLocal := by
  refine ⟨trivial, fun created => ?_⟩
  cases created with
  | error message => trivial
  | ok _ =>
  have htail : ∀ found : Bool, Program.All PayloadOp.IsLocal (if found then
      return payloadWriteFailed "payload file already exists" []
    else do
      let suffix ← randomHexSuffix
      let tempName := name ++ ascii ".tmp." ++ suffix
      if ← fileExists tempName then
        return payloadWriteFailed "payload temp file already exists" []
      else writeTempFile name tempName content) := by
    intro found
    cases found with
    | true => trivial
    | false =>
        refine ⟨trivial, fun first => ⟨trivial, fun second => ⟨trivial, fun found => ?_⟩⟩⟩
        rcases found with message | _ | _
        · exact isLocal_writeTempFile _ _ _
        · exact isLocal_writeTempFile _ _ _
        · trivial
  refine ⟨trivial, fun found => ?_⟩
  rcases found with message | _ | _
  · exact htail false
  · exact htail false
  · exact htail true

/-- A file that is found to exist is not written. -/
theorem writePayloadFileAtomically_exists (host : PayloadHost) (w : World) (name content : Text)
    (hfile : (w.files name).isSome = true) (hprobe : (host.outcome (w.clock + 1)).failed = false) :
    ∃ error, ((writePayloadFileAtomically name content).run host.perform w).1 =
      .ok (.error error) := by
  have hcreate : (PayloadOp.createDirectories.perform).run host.perform w =
      (.ok (if (host.outcome w.clock).failed then .error (host.outcome w.clock).message
        else .ok ()), w.tick) := rfl
  have hexists : (fileExists name).run host.perform w.tick = (.ok true, w.tick.tick) := by
    have hrun : ((PayloadOp.fileExists name).perform).run host.perform w.tick =
        (.ok (if (host.outcome (w.clock + 1)).failed then .error (host.outcome (w.clock + 1)).message
          else .ok (w.files name).isSome), w.tick.tick) := rfl
    unfold fileExists
    rw [Program.run_bind, hrun, hprobe, hfile]
    rfl
  unfold writePayloadFileAtomically
  rw [Program.run_bind, hcreate]
  cases (host.outcome w.clock).failed with
  | true => exact ⟨_, rfl⟩
  | false =>
      simp only [Bool.false_eq_true, if_false]
      rw [Program.run_bind, hexists]
      exact ⟨_, rfl⟩

/-- Saving the row of a file whose ref no row of the agent has. -/
theorem keepsView_savePayloadRow {service : PayloadService} {request : MemoryPayloadWriteRequest}
    {agent : SqlText} (hagent : bindText request.agentId ≠ agent) {name : Text} {w : World}
    (hrefs : ∀ r ∈ (w.connection.current.view agent).payloads,
      r.2.ref ≠ bindText (service.uri name)) :
    KeepsView agent w.connection
      ((savePayloadRow service request name).run host.perform w).2.connection := by
  obtain ⟨next, hnext, hlocal⟩ : ∃ next, savePayloadRow service request name =
      .call (PayloadOp.savePayload request (payloadRef service request name)) next ∧
        ∀ r, (next r).All PayloadOp.IsLocal := by
    refine ⟨_, rfl, fun result => ?_⟩
    change Program.All (S := PayloadOp.signature) PayloadOp.IsLocal
      (if result.succeeded then _ else _)
    cases result.succeeded with
    | true => trivial
    | false => exact ⟨trivial, fun _ => trivial⟩
  rw [hnext]
  change KeepsView agent w.connection ((next _).run host.perform (performSavePayload host.database
    request (payloadRef service request name) w.tick).2).2.connection
  rw [run_connection (hlocal _)]
  obtain ⟨hsaved, hupsert⟩ := performSavePayload_connection host.database request
    (payloadRef service request name) w.tick
  refine keepsView_of_saved hsaved ?_
  rcases hupsert with ⟨-, now, heffect⟩ | ⟨-, hcurrent⟩
  · exact Write.effect_view heffect ⟨hagent, hrefs⟩
  · rw [hcurrent]
    rfl

theorem keepsView_of_connection {agent : SqlText} {c c' : Connection} (h : c' = c) :
    KeepsView agent c c' := by
  rw [h]
  exact ⟨rfl, rfl⟩

theorem keepsView_offloadPayload {service : PayloadService} {request : MemoryPayloadWriteRequest}
    {agent : SqlText} {w : World} (hagent : bindText request.agentId ≠ agent)
    (hdetected : (∃ r ∈ (w.connection.current.view agent).payloads,
        r.2.ref = bindText (service.uri (w.nextName host request))) →
      (w.files (w.nextName host request)).isSome = true ∧
        (host.outcome (w.clock + 4)).failed = false) :
    KeepsView agent w.connection
      ((offloadPayload service request).run host.perform w).2.connection := by
  have hschedule : PayloadOp.scheduleTempFileCleanup.perform.run host.perform w =
      (.ok (if (host.outcome w.clock).failed then .error .host else .ok ()), w.tick) := rfl
  have hrandom : ∀ w', PayloadOp.random.perform.run host.perform w' =
      (.ok (host.outcome w'.clock).number, w'.tick) := fun _ => rfl
  unfold offloadPayload
  rw [Program.run_bind, hschedule]
  cases (host.outcome w.clock).failed with
  | true => exact keepsView_of_connection rfl
  | false =>
  simp only [Bool.false_eq_true, if_false]
  rw [Program.run_bind, Program.run_ofExcept]
  dsimp only
  rw [Program.run_bind, hrandom]
  dsimp only
  rw [Program.run_bind, hrandom]
  dsimp only
  have hname : buildPayloadRef request (host.outcome w.tick.clock).number
      (host.outcome w.tick.tick.clock).number ++ ascii ".txt" = w.nextName host request := rfl
  rw [Program.run_bind, hname]
  have hconnection : ((writePayloadFileAtomically (w.nextName host request)
      request.content).run host.perform w.tick.tick.tick).2.connection = w.connection :=
    run_connection (isLocal_writePayloadFileAtomically _ _) _
  have hexists := writePayloadFileAtomically_exists host w.tick.tick.tick (w.nextName host request)
    request.content
  rcases hrun : (writePayloadFileAtomically (w.nextName host request) request.content).run
    host.perform w.tick.tick.tick with ⟨e | error | _, w'⟩
  · rw [hrun] at hconnection
    exact keepsView_of_connection hconnection
  · rw [hrun] at hconnection
    exact keepsView_of_connection hconnection
  · rw [hrun] at hconnection hexists
    dsimp only at hconnection ⊢
    rw [← hconnection]
    refine keepsView_savePayloadRow hagent fun r hr href => ?_
    rw [hconnection] at hr
    obtain ⟨hfile, hprobe⟩ := hdetected ⟨r, hr, href⟩
    obtain ⟨error, herror⟩ := hexists hfile hprobe
    cases herror

theorem keepsView_writePayload {service : PayloadService} {request : MemoryPayloadWriteRequest}
    {agent : SqlText} {w : World} (hagent : bindText request.agentId ≠ agent)
    (hdetected : (∃ r ∈ (w.connection.current.view agent).payloads,
        r.2.ref = bindText (service.uri (w.nextName host request))) →
      (w.files (w.nextName host request)).isSome = true ∧
        (host.outcome (w.clock + 4)).failed = false) :
    KeepsView agent w.connection
      ((writePayload service request).run host.perform w).2.connection := by
  unfold writePayload
  split
  · exact keepsView_of_connection rfl
  · split
    · exact keepsView_of_connection rfl
    · split
      · exact keepsView_of_connection rfl
      · exact keepsView_offloadPayload hagent hdetected

end Payloads

/-! ## The agent of an extracted update -/

/-- All entities and relations of an update are for one agent. -/
structure LongTermMemoryUpdate.IsFor (agentId : Text) (update : LongTermMemoryUpdate) : Prop where
  entities : ∀ entity ∈ update.entities, entity.agentId = agentId
  relations : ∀ relation ∈ update.relations, relation.agentId = agentId

section Extraction

variable {agentId : Text}

theorem isFor_ruleTopic {sourceRefs : List Text} {event : MemoryEvent} {state : RuleState}
    (hevent : event.agentId = agentId) (h : state.update.IsFor agentId) :
    (ruleTopic sourceRefs event state).update.IsFor agentId := by
  unfold ruleTopic
  dsimp only
  split
  · refine ⟨fun entity hentity => ?_, h.relations⟩
    rcases List.mem_append.mp hentity with hold | hnew
    · exact h.entities entity hold
    · split at hnew
      · cases hnew
      · rw [List.mem_singleton.mp hnew]
        exact hevent
  · exact h

theorem isFor_rulePreference {sourceRefs : List Text} {event : MemoryEvent} {state : RuleState}
    (hevent : event.agentId = agentId) (h : state.update.IsFor agentId) :
    (rulePreference sourceRefs event state).update.IsFor agentId := by
  unfold rulePreference
  split
  · refine ⟨fun entity hentity => ?_, fun relation hrelation => ?_⟩
    · rcases List.mem_append.mp hentity with hold | hnew
      · exact h.entities entity hold
      · rw [List.mem_singleton.mp hnew]
        exact hevent
    · rcases List.mem_append.mp hrelation with hold | hnew
      · exact h.relations relation hold
      · rw [List.mem_singleton.mp hnew]
        exact hevent
  · exact h

theorem isFor_ruleBasedProcess {batch : LongTermMemoryBatch}
    (h : ∀ event ∈ batch.events, event.agentId = agentId) :
    (ruleBasedProcess batch).IsFor agentId := by
  refine List.foldlRecOn batch.events _ (motive := fun state : RuleState =>
    state.update.IsFor agentId)
    ⟨by simp, by simp⟩ ?_
  intro state hstate event hevent
  split
  · exact isFor_rulePreference (h event hevent) (isFor_ruleTopic (h event hevent) hstate)
  · exact hstate

theorem isFor_parseResponse (host : Host) (jsonStr : Text) (sourceRefs : List Text) :
    (parseResponse host jsonStr sourceRefs agentId).IsFor agentId := by
  unfold parseResponse
  split
  · refine ⟨fun entity hentity => ?_, fun relation hrelation => ?_⟩
    · obtain ⟨item, -, rfl⟩ := List.mem_map.mp hentity
      rfl
    · obtain ⟨item, -, rfl⟩ := List.mem_map.mp hrelation
      rfl
  · exact ⟨by simp, by simp⟩

theorem isFor_extract {host : Host} {model : Option MemoryModelClient}
    {buildResult : ConsolidationBatchBuildResult} {update : LongTermMemoryUpdate}
    {fallbackUsed : Bool} (h : ∀ event ∈ buildResult.batch.events, event.agentId = agentId)
    (hextract : extract host (some ruleBasedProcess) model buildResult =
      .ok (update, fallbackUsed)) : update.IsFor agentId := by
  unfold extract at hextract
  split at hextract
  · cases hextract
    exact ⟨by simp, by simp⟩
  · next hnonempty =>
    have hmodel : ∀ client u, llmProcess host client buildResult.batch = .ok u →
        u.IsFor agentId := by
      intro client u hu
      have hhead : (buildResult.batch.events.head?.map (·.agentId)).getD [] = agentId := by
        cases hevents : buildResult.batch.events with
        | nil => simp [hevents] at hnonempty
        | cons event rest =>
            rw [hevents] at h
            exact h event List.mem_cons_self
      unfold llmProcess at hu
      rw [hhead] at hu
      obtain ⟨reply, -, hu⟩ := except_bind_eq_ok hu
      split at hu
      · cases hu
        exact isFor_parseResponse host _ _
      · cases hu
        exact ⟨by simp, by simp⟩
    unfold extractUpdate at hextract
    have hchoice : ∀ u : LongTermMemoryUpdate, u.IsFor agentId →
        ((if u.isNonempty then (u, false) else (ruleBasedProcess buildResult.batch, true)) :
          LongTermMemoryUpdate × Bool) = (update, fallbackUsed) → update.IsFor agentId := by
      intro u hu hchosen
      split at hchosen
      · cases hchosen
        exact hu
      · cases hchosen
        exact isFor_ruleBasedProcess h
    cases model with
    | none => exact hchoice {} ⟨by simp, by simp⟩ (Except.ok.inj hextract)
    | some client =>
        obtain ⟨u, hu, hextract⟩ := except_bind_eq_ok hextract
        exact hchoice u (hmodel client u hu) (Except.ok.inj hextract)

end Extraction

/-! ## Consolidation -/

section Consolidation

variable {request : MemoryConsolidationRequest}

theorem bindText_withAgent (agentId : Text) :
    bindText (withAgent agentId (cStr agentId)) = bindText agentId := by
  unfold withAgent
  split
  · rfl
  · exact bindText_columnText (bindText agentId)

/-- The operations of the write phase name no other agent, and touch only what the update does. -/
theorem persistOperations_isFor {buildResult : ConsolidationBatchBuildResult}
    {update : LongTermMemoryUpdate} (h : update.IsFor (cStr request.agentId)) :
    ∀ op ∈ persistOperations request buildResult update,
      (∀ agent ∈ op.agent?, agent = bindText request.agentId) ∧
        ∀ id ∈ op.touched, id ∈ update.touched := by
  intro op hop
  rw [persistOperations_eq, List.mem_append] at hop
  rcases hop with hop | hop
  · unfold updatePart at hop
    split at hop
    · cases hop
    · simp only [LongTermMemoryUpdate.operations, List.mem_cons, List.mem_append, List.mem_map,
        List.mem_flatMap] at hop
      rcases hop with rfl | ((⟨summary, -, rfl⟩ | ⟨summary, -, rfl⟩) | ⟨entity, hentity, hop⟩) |
        ⟨relation, hrelation, rfl⟩
      · simp [sessionOperation, TransactionOp.agent?, TransactionOp.touched]
      · simp [topicOperation, TransactionOp.agent?, TransactionOp.touched]
      · simp [profileOperation, TransactionOp.agent?, TransactionOp.touched]
      · have htouched : ∀ id ∈ bindText entity.id :: (if entity.supersededEntityId.isEmpty then []
            else [bindText entity.supersededEntityId]), id ∈ update.touched := fun id hid =>
          List.mem_append_left _ (List.mem_flatMap.mpr ⟨entity, hentity, hid⟩)
        simp only [entityOperations, List.mem_cons] at hop
        rcases hop with rfl | hop
        · refine ⟨?_, htouched⟩
          simp [TransactionOp.agent?, h.entities entity hentity, bindText_withAgent]
        · split at hop
          · cases hop
          · next hne =>
              rw [List.mem_singleton.mp hop]
              refine ⟨by simp [TransactionOp.agent?], fun id hid => htouched id ?_⟩
              simp only [TransactionOp.touched, List.mem_singleton] at hid
              simp only [hne, hid]
              simp
      · refine ⟨?_, fun id hid => List.mem_append_right _ ?_⟩
        · simp [relationOperation, TransactionOp.agent?, h.relations relation hrelation,
            bindText_withAgent]
        · simp only [relationOperation, TransactionOp.touched] at hid
          split at hid
          · next htype =>
              rw [List.mem_singleton.mp hid]
              exact List.mem_map_of_mem (List.mem_filter.mpr ⟨hrelation, by simpa using htype⟩)
          · cases hid
  · unfold cursorOperations at hop
    split at hop
    · cases hop
    · rw [List.mem_singleton.mp hop]
      simp [TransactionOp.agent?, TransactionOp.touched]

theorem keepsView_persist (host : Host) (buildResult : ConsolidationBatchBuildResult)
    {update : LongTermMemoryUpdate} (fallbackUsed : Bool) {agent : SqlText} {c : Connection}
    (hagent : bindText request.agentId ≠ agent) (hfor : update.IsFor (cStr request.agentId))
    (htouched : ∀ id ∈ update.touched, (c.current.view agent).Lacks id) :
    KeepsView agent c ((persist request buildResult update fallbackUsed).runOn host c).2 := by
  have hspare : ∀ op ∈ persistOperations request buildResult update, op.agent? ≠ some agent ∧
      ∀ id ∈ op.touched, (c.current.view agent).Lacks id := by
    intro op hop
    obtain ⟨hname, hids⟩ := persistOperations_isFor hfor op hop
    exact ⟨fun heq => hagent (hname agent heq).symm, fun id hid => htouched id (hids id hid)⟩
  rcases persist_cases host request buildResult update fallbackUsed c with
    ⟨-, -, result, clock, -, hrun⟩ | ⟨-, -, ws, c', hws, happlied, hclosed, hrun⟩ |
      ⟨-, -, before, op, after, e, ws, hsplit, -, hws, happlied, hnone, hopen, -⟩
  · rw [hrun]
    exact ⟨rfl, rfl⟩
  · rw [hrun]
    have hview := applied_view happlied (statementsOf_spareAgent hws hspare)
    rcases hclosed with ⟨-, rfl⟩ | ⟨hnone, hnone'⟩
    · exact ⟨rfl, rfl⟩
    · exact keepsView_of_saved (hnone'.trans hnone.symm) hview
  · have hbefore : ∀ op ∈ before, op.agent? ≠ some agent ∧
        ∀ id ∈ op.touched, (c.current.view agent).Lacks id := fun op hop =>
      hspare op (hsplit ▸ List.mem_append_left _ hop)
    refine ⟨applied_view happlied (statementsOf_spareAgent hws hbefore), ?_⟩
    unfold Session.durable
    rw [hopen, hnone]
    rfl

/-- The events of a batch are those of the agent that asks for the consolidation. -/
theorem nextBatch_agentId (host : PayloadHost) (c : Connection) :
    ∀ event ∈ (c.nextBatch host request).batch.events, event.agentId = cStr request.agentId := by
  intro event hevent
  unfold Connection.nextBatch at hevent
  rw [(build_loaded host.database request _).1, List.mem_filter, List.mem_map] at hevent
  obtain ⟨⟨row, hrow, rfl⟩, -⟩ := hevent
  have hloaded := (lookedRows_isPrefix host.database request _).subset hrow
  have hafter := (List.mem_filter.mp hloaded).2
  simp only [EventRow.afterCursor, Bool.and_eq_true] at hafter
  exact NullableText.columnText_of_is hafter.1.2

theorem keepsView_consolidate {host : PayloadHost} {services : RuntimeServices}
    (hprocessor : services.longTermProcessor = ruleBasedProcess)
    {model : Option MemoryModelClient} {agent : SqlText} {c : Connection}
    (hagent : bindText request.agentId ≠ agent)
    (htouched : ∀ update fallbackUsed,
      extract host.database (some services.longTermProcessor) model (c.nextBatch host request) =
        .ok (update, fallbackUsed) →
      ∀ id ∈ update.touched, (c.current.view agent).Lacks id) :
    KeepsView agent c (consolidateWithModel host.database services request model c).2 := by
  unfold consolidateWithModel
  obtain ⟨clock, ⟨error, hload⟩ | hload⟩ :=
    loadForConsolidation_cases host.database services request c
  · rw [hload]
    exact ⟨rfl, rfl⟩
  · rw [hload]
    dsimp only
    rw [run_consolidate]
    cases hextract : extract host.database (some services.longTermProcessor) model
        (c.nextBatch host request) with
    | error e =>
        unfold Connection.nextBatch at hextract
        rw [hextract]
        exact ⟨rfl, rfl⟩
    | ok extracted =>
        obtain ⟨update, fallbackUsed⟩ := extracted
        have hids := htouched update fallbackUsed hextract
        rw [hprocessor] at hextract
        have hfor := isFor_extract (nextBatch_agentId host c) hextract
        rw [← hprocessor] at hextract
        unfold Connection.nextBatch at hextract
        rw [hextract]
        obtain ⟨hcurrent, hdurable⟩ := keepsView_persist host.database
          (build request ((request.loaded (request.start c.current) c.current).map
            (readEventRow host.database))) fallbackUsed (c := { c with clock }) hagent hfor hids
        exact ⟨hcurrent, hdurable⟩

end Consolidation

/-! ## Runs -/

section Isolation

variable (host : PayloadHost) (services : RuntimeServices) (payloadService : PayloadService)

def World.run (w : World) (ops : List AgentOperation) : World :=
  ops.foldl (fun w op => op.perform host services payloadService w) w

/-- Every operation of a run that is issued for another agent spares this one, in the state it is
issued in. -/
def SparingRun (agentId : Text) : World → List AgentOperation → Prop
  | _, [] => True
  | w, op :: ops =>
      (op.agentId ≠ agentId → op.SparesAgent host services payloadService (bindText agentId) w) ∧
        SparingRun agentId (op.perform host services payloadService w) ops

variable {host services payloadService}

/-- One operation that spares an agent keeps its rows. -/
theorem keepsView_perform (hprocessor : services.longTermProcessor = ruleBasedProcess)
    {agent : SqlText} {w : World} {op : AgentOperation}
    (h : op.SparesAgent host services payloadService agent w) :
    KeepsView agent w.connection (op.perform host services payloadService w).connection := by
  cases op with
  | append event => exact keepsView_append host.database services h w.connection
  | writePayload request => exact keepsView_writePayload h.1 h.2
  | consolidate request model => exact keepsView_consolidate hprocessor h.1 h.2

theorem SparingRun.at {agentId : Text} {w : World} {before after : List AgentOperation}
    {op : AgentOperation}
    (h : SparingRun host services payloadService agentId w (before ++ op :: after))
    (hop : op.agentId ≠ agentId) :
    op.SparesAgent host services payloadService (bindText agentId)
      (w.run host services payloadService before) := by
  induction before generalizing w with
  | nil => exact h.1 hop
  | cons first rest ih => exact ih h.2

end Isolation

/-- In every run whose operations for other agents all spare an agent, each of these operations
leaves the rows of the agent as they were. -/
theorem agents_isolated (host : PayloadHost) (services : RuntimeServices)
    (payloadService : PayloadService)
    (hprocessor : services.longTermProcessor = ruleBasedProcess) (agentId : Text) (w : World)
    (before : List AgentOperation) (op : AgentOperation) (after : List AgentOperation)
    (hspares : SparingRun host services payloadService agentId w (before ++ op :: after))
    (hop : op.agentId ≠ agentId) :
    KeepsView (bindText agentId) (w.run host services payloadService before).connection
      (w.run host services payloadService (before ++ [op])).connection := by
  have hrun : w.run host services payloadService (before ++ [op]) =
      op.perform host services payloadService (w.run host services payloadService before) := by
    simp [World.run]
  rw [hrun]
  exact keepsView_perform hprocessor (hspares.at hop)

/-- Two agents say something, and both are consolidated without a model. -/
def twoAgents (first second : String) : List AgentOperation :=
  let message (agentId content : String) : MemoryEvent :=
    { agentId := ascii agentId, sessionId := ascii "s", role := ascii "user",
      content := ascii content }
  [.append (message "alice" first), .consolidate { agentId := ascii "alice" } none,
    .append (message "bob" second)]

def consolidateBob : AgentOperation :=
  .consolidate { agentId := ascii "bob" } none

theorem agents_isolated_other_topic :
    let before := twoAgents "my project" "my database"
    KeepsView (bindText (ascii "alice"))
      (emptyWorld.run (failingAt none) { store := true } eagerService before).connection
      (emptyWorld.run (failingAt none) { store := true } eagerService
        (before ++ [consolidateBob])).connection := by
  intro before
  have hbob : bindText (ascii "bob") ≠ bindText (ascii "alice") := by decide
  refine agents_isolated (failingAt none) { store := true } eagerService rfl (ascii "alice")
    emptyWorld before consolidateBob [] ⟨fun h => absurd rfl h, fun h => absurd rfl h,
      fun _ => hbob, fun _ => ⟨hbob, ?_⟩, trivial⟩ (by decide)
  intro update fallbackUsed hextract id hid r hr
  let w := emptyWorld.run (failingAt none) { store := true } eagerService before
  have hapart : ∀ extracted ∈ (extract (failingAt none).database (some ruleBasedProcess) none
      (w.connection.nextBatch (failingAt none) { agentId := ascii "bob" })).toOption,
      ∀ id ∈ extracted.1.touched,
        ∀ r ∈ (w.connection.current.view (bindText (ascii "alice"))).entities, r.2.id ≠ id := by
    decide +kernel
  exact hapart (update, fallbackUsed) (congrArg Except.toOption hextract) id hid r hr

/-- Both agents mention a project: the entity of the first becomes one of the second. -/
theorem not_isolated_same_topic :
    let before := twoAgents "my project" "my project"
    ¬KeepsView (bindText (ascii "alice"))
      (emptyWorld.run (failingAt none) { store := true } eagerService before).connection
      (emptyWorld.run (failingAt none) { store := true } eagerService
        (before ++ [consolidateBob])).connection := by
  intro before h
  have hview := h.current
  revert hview
  decide +kernel

end AgentMemory
