import AgentMemory.Foundation.Locks
import AgentMemory.Model.Service
import AgentMemory.Verification.Server.Wire

/-! # Requests that are handled at the same time

The threads of the server take their mutexes in one order and give all of them back, so no request
waits for ever, and each is answered whatever the others do. What a thread has called is what its
one operation of the runtime calls. -/

namespace AgentMemory

open Foundation Json Httplib

/-! ## Discipline -/

/-- The mutexes under which an operation is called. -/
def ServiceOp.Needs : ServiceOp → List Mutex → Prop
  | .read _, locks => .store ∈ locks
  | .saveEvent _, locks => .store ∈ locks
  | .extract .., locks => .consolidation ∈ locks
  | .persist .., locks => .consolidation ∈ locks
  | .payload (.savePayload ..), locks => .payload ∈ locks ∧ .store ∈ locks
  | .payload _, locks => .payload ∈ locks
  | .loadTextFile _, locks => .payload ∈ locks

/-- What an operation of the runtime calls. -/
def RuntimeOp.Calls : RuntimeOp → ServiceOp → Prop
  | .appendEvent event, .saveEvent event' => event' = event
  | .writePayload _, .payload _ => True
  | .readPayload _, .loadTextFile _ => True
  | .consolidate _, .read _ => True
  | .consolidate _, .extract .. => True
  | .consolidate request, .persist request' .. => request' = request
  | .buildContext _, .read _ => True
  | .searchMemory _, .read _ => True
  | .getStats, .read _ => True
  | _, _ => False

/-- A program that gives back all mutexes that it takes, in a place where these are held, and calls
only operations that satisfy `P`, each under the mutexes that it needs. -/
abbrev Balanced {α : Type} (P : ServiceOp → Prop) (locks : List Mutex) (p : ServiceM α) : Prop :=
  p.Disciplined (S := ServiceOp.signature) (fun op locks => op.Needs locks ∧ P op) locks locks

section Balanced

variable {α β : Type} {P : ServiceOp → Prop} {locks : List Mutex}

theorem balanced_bind {p : ServiceM α} {f : α → ServiceM β} (hp : Balanced P locks p)
    (hf : ∀ a, Balanced P locks (f a)) : Balanced P locks (p >>= f) :=
  Program.Disciplined.bind hp hf

theorem balanced_ofExcept (outcome : Except Thrown α) : Balanced P locks (.ofExcept outcome) :=
  Program.disciplined_ofExcept outcome

theorem balanced_operate {op : ServiceOp} (hneeds : op.Needs locks) (h : P op) :
    Balanced P locks (Program.operate (S := ServiceOp.signature) op) :=
  Program.disciplined_operate ⟨hneeds, h⟩

theorem balanced_storeCall {op : ServiceOp} (hlocks : ∀ held ∈ locks, held < .store)
    (hneeds : op.Needs (.store :: locks)) (h : P op) : Balanced P locks (storeCall op) :=
  Program.disciplined_locked hlocks (balanced_operate hneeds h)

theorem balanced_readStore (hlocks : ∀ held ∈ locks, held < .store) {call : StoreRead}
    (h : P (.read call)) : Balanced P locks (readStore call) :=
  balanced_storeCall hlocks List.mem_cons_self h

theorem balanced_getService (service : α) : Balanced P [] (getService service) :=
  Program.disciplined_locked (by simp) rfl

theorem balanced_payloadCall (h : ∀ op, P (.payload op)) (op : PayloadOp) :
    Balanced P [.payload] (payloadCall op) := by
  cases op with
  | savePayload request payload =>
      exact balanced_storeCall (by decide) ⟨by decide, by decide⟩ (h _)
  | _ => exact balanced_operate (List.mem_singleton_self _) (h _)

end Balanced

namespace BuiltinMemoryRuntime

variable (host : ServiceHost) (impl : BuiltinMemoryRuntime)

theorem balanced_appendEvent (event : MemoryEvent) :
    Balanced (RuntimeOp.appendEvent event).Calls [] (impl.appendEvent event) := by
  unfold appendEvent
  refine balanced_bind (balanced_getService _) fun store => ?_
  split
  · exact balanced_bind (balanced_getService _) fun message => rfl
  · refine balanced_bind (balanced_storeCall (by simp) List.mem_cons_self rfl) fun saved => ?_
    exact balanced_bind (balanced_ofExcept _) fun result => rfl

section Context

variable {P : ServiceOp → Prop} (h : ∀ call, P (.read call)) (builder : ContextBuilder)
  (request : MemoryContextRequest)

include h

theorem balanced_contextMessages : Balanced P [] (contextMessages builder request) := by
  unfold contextMessages loadMessagesForContext
  dsimp only
  split_ifs
  · rfl
  · refine balanced_bind (balanced_readStore (by simp) (h _)) fun events => ?_
    split <;> rfl
  · rfl

theorem balanced_contextLongTerm : Balanced P [] (contextLongTerm builder request) := by
  unfold contextLongTerm selectLongTermMemory
  dsimp only
  split_ifs
  · rfl
  · refine balanced_bind (balanced_readStore (by simp) (h _)) fun snapshot => ?_
    split <;> rfl
  · refine balanced_bind (balanced_readStore (by simp) (h _)) fun searchResult => ?_
    split
    · rfl
    · refine balanced_bind (balanced_readStore (by simp) (h _)) fun snapshotResult => ?_
      split <;> rfl
  · rfl

theorem balanced_loadPayloadsForContext :
    Balanced P [] (loadPayloadsForContext builder request) := by
  unfold loadPayloadsForContext
  dsimp only
  split
  · rfl
  · refine balanced_bind (balanced_readStore (by simp) (h _)) fun payloads => ?_
    split <;> rfl

theorem balanced_buildContextWith : Balanced P [] (buildContextWith host builder request) := by
  unfold buildContextWith
  refine balanced_bind (balanced_contextMessages h builder request) fun messages => ?_
  split
  · rfl
  refine balanced_bind (balanced_contextLongTerm h builder request) fun selected => ?_
  split
  · rfl
  dsimp only
  split
  · refine balanced_bind (balanced_loadPayloadsForContext h builder request) fun payloads => ?_
    split <;> rfl
  · rfl

end Context

theorem balanced_buildContext (request : MemoryContextRequest) :
    Balanced (RuntimeOp.buildContext request).Calls [] (impl.buildContext host request) := by
  unfold buildContext
  refine balanced_bind (balanced_getService _) fun contextBuilder => ?_
  split
  · rfl
  · exact balanced_buildContextWith host (fun _ => trivial) _ request

theorem balanced_writePayload (request : MemoryPayloadWriteRequest) :
    Balanced (RuntimeOp.writePayload request).Calls [] (impl.writePayload host request) := by
  unfold writePayload
  refine balanced_bind (balanced_getService _) fun payloadService => ?_
  split
  · rfl
  · exact Program.disciplined_locked (by simp)
      (Program.Disciplined.translate (balanced_payloadCall fun _ => trivial) _)

theorem balanced_readPayload (uri : Text) :
    Balanced (RuntimeOp.readPayload uri).Calls [] (impl.readPayload host uri) := by
  unfold readPayload
  refine balanced_bind (balanced_getService _) fun payloadService => ?_
  split
  · rfl
  · refine Program.disciplined_locked (by simp) ?_
    unfold readPayloadWith
    dsimp only
    split_ifs
    · rfl
    · rfl
    · rfl
    · refine balanced_bind (balanced_operate (List.mem_singleton_self _) trivial) fun content => ?_
      split
      · rfl
      · split <;> rfl

theorem balanced_consolidateLocked (request : MemoryConsolidationRequest) (asksModel : Bool) :
    Balanced (RuntimeOp.consolidate request).Calls [.consolidation]
      (consolidateLocked request asksModel) := by
  have hcursor : Balanced (RuntimeOp.consolidate request).Calls [.consolidation]
      (loadStartCursor request) := by
    unfold loadStartCursor
    split
    · rfl
    · refine balanced_bind (balanced_readStore (by decide) trivial) fun cursorResult => ?_
      split_ifs <;> rfl
  have hevents (startCursor : Text) : Balanced (RuntimeOp.consolidate request).Calls
      [.consolidation] (loadEvents request startCursor) := by
    unfold loadEvents
    refine balanced_bind (balanced_readStore (by decide) trivial) fun eventsResult => ?_
    split_ifs <;> rfl
  have hpersist (buildResult : ConsolidationBatchBuildResult) (update : LongTermMemoryUpdate)
      (fallbackUsed : Bool) : Balanced (RuntimeOp.consolidate request).Calls [.consolidation]
        (persistBatch request buildResult update fallbackUsed) := by
    unfold persistBatch
    dsimp only
    split
    · exact balanced_operate (List.mem_singleton_self _) rfl
    · exact balanced_storeCall (by decide) (List.mem_cons_of_mem _ (List.mem_singleton_self _)) rfl
  unfold consolidateLocked
  refine balanced_bind hcursor fun startCursor => ?_
  split
  · rfl
  refine balanced_bind (hevents _) fun events => ?_
  split
  · rfl
  unfold consolidateEvents
  refine balanced_bind (balanced_operate (List.mem_singleton_self _) trivial) fun extracted => ?_
  refine balanced_bind (balanced_ofExcept _) fun update => ?_
  exact balanced_bind (hpersist _ _ _) fun persisted => balanced_ofExcept _

theorem balanced_consolidate (request : MemoryConsolidationRequest) :
    Balanced (RuntimeOp.consolidate request).Calls [] (impl.consolidate request) := by
  unfold consolidate
  refine balanced_bind (balanced_getService _) fun asksModel => ?_
  refine balanced_bind (balanced_getService _) fun consolidationService => ?_
  refine balanced_bind (balanced_getService _) fun store => ?_
  split
  · exact balanced_bind (balanced_getService _) fun message => rfl
  · split
    · rfl
    · exact Program.disciplined_locked (by simp) (balanced_consolidateLocked request asksModel)

theorem balanced_searchMemory (request : MemorySearchRequest) :
    Balanced (RuntimeOp.searchMemory request).Calls [] (impl.searchMemory request) := by
  unfold searchMemory
  refine balanced_bind (balanced_getService _) fun store => ?_
  split
  · exact balanced_bind (balanced_getService _) fun message => rfl
  · exact balanced_bind (balanced_readStore (by simp) trivial) fun result => rfl

theorem balanced_getStats : Balanced RuntimeOp.getStats.Calls [] impl.getStats := by
  unfold getStats
  refine balanced_bind (balanced_getService _) fun store => ?_
  split
  · exact balanced_bind (balanced_getService _) fun message => rfl
  · exact balanced_readStore (by simp) trivial

theorem balanced_body (op : RuntimeOp) : Balanced op.Calls [] (impl.body host op) := by
  cases op with
  | appendEvent event => exact impl.balanced_appendEvent event
  | buildContext request => exact impl.balanced_buildContext host request
  | writePayload request => exact impl.balanced_writePayload host request
  | readPayload uri => exact impl.balanced_readPayload host uri
  | consolidate request => exact impl.balanced_consolidate request
  | searchMemory request => exact impl.balanced_searchMemory request
  | getStats => exact impl.balanced_getStats

end BuiltinMemoryRuntime

/-! ## Threads -/

section Threads

variable {server : MemoryHttpRoutes} {host : ServiceHost} {runtime : BuiltinMemoryRuntime}
  {w : World} {service : Service}

theorem disciplined_of_served {program : ServiceM Response}
    (h : ∃ req, program = server.serve host runtime req) :
    program.Disciplined (S := ServiceOp.signature) ServiceOp.Needs [] [] := by
  obtain ⟨req, rfl⟩ := h
  refine Program.Disciplined.interpret (fun op => ?_) _
  exact (runtime.balanced_body host op).weaken fun _ _ h => h.1

/-- A request calls no other operation than the one that it comes to. -/
theorem all_processRequest {P : RuntimeOp → Prop} {req : RoutedRequest}
    (hreq : server.LetsThrough req → ∀ op, server.operation? req = some op → P op) :
    (server.processRequest req).All (S := RuntimeOp.signature.fallible Thrown) P := by
  have : ∀ op, Nonempty ((RuntimeOp.signature.fallible Thrown).Reply op) :=
    fun _ => ⟨.error .other⟩
  refine Program.all_of_ends fun calls outcome hends call hcall => ?_
  by_cases hlets : server.LetsThrough req
  · have hcalls := MemoryHttpRoutes.calls_processRequest Program.scripted calls hlets
    rw [AgentMemory.calls, hends.run_scripted.2] at hcalls
    have hmem : call.1 ∈ (server.operation? req).toList := by
      rw [← hcalls]
      exact List.mem_map_of_mem hcall
    exact hreq hlets call.1 (Option.mem_toList.mp hmem)
  · obtain ⟨res, hres⟩ := MemoryHttpRoutes.processRequest_silent hlets
    rw [hres] at hends
    obtain ⟨rfl, -⟩ := hends
    cases hcall

/-- A thread that has come to its end: the request it was started for, what that called of the
runtime, and the response. -/
structure Handled (server : MemoryHttpRoutes) (host : ServiceHost) (runtime : BuiltinMemoryRuntime)
    (thread : Thread ServiceOp.signature Mutex Thrown Response) (req : RoutedRequest)
    (calls : List ((op : RuntimeOp) × Except Thrown (RuntimeOp.signature.Reply op)))
    (res : Response) : Prop where
  program : thread.program = server.serve host runtime req
  rest : thread.rest = .pure res
  ends : (server.processRequest req).Ends calls (.ok res)
  log : ∃ logs : List (List ServiceOp.signature.Called), thread.log = logs.flatten ∧
    List.Forall₂ (fun call log => (runtime.body host call.1).unlocked.Ends log call.2) calls logs

theorem handled_of_done (hservice : server.Reaches host runtime w service)
    {thread : Thread ServiceOp.signature Mutex Thrown Response} (hthread : thread ∈ service.threads)
    (hdone : thread.rest.Done) :
    ∃ req calls res, Handled server host runtime thread req calls res ∧
      SentAnswer server.platform req res := by
  obtain ⟨req, hprogram⟩ := Pool.admitted_of_reachable hservice thread hthread
  have hfollows := Pool.follows_of_reachable hservice thread hthread
  obtain ⟨outcome, houtcome⟩ := Program.done_iff.mp hdone
  have hserved := hfollows.ends houtcome
  rw [hprogram, MemoryHttpRoutes.serve, Program.unlocked_interpret] at hserved
  obtain ⟨calls, logs, hends, hlog, hlogs⟩ := hserved.interpret
  have : ∀ op, Nonempty ((RuntimeOp.signature.fallible Thrown).Reply op) :=
    fun _ => ⟨.error .other⟩
  obtain ⟨res, hres, hanswer⟩ := @processRequest_answers _ Program.scripted calls server req
  rw [hends.run_scripted.1] at hres
  cases hres
  exact ⟨req, calls, res, ⟨hprogram, houtcome, hends, logs, hlog, hlogs⟩, hanswer⟩

/-- Whatever requests are being handled: the threads come to an end, none of them waits for ever,
and then each request has its answer and holds no mutex. -/
theorem requests_answered (hservice : server.Reaches host runtime w service) :
    (¬∃ run : ℕ → Service, run 0 = service ∧
      ∀ n, Pool.ThreadStep (runtime.perform host) (run n) (run (n + 1))) ∧
    ∀ service', Relation.ReflTransGen (Pool.ThreadStep (runtime.perform host)) service service' →
      (¬∃ next, Pool.ThreadStep (runtime.perform host) service' next) →
      ∀ thread ∈ service'.threads, thread.locks = [] ∧
        ∃ req res, thread.program = server.serve host runtime req ∧ thread.rest = .pure res ∧
          SentAnswer server.platform req res := by
  constructor
  · rintro ⟨run, -, hrun⟩
    exact (wellFounded_iff_isEmpty_descending_chain.mp
      (Pool.wellFounded_threadStep (runtime.perform host))).elim ⟨run, hrun⟩
  · intro service' hsteps hstuck thread hthread
    have hreached : server.Reaches host runtime w service' :=
      hservice.trans (hsteps.lift id fun _ _ => .thread)
    have hdone : thread.rest.Done := by
      by_contra hbusy
      exact hstuck (Pool.exists_threadStep (fun _ => disciplined_of_served) hreached
        ⟨thread, hthread, hbusy⟩)
    obtain ⟨req, calls, res, hhandled, hanswer⟩ := handled_of_done hreached hthread hdone
    refine ⟨?_, req, res, hhandled.program, hhandled.rest, hanswer⟩
    have horderly := (Pool.orderly_of_reachable (fun _ => disciplined_of_served) hreached thread
      hthread).2
    rw [hhandled.rest] at horderly
    exact horderly

/-- A host that refuses nothing, with the parser of the library. -/
def ServiceHost.plain : ServiceHost where
  toQueryHost := Host.sorting { outcome := fun _ => {}, parseJson := parse readsHalf }
    (fun _ _ _ _ => none) (fun _ _ => false) fun _ => .empty
  streamFloat _ := []
  system _ := {}
  weaklyCanonical path := some path
  thrown _ := .other

def World.blank : World where
  files _ := none
  connection := { current := .empty }

/-- Two requests come before either is worked on. -/
theorem requests_answered_two :
    let runtime : BuiltinMemoryRuntime := { store := true }
    let program := MemoryHttpRoutes.plain.serve .plain runtime eventRequest
    let service : Service := { state := .blank, threads := [{ program }, { program }] }
    ∀ service',
      Relation.ReflTransGen (Pool.ThreadStep (runtime.perform .plain)) service service' →
      (¬∃ next, Pool.ThreadStep (runtime.perform .plain) service' next) →
      ∀ thread ∈ service'.threads, thread.locks = [] ∧
        ∃ req res, thread.program = MemoryHttpRoutes.plain.serve .plain runtime req ∧
          thread.rest = .pure res ∧ SentAnswer .plain req res := by
  intro runtime program service
  have hfirst : MemoryHttpRoutes.plain.Reaches .plain runtime .blank
      { state := .blank, threads := [{ program }] } :=
    .single (.spawn _ program ⟨eventRequest, rfl⟩)
  have hservice : MemoryHttpRoutes.plain.Reaches .plain runtime .blank service :=
    hfirst.tail (.spawn _ program ⟨eventRequest, rfl⟩)
  exact (requests_answered hservice).2

end Threads

end AgentMemory
