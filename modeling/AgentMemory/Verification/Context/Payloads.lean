import AgentMemory.Foundation.Narrowing
import AgentMemory.Verification.Context.Sections
import AgentMemory.Verification.Store.Frame

/-! # The payloads of a context

The store cuts off the payloads at the limit, and only then the builder picks out those that match
the query. -/

namespace AgentMemory

open Foundation

/-! ## The loop -/

section Loop

variable {limit : ℤ} {terms : List Text}

end Loop

/-! ## The rows of a payload table -/

/-- The column `ref` is `UNIQUE`. -/
def Database.PayloadRefsUnique (db : Database) : Prop :=
  (db.payloads.rows.map fun r => r.2.ref).Nodup

theorem effect_payloadRefsUnique {now : Text} {w : Write} {db db' : Database}
    (h : w.effect now db = some db') (hunique : db.PayloadRefsUnique) :
    db'.PayloadRefsUnique := by
  by_cases htable : w.table = some .payloads
  · cases w with
    | upsertPayload v =>
        simp only [Write.effect] at h
        split at h
        · cases h
          have hrefs : ∀ r : Rowid × PayloadRow, (if r.2.ref = v.ref then
              ({ v with createdAt := r.2.createdAt } : PayloadRow) else r.2).ref = r.2.ref := by
            intro r
            split
            · next heq => exact heq.symm
            · rfl
          simpa [Database.PayloadRefsUnique, Table.update, Function.comp_def, hrefs] using hunique
        · next hfresh =>
          obtain ⟨payloads, hins, h⟩ := Option.bind_eq_some_iff.mp h
          cases h
          obtain ⟨i, -, hrows⟩ := Table.insert_eq_some hins
          rw [Database.PayloadRefsUnique, hrows, List.map_append, List.nodup_append]
          refine ⟨hunique, List.nodup_singleton _, ?_⟩
          rintro ref href _ hnew rfl
          rw [List.map_singleton, List.mem_singleton] at hnew
          obtain ⟨r, hr, rfl⟩ := List.mem_map.mp href
          exact hfresh (List.any_eq_true.mpr ⟨r, hr, by simpa using hnew⟩)
    | _ => cases htable
  · rw [Database.PayloadRefsUnique, (Write.effect_sameExcept h).payloads htable]
    exact hunique

/-- So it is in every state that calls on a new database lead to. -/
theorem runCalls_payloadRefsUnique (host : Host) (calls : List StoreCall) {c : Connection}
    (h : c.current.PayloadRefsUnique ∧ ∀ db, c.saved = some db → db.PayloadRefsUnique) :
    (runCalls host calls c).current.PayloadRefsUnique ∧
      ∀ db, (runCalls host calls c).saved = some db → db.PayloadRefsUnique := by
  induction calls generalizing c with
  | nil => exact h
  | cons call rest ih =>
      apply ih
      refine call.body.all_true.run_invariant (I := fun c : Connection =>
        c.current.PayloadRefsUnique ∧ ∀ db, c.saved = some db → db.PayloadRefsUnique) ?_ h
      intro command c _ hc
      refine Session.execute_invariant (P := fun _ => True) (I := Database.PayloadRefsUnique) ?_
        command (fun _ _ => trivial) c hc
      exact fun n w db db' _ heffect hdb => effect_payloadRefsUnique heffect hdb

/-! ## The payloads in scope -/

/-- The replies that a build gets. -/
def repliesTo (host : ContextHost) (builder : ContextBuilder) (request : MemoryContextRequest)
    (c : Connection) : ContextReplies where
  events := (loadRecentEvents host.toHost request.agentId request.sessionId
    (.ofInt (messageLimit request)) c).1
  search := (contextSearch host builder request (afterContextMessages host builder request c)).1
  snapshot := (loadLongTermMemory host.toQueryHost request.agentId
    (.ofInt (longTermMemoryLimit builder request)) request.sessionId
    (beforeSnapshot host builder request c)).1
  payloads := (loadRecentPayloads host.toQueryHost request.agentId request.sessionId
    (.ofInt (payloadLimit request)) (afterLongTerm host builder request c)).1

theorem replied_repliesTo (host : ContextHost) (builder : ContextBuilder)
    (request : MemoryContextRequest) (c : Connection) :
    Replied host builder request c (repliesTo host builder request c) :=
  ⟨fun _ => rfl, fun _ => rfl, fun _ => rfl, fun _ => rfl⟩

/-- A build that succeeds has had no failed read, and returns the package of its replies. -/
theorem buildContext_succeeded {host : ContextHost} {builder : ContextBuilder}
    {request : MemoryContextRequest} {c : Connection}
    (hok : (buildContext host builder request c).1.succeeded = true) :
    let replies := repliesTo host builder request c
    replies.firstError builder request = none ∧ BuiltOf builder request replies host.streamFloat
      (buildContext host builder request c).1.context := by
  intro replies
  have hresult := buildContext_replied (replied_repliesTo host builder request c)
  rw [hresult, ContextReplies.result] at hok ⊢
  cases herror : replies.firstError builder request with
  | some error =>
      rw [herror] at hok
      cases hok
  | none => exact ⟨rfl, package_builtOf builder request replies host.streamFloat⟩

section TwoPayloads

end TwoPayloads

end AgentMemory
