import AgentMemory.Verification.Service.Events

/-! # Statistics of a store in use

No statement of the store removes a row. The counts that are reported are those of the store at one
moment, although other threads write in between the requests. -/

namespace AgentMemory

open Foundation Httplib

/-! ## No row is lost -/

/-- The rowids of each counted table are those from before and perhaps later ones. -/
structure Database.Grows (db db' : Database) : Prop where
  events : db.events.rows.map Prod.fst <+: db'.events.rows.map Prod.fst
  payloads : db.payloads.rows.map Prod.fst <+: db'.payloads.rows.map Prod.fst
  summaries : db.summaries.rows.map Prod.fst <+: db'.summaries.rows.map Prod.fst
  entities : db.entities.rows.map Prod.fst <+: db'.entities.rows.map Prod.fst
  relations : db.relations.rows.map Prod.fst <+: db'.relations.rows.map Prod.fst

theorem Database.Grows.refl (db : Database) : db.Grows db :=
  ⟨List.prefix_rfl, List.prefix_rfl, List.prefix_rfl, List.prefix_rfl, List.prefix_rfl⟩

theorem Database.Grows.trans {db db' db'' : Database} (h : db.Grows db') (h' : db'.Grows db'') :
    db.Grows db'' :=
  ⟨h.events.trans h'.events, h.payloads.trans h'.payloads, h.summaries.trans h'.summaries,
    h.entities.trans h'.entities, h.relations.trans h'.relations⟩

section Tables

variable {α κ : Type}

theorem rowids_insert {a : α} {t t' : Table α} (h : t.insert a = some t') :
    t.rows.map Prod.fst <+: t'.rows.map Prod.fst := by
  obtain ⟨i, -, hrows⟩ := Table.insert_eq_some h
  rw [hrows, List.map_append]
  exact List.prefix_append _ _

theorem rowids_update (p : α → Bool) (f : α → α) (t : Table α) :
    (t.update p f).rows.map Prod.fst = t.rows.map Prod.fst := by
  simp [Table.update, Function.comp_def]

theorem rowids_indexedInsert [DecidableEq κ] {triggers : IndexTriggers α κ} {a : α}
    {t t' : IndexedTable α κ} (h : t.insert triggers a = some t') :
    t.rows.map Prod.fst <+: t'.rows.map Prod.fst := by
  obtain ⟨i, -, hrows, -⟩ := IndexedTable.insert_eq_some triggers h
  rw [hrows, List.map_append]
  exact List.prefix_append _ _

theorem rowids_indexedUpdate [DecidableEq κ] (triggers : IndexTriggers α κ) (p : α → Bool)
    (f : α → α) (t : IndexedTable α κ) :
    (t.update triggers p f).rows.map Prod.fst = t.rows.map Prod.fst := by
  simp [Function.comp_def]

end Tables

theorem effect_grows {w : Write} {now : Text} {db db' : Database} (h : w.effect now db = some db') :
    db.Grows db' := by
  have hsame := Database.Grows.refl db
  have hentities (p : EntityRow → Bool) (f : EntityRow → EntityRow) :
      db.Grows (db.updateEntities p f) :=
    { hsame with entities := by rw [Database.updateEntities, rowids_indexedUpdate] }
  cases w with
  | prepare =>
      cases h
      exact hsame
  | insertEvent v =>
      obtain ⟨events, hinsert, hdb⟩ := Option.bind_eq_some_iff.mp h
      cases hdb
      exact { hsame with events := rowids_insert hinsert }
  | upsertPayload v =>
      simp only [Write.effect] at h
      split at h
      · cases h
        exact { hsame with payloads := by rw [rowids_update] }
      · obtain ⟨payloads, hinsert, hdb⟩ := Option.bind_eq_some_iff.mp h
        cases hdb
        exact { hsame with payloads := rowids_insert hinsert }
  | insertSummary v =>
      obtain ⟨summaries, hinsert, hdb⟩ := Option.bind_eq_some_iff.mp h
      cases hdb
      exact { hsame with summaries := rowids_indexedInsert hinsert }
  | markDuplicateEntities id agentId entityType name =>
      cases h
      exact hentities _ _
  | upsertEntity v =>
      simp only [Write.effect] at h
      split at h
      · cases h
        exact hentities _ _
      · obtain ⟨entities, hinsert, hdb⟩ := Option.bind_eq_some_iff.mp h
        cases hdb
        exact { hsame with entities := rowids_indexedInsert hinsert }
  | markEntityObsolete entityId supersededBy =>
      cases h
      exact hentities _ _
  | deactivateRelation fromEntity relation toEntity agentId =>
      cases h
      exact { hsame with relations := by rw [Database.updateRelations, rowids_indexedUpdate] }
  | insertRelation v =>
      obtain ⟨relations, hinsert, hdb⟩ := Option.bind_eq_some_iff.mp h
      cases hdb
      exact { hsame with relations := rowids_indexedInsert hinsert }
  | upsertCursor agentId sessionId cursor =>
      simp only [Write.effect] at h
      split at h <;> cases h <;>
      exact ⟨hsame.events, hsame.payloads, hsame.summaries, hsame.entities, hsame.relations⟩

theorem applied_grows {host : Host} {ws : List Write} {db db' : Database}
    (h : Session.Applied host.engine ws db db') : db.Grows db' := by
  refine h.invariant (P := fun _ => True) (I := db.Grows) ?_ (fun _ _ => trivial) (.refl db)
  intro n w d d' _ heffect hd
  rw [engine_effect] at heffect
  exact hd.trans (effect_grows heffect)

/-! ## The counts -/

/-- The counts of a database, of each the low 32 bits. -/
def Database.stats (db : Database) : MemoryStats where
  events := .ofNat db.events.rows.length
  payloads := .ofNat db.payloads.rows.length
  summaries := .ofNat db.summaries.rows.length
  entities := .ofNat db.entities.rows.length
  relations := .ofNat db.relations.rows.length

/-- The queries succeed together, or no counts are reported. -/
theorem runStatsQueries_cases (host : Host)
    (queries : List ((Database → ℕ) × (Int32 → MemoryStats → MemoryStats))) (stats : MemoryStats)
    (c : Connection) :
    (∃ clock, runStatsQueries host queries stats c =
      ({ succeeded := true
         stats := queries.foldl (fun stats query => query.2 (.ofNat (query.1 c.current)) stats) stats },
        { c with clock })) ∨
      (runStatsQueries host queries stats c).1.succeeded = false := by
  induction queries generalizing stats c with
  | nil => exact .inl ⟨c.clock, rfl⟩
  | cons query queries ih =>
      obtain ⟨count, assign⟩ := query
      unfold runStatsQueries select
      dsimp only
      cases (host.outcome c.clock).accepted with
      | true => exact ih _ _
      | false => exact .inr rfl

theorem stats_of_getStoreStats {host : Host} {c : Connection}
    (h : (getStoreStats host c).1.succeeded = true) :
    (getStoreStats host c).1.stats = c.current.stats := by
  unfold getStoreStats at h ⊢
  rcases runStatsQueries_cases host statsQueries {} c with ⟨clock, hrun⟩ | hfailed
  · rw [hrun]
    rfl
  · cases h.symm.trans hfailed

/-! ## Runs of the service -/

/-- The counts of a call that reports some. -/
def reportedStats? : ServiceOp.signature.Called → Option MemoryStats
  | ⟨.read .getStoreStats, result⟩ =>
      if MemoryStatsResult.succeeded result then some (MemoryStatsResult.stats result) else none
  | _ => none

/-- Each report is of a database, and these have grown from the first one to that of now. -/
def ReportsMatch (first : Database) (history : List ServiceOp.signature.Called) (w : World) : Prop :=
  ∃ dbs : List Database, (first :: dbs ++ [w.connection.current]).Pairwise Database.Grows ∧
    history.filterMap reportedStats? = dbs.map Database.stats

theorem pairwise_grown {dbs : List Database} {db db' : Database}
    (h : (dbs ++ [db]).Pairwise Database.Grows) (hgrows : db.Grows db') :
    (dbs ++ [db']).Pairwise Database.Grows ∧ (dbs ++ [db] ++ [db']).Pairwise Database.Grows := by
  have hlast := (List.pairwise_append.mp h).2.2
  simp only [List.mem_singleton, forall_eq] at hlast
  have hlast' : ∀ earlier ∈ dbs, earlier.Grows db' :=
    fun earlier hearlier => (hlast earlier hearlier).trans hgrows
  constructor
  · simpa [List.pairwise_append] using ⟨(List.pairwise_append.mp h).1, hlast'⟩
  · simpa [List.pairwise_append, or_imp, forall_and] using
      ⟨(List.pairwise_append.mp h).1, hgrows, hlast, hlast'⟩

section Runs

variable {server : MemoryHttpRoutes} {host : ServiceHost} {runtime : BuiltinMemoryRuntime}
  {w : World} {service : Service}

theorem perform_grows (host : ServiceHost) (runtime : BuiltinMemoryRuntime) (op : ServiceOp)
    (w : World) :
    w.connection.current.Grows (runtime.perform host op w).2.connection.current := by
  obtain ⟨ws, happlied, -⟩ := perform_applied host runtime op w
  exact applied_grows happlied

/-- A call that reports counts reports those of the store. -/
theorem reportedStats?_perform (host : ServiceHost) (runtime : BuiltinMemoryRuntime)
    (op : ServiceOp) (w : World) :
    reportedStats? ⟨op, (runtime.perform host op w).1⟩ = none ∨
      reportedStats? ⟨op, (runtime.perform host op w).1⟩ = some w.connection.current.stats := by
  cases op with
  | read call =>
      cases call with
      | getStoreStats =>
          have hreply : (runtime.perform host (.read .getStoreStats) w).1 =
              (getStoreStats host.toHost w.connection).1 := rfl
          rw [hreply]
          cases hresult : (getStoreStats host.toHost w.connection).1.succeeded with
          | false => exact .inl (if_neg (by simp [hresult]))
          | true => exact .inr ((if_pos hresult).trans (by rw [stats_of_getStoreStats hresult]))
      | _ => exact .inl rfl
  | _ => exact .inl rfl

theorem reportsMatch_step {first : Database} (history : List ServiceOp.signature.Called)
    (op : ServiceOp) (w : World) (h : ReportsMatch first history w) :
    ReportsMatch first (history ++ [⟨op, (runtime.perform host op w).1⟩])
      (runtime.perform host op w).2 := by
  obtain ⟨dbs, hgrows, hreports⟩ := h
  obtain ⟨hskipped, hreported⟩ :=
    pairwise_grown hgrows (perform_grows host runtime op w)
  rcases reportedStats?_perform host runtime op w with hnone | hsome
  · refine ⟨dbs, hskipped, ?_⟩
    rw [List.filterMap_append, List.filterMap_cons_none hnone, List.filterMap_nil, List.append_nil,
      hreports]
  · refine ⟨dbs ++ [w.connection.current], hreported, ?_⟩
    rw [List.filterMap_append, List.filterMap_cons_some hsome, List.filterMap_nil, hreports,
      List.map_append, List.map_singleton]

/-- A report counts the events of the start and those that have been saved before it. -/
def CountsEvents (rows : List (Rowid × EventRow)) (history : List ServiceOp.signature.Called) : Prop :=
  ∀ before (result : MemoryStatsResult) after,
    history = before ++ ⟨.read .getStoreStats, result⟩ :: after → result.succeeded = true →
      result.stats.events = .ofNat (rows.length + (savedEvents before).length)

theorem countsEvents_step {rows : List (Rowid × EventRow)}
    (history : List ServiceOp.signature.Called) (op : ServiceOp) (w : World)
    (hlog : LogMatches rows history w) (h : CountsEvents rows history) :
    CountsEvents rows (history ++ [⟨op, (runtime.perform host op w).1⟩]) := by
  intro before result after hsplit hsucceeded
  rcases List.eq_nil_or_concat after with rfl | ⟨rest, last, rfl⟩
  · obtain ⟨rfl, hlast⟩ := List.append_inj' hsplit rfl
    obtain ⟨hop, hreply⟩ := Sigma.mk.inj (List.cons.inj hlast).1
    subst hop
    cases hreply
    obtain ⟨appended, hrows, hvalues⟩ := hlog
    have hlength := congrArg List.length hvalues
    rw [List.length_map, List.length_map] at hlength
    have hstats : ((runtime.perform host (.read .getStoreStats) w).1 : MemoryStatsResult).stats =
        w.connection.current.stats := stats_of_getStoreStats hsucceeded
    rw [hstats, savedEvents, ← hlength]
    change Int32.ofNat w.connection.current.events.rows.length = _
    rw [hrows, List.length_append]
  · have hsplit' : history ++ [⟨op, (runtime.perform host op w).1⟩] =
        (before ++ ⟨.read .getStoreStats, result⟩ :: rest) ++ [last] := by
      simpa using hsplit
    exact h before result rest (List.append_inj' hsplit' rfl).1 hsucceeded

/-- Whatever requests are handled at the same time, the counts that are reported one after the other
are those of databases of which each holds all rows of the ones before it, and no event that has been
saved before is missed. -/
theorem stats_consistent (hservice : server.Reaches host runtime w service) :
    (∃ dbs : List Database,
      (w.connection.current :: dbs ++ [service.state.connection.current]).Pairwise Database.Grows ∧
        service.history.filterMap reportedStats? = dbs.map Database.stats) ∧
      CountsEvents w.connection.current.events.rows service.history := by
  have hprograms (program : ServiceM Response) (h : ∃ req, program = server.serve host runtime req) :
      program.All (LockOp.Satisfies (S := ServiceOp.signature) fun _ => True) :=
    (disciplined_of_served h).all fun _ _ _ => trivial
  constructor
  · refine Pool.history_invariant (I := ReportsMatch w.connection.current)
      (fun history op w _ => reportsMatch_step history op w) ?_ hprograms ?_ hservice
    · rintro history w w' ⟨entry, rfl⟩ h
      unfold ReportsMatch at h ⊢
      rw [cleanup_connection]
      exact h
    · exact ⟨[], by simp [Database.Grows.refl], rfl⟩
  · refine (Pool.history_invariant (I := fun history w' =>
      LogMatches w.connection.current.events.rows history w' ∧
        CountsEvents w.connection.current.events.rows history) ?_ ?_ hprograms ?_ hservice).2
    · rintro history op w _ ⟨hlog, hcounts⟩
      exact ⟨logMatches_step history op w hlog, countsEvents_step history op w hlog hcounts⟩
    · rintro history w w' ⟨entry, rfl⟩ ⟨⟨appended, hrows, hvalues⟩, hcounts⟩
      rw [← cleanup_connection entry w] at hrows
      exact ⟨⟨appended, hrows, hvalues⟩, hcounts⟩
    · refine ⟨⟨[], (List.append_nil _).symm, rfl⟩, ?_⟩
      rintro before result after hsplit
      simp at hsplit

def statsAsked : RoutedRequest where
  path := ascii "/v1/stats"
  method := ascii "GET"

/-- An event is saved between two reports. -/
theorem stats_consistent_twice :
    let runtime : BuiltinMemoryRuntime := { store := true }
    ∃ service, MemoryHttpRoutes.plain.Reaches .plain runtime .blank service ∧
      service.threads.length = 3 ∧ CountsEvents [] service.history ∧
      ∃ dbs : List Database,
        (.empty :: dbs ++ [service.state.connection.current]).Pairwise Database.Grows ∧
          service.history.filterMap reportedStats? = dbs.map Database.stats := by
  intro runtime
  obtain ⟨service, hservice, hprograms, -⟩ :=
    exists_served .plain .plain runtime [statsAsked, eventRequest, statsAsked] .blank
  obtain ⟨hreports, hcounts⟩ := stats_consistent hservice
  exact ⟨service, hservice, by simpa using congrArg List.length hprograms, hcounts, hreports⟩

end Runs

end AgentMemory
