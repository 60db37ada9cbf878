import AgentMemory.Model.Consolidation

/-! # Extraction by rules

Which topics and preferences a batch gives is a matter of which messages occur in it. The loop sees
each topic once and the preference once, whatever the order of the messages. -/

namespace AgentMemory

/-! ## What a list of events mentions -/

/-- A message of the list is about the topic. -/
def Mentions (events : List MemoryEvent) (topic : Text) : Prop :=
  topic ≠ [] ∧ ∃ event ∈ events, event.type = .messageAppended ∧ detectTopic event.content = topic

/-- A message of the user in the list carries a preference signal. -/
def Prefers (events : List MemoryEvent) : Prop :=
  ∃ event ∈ events, event.type = .messageAppended ∧ event.role = ascii "user" ∧
    containsPreferenceSignal event.content = true

def topicSummary (topic : Text) : Text :=
  ascii "Discussed topic: " ++ topic

/-- The event that stands for all those of an agent where only the agent matters. -/
def eventOf (agentId : Text) : MemoryEvent :=
  { agentId }

/-- What the rules make of topics and of a preference. -/
structure Collected (sourceRefs : List Text) (agentId : Text) (mentions : Text → Prop)
    (prefers : Prop) (update : LongTermMemoryUpdate) : Prop where
  summaries_nodup : update.topicSummaries.Nodup
  mem_summaries : ∀ s, s ∈ update.topicSummaries ↔ ∃ topic, mentions topic ∧ s = topicSummary topic
  ids_nodup : (update.entities.map (·.id)).Nodup
  mem_entities : ∀ entity, entity ∈ update.entities ↔
    (∃ topic, mentions topic ∧ topic ≠ ascii "memory_system" ∧
      entity = topicEntity (eventOf agentId) topic (topicSummary topic) sourceRefs) ∨
    (prefers ∧ entity = preferenceEntity (eventOf agentId) sourceRefs)
  relation : prefers → update.relations = [preferenceRelation (eventOf agentId) sourceRefs]
  noRelation : ¬prefers → update.relations = []
  profileSummaries : update.profileSummaries = []

/-! ## The loop -/

/-- The loop's variables after some events. -/
structure RuleState.Collects (sourceRefs : List Text) (agentId : Text) (mentions : Text → Prop)
    (prefers : Prop) (state : RuleState) : Prop where
  seen : ∀ topic, topic ∈ state.seenTopics ↔ mentions topic
  preference : state.hasPreference = true ↔ prefers
  update : Collected sourceRefs agentId mentions prefers state.update

section Loop

variable {sourceRefs : List Text} {agentId : Text} {mentions : Text → Prop} {prefers : Prop}
  {state : RuleState} {event : MemoryEvent}

theorem topicSummary_inj {topic topic' : Text} :
    topicSummary topic = topicSummary topic' ↔ topic = topic' :=
  List.append_right_inj _

theorem topicEntity_id_ne (topic : Text) :
    ascii "entity:topic." ++ topic ≠ ascii "entity:preference.user" := by
  intro h
  have htake := congrArg (List.take 13) h
  rw [List.take_append_of_le_length (by decide)] at htake
  exact absurd htake (by decide)

theorem Collected.congr {update : LongTermMemoryUpdate} {mentions' : Text → Prop} {prefers' : Prop}
    (h : Collected sourceRefs agentId mentions prefers update)
    (hmentions : ∀ topic, mentions topic ↔ mentions' topic) (hprefers : prefers ↔ prefers') :
    Collected sourceRefs agentId mentions' prefers' update := by
  obtain rfl : mentions = mentions' := funext fun topic => propext (hmentions topic)
  obtain rfl : prefers = prefers' := propext hprefers
  exact h

/-- The entity of a topic that is new has an id of its own. -/
theorem Collected.topicId_notMem {update : LongTermMemoryUpdate} {topic : Text}
    (h : Collected sourceRefs agentId mentions prefers update) (hnew : ¬mentions topic) :
    ascii "entity:topic." ++ topic ∉ update.entities.map (·.id) := by
  intro hid
  obtain ⟨entity, hentity, hsame⟩ := List.mem_map.mp hid
  rcases (h.mem_entities entity).mp hentity with ⟨t, ht, -, rfl⟩ | ⟨-, rfl⟩
  · exact hnew (List.append_cancel_left hsame ▸ ht)
  · exact topicEntity_id_ne topic hsame.symm

theorem Collected.addTopic {update : LongTermMemoryUpdate} {topic : Text}
    (h : Collected sourceRefs agentId mentions prefers update) (hnew : ¬mentions topic) :
    Collected sourceRefs agentId (fun t => mentions t ∨ t = topic) prefers
      { update with
        topicSummaries := update.topicSummaries ++ [topicSummary topic]
        entities := update.entities ++ if topic = ascii "memory_system" then []
          else [topicEntity (eventOf agentId) topic (topicSummary topic) sourceRefs] } where
  summaries_nodup := by
    refine List.nodup_append.mpr ⟨h.summaries_nodup, by simp, fun s hs s' hs' hss' => hnew ?_⟩
    obtain ⟨t, ht, rfl⟩ := (h.mem_summaries s).mp hs
    have htopic := topicSummary_inj.mp (hss'.trans (List.mem_singleton.mp hs'))
    exact htopic ▸ ht
  mem_summaries s := by
    simp only [List.mem_append, h.mem_summaries, List.mem_singleton, or_and_right, exists_or,
      exists_eq_left]
  ids_nodup := by
    split
    · simpa using h.ids_nodup
    · rw [List.map_append]
      refine List.nodup_append.mpr ⟨h.ids_nodup, by simp, fun id hid id' hid' hsame => ?_⟩
      rw [hsame, List.mem_singleton.mp hid'] at hid
      exact h.topicId_notMem hnew hid
  mem_entities entity := by
    have hcases : (entity ∈ if topic = ascii "memory_system" then []
          else [topicEntity (eventOf agentId) topic (topicSummary topic) sourceRefs]) ↔
        topic ≠ ascii "memory_system" ∧
          entity = topicEntity (eventOf agentId) topic (topicSummary topic) sourceRefs := by
      split <;> simp [*]
    simp only [List.mem_append, h.mem_entities, hcases, or_and_right, exists_or, exists_eq_left]
    exact or_right_comm
  relation := h.relation
  noRelation := h.noRelation
  profileSummaries := h.profileSummaries

/-- The first preference. -/
theorem Collected.addPreference {update : LongTermMemoryUpdate}
    (h : Collected sourceRefs agentId mentions prefers update) (hnew : ¬prefers) :
    Collected sourceRefs agentId mentions True
      { update with
        entities := update.entities ++ [preferenceEntity (eventOf agentId) sourceRefs]
        relations := update.relations ++ [preferenceRelation (eventOf agentId) sourceRefs] } where
  summaries_nodup := h.summaries_nodup
  mem_summaries := h.mem_summaries
  ids_nodup := by
    rw [List.map_append]
    refine List.nodup_append.mpr ⟨h.ids_nodup, by simp, fun id hid id' hid' hsame => ?_⟩
    obtain ⟨entity, hentity, rfl⟩ := List.mem_map.mp hid
    rcases (h.mem_entities entity).mp hentity with ⟨t, -, -, rfl⟩ | ⟨hprefers, -⟩
    · exact topicEntity_id_ne t (hsame.trans (List.mem_singleton.mp hid'))
    · exact hnew hprefers
  mem_entities entity := by
    simp only [List.mem_append, h.mem_entities, List.mem_singleton, hnew, false_and, or_false,
      true_and]
  relation _ := by rw [h.noRelation hnew, List.nil_append]
  noRelation hnot := absurd trivial hnot
  profileSummaries := h.profileSummaries

theorem ruleTopic_collects (h : state.Collects sourceRefs agentId mentions prefers)
    (hagent : event.agentId = agentId) :
    (ruleTopic sourceRefs event state).Collects sourceRefs agentId
      (fun topic => mentions topic ∨ (topic ≠ [] ∧ detectTopic event.content = topic)) prefers := by
  have hcondition : (!(detectTopic event.content).isEmpty &&
      !state.seenTopics.contains (detectTopic event.content)) = true ↔
        detectTopic event.content ≠ [] ∧ ¬mentions (detectTopic event.content) := by
    simp [h.seen]
  unfold ruleTopic
  by_cases hnew : detectTopic event.content ≠ [] ∧ ¬mentions (detectTopic event.content)
  · have hmentions : ∀ topic, (mentions topic ∨ topic = detectTopic event.content) ↔
        (mentions topic ∨ (topic ≠ [] ∧ detectTopic event.content = topic)) := by
      intro topic
      refine or_congr_right ⟨?_, fun hfound => hfound.2.symm⟩
      rintro rfl
      exact ⟨hnew.1, rfl⟩
    rw [if_pos (hcondition.mpr hnew)]
    refine ⟨fun topic => ?_, h.preference, ?_⟩
    · rw [← hmentions, List.mem_cons, h.seen, or_comm]
    · have hentity : topicEntity (eventOf agentId) = topicEntity event := by
        funext topic summary refs
        simp [topicEntity, eventOf, hagent]
      have hadded := h.update.addTopic hnew.2
      rw [hentity] at hadded
      exact hadded.congr hmentions Iff.rfl
  · have hmentions : ∀ topic, mentions topic ↔
        (mentions topic ∨ (topic ≠ [] ∧ detectTopic event.content = topic)) := by
      intro topic
      refine ⟨.inl, ?_⟩
      rintro (hmention | ⟨hne, rfl⟩)
      · exact hmention
      · by_contra hnot
        exact hnew ⟨hne, hnot⟩
    rw [if_neg (mt hcondition.mp hnew)]
    exact ⟨fun topic => (h.seen topic).trans (hmentions topic), h.preference,
      h.update.congr hmentions Iff.rfl⟩

theorem rulePreference_collects (h : state.Collects sourceRefs agentId mentions prefers)
    (hagent : event.agentId = agentId) :
    (rulePreference sourceRefs event state).Collects sourceRefs agentId mentions
      (prefers ∨ (event.role = ascii "user" ∧ containsPreferenceSignal event.content = true)) := by
  have hcondition : (!state.hasPreference && event.role == ascii "user" &&
      containsPreferenceSignal event.content) = true ↔
        ¬prefers ∧ event.role = ascii "user" ∧ containsPreferenceSignal event.content = true := by
    rw [Bool.and_eq_true, Bool.and_eq_true, Bool.not_eq_true', beq_iff_eq, ← h.preference,
      Bool.not_eq_true, and_assoc]
  unfold rulePreference
  by_cases hnew : ¬prefers ∧ event.role = ascii "user" ∧
      containsPreferenceSignal event.content = true
  · rw [if_pos (hcondition.mpr hnew)]
    have hentity : preferenceEntity (eventOf agentId) = preferenceEntity event := by
      funext refs
      simp [preferenceEntity, eventOf, hagent]
    have hrelation : preferenceRelation (eventOf agentId) = preferenceRelation event := by
      funext refs
      simp [preferenceRelation, eventOf, hagent]
    have hadded := h.update.addPreference hnew.1
    rw [hentity, hrelation] at hadded
    exact ⟨h.seen, iff_of_true rfl (.inr hnew.2),
      hadded.congr (fun _ => Iff.rfl) (iff_of_true trivial (.inr hnew.2))⟩
  · have hprefers : prefers ↔ prefers ∨ (event.role = ascii "user" ∧
        containsPreferenceSignal event.content = true) := by
      refine ⟨.inl, ?_⟩
      rintro (hprefers | hsignal)
      · exact hprefers
      · by_contra hnot
        exact hnew ⟨hnot, hsignal⟩
    rw [if_neg (mt hcondition.mp hnew)]
    exact ⟨h.seen, h.preference.trans hprefers, h.update.congr (fun _ => Iff.rfl) hprefers⟩

end Loop

/-! ## The processor -/

theorem mentions_append_singleton (events : List MemoryEvent) (event : MemoryEvent) (topic : Text) :
    Mentions (events ++ [event]) topic ↔ Mentions events topic ∨
      (event.type = .messageAppended ∧ topic ≠ [] ∧ detectTopic event.content = topic) := by
  simp only [Mentions, List.mem_append, List.mem_singleton, or_and_right, exists_or, exists_eq_left,
    and_or_left]
  exact or_congr_right and_left_comm

theorem prefers_append_singleton (events : List MemoryEvent) (event : MemoryEvent) :
    Prefers (events ++ [event]) ↔ Prefers events ∨ (event.type = .messageAppended ∧
      event.role = ascii "user" ∧ containsPreferenceSignal event.content = true) := by
  simp only [Prefers, List.mem_append, List.mem_singleton, or_and_right, exists_or, exists_eq_left]

/-- The body of the loop. -/
def ruleStep (sourceRefs : List Text) (state : RuleState) (event : MemoryEvent) : RuleState :=
  if event.type = .messageAppended then
    rulePreference sourceRefs event (ruleTopic sourceRefs event state)
  else state

theorem foldl_ruleStep_collects (sourceRefs : List Text) {agentId : Text}
    {events : List MemoryEvent} (hagent : ∀ event ∈ events, event.agentId = agentId) :
    (events.foldl (ruleStep sourceRefs) {}).Collects sourceRefs agentId (Mentions events)
      (Prefers events) := by
  induction events using List.reverseRecOn with
  | nil =>
    refine ⟨by simp [Mentions], by simp [Prefers], ?_⟩
    constructor <;> simp [Mentions, Prefers]
  | append_singleton events event ih =>
    have hevents := ih fun e he => hagent e (List.mem_append_left _ he)
    have hevent := hagent event (by simp)
    obtain ⟨hmentions, hprefers⟩ : _ ∧ _ :=
      ⟨mentions_append_singleton events event, prefers_append_singleton events event⟩
    rw [List.foldl_concat, ruleStep]
    by_cases htype : event.type = .messageAppended
    · rw [if_pos htype]
      have hstep := rulePreference_collects (ruleTopic_collects hevents hevent) hevent
      simp only [htype, true_and] at hmentions hprefers
      exact ⟨fun topic => (hstep.seen topic).trans (hmentions topic).symm,
        hstep.preference.trans hprefers.symm,
        hstep.update.congr (fun topic => (hmentions topic).symm) hprefers.symm⟩
    · rw [if_neg htype]
      simp only [htype, false_and, or_false] at hmentions hprefers
      exact ⟨fun topic => (hevents.seen topic).trans (hmentions topic).symm,
        hevents.preference.trans hprefers.symm,
        hevents.update.congr (fun topic => (hmentions topic).symm) hprefers.symm⟩

theorem ruleBasedProcess_collected {batch : LongTermMemoryBatch} {agentId : Text}
    (hagent : ∀ event ∈ batch.events, event.agentId = agentId) :
    Collected batch.sourceRefs agentId (Mentions batch.events) (Prefers batch.events)
      (ruleBasedProcess batch) :=
  (foldl_ruleStep_collects batch.sourceRefs hagent).update

/-- The same items, in whatever order. -/
structure SameItems (update update' : LongTermMemoryUpdate) : Prop where
  topicSummaries : update.topicSummaries.Perm update'.topicSummaries
  profileSummaries : update.profileSummaries.Perm update'.profileSummaries
  entities : update.entities.Perm update'.entities
  relations : update.relations.Perm update'.relations

theorem Collected.sameItems {sourceRefs : List Text} {agentId : Text} {mentions : Text → Prop}
    {prefers : Prop} {update update' : LongTermMemoryUpdate}
    (h : Collected sourceRefs agentId mentions prefers update)
    (h' : Collected sourceRefs agentId mentions prefers update') : SameItems update update' where
  topicSummaries := (List.perm_ext_iff_of_nodup h.summaries_nodup h'.summaries_nodup).mpr fun s =>
    (h.mem_summaries s).trans (h'.mem_summaries s).symm
  profileSummaries := by rw [h.profileSummaries, h'.profileSummaries]
  entities := (List.perm_ext_iff_of_nodup (.of_map _ h.ids_nodup) (.of_map _ h'.ids_nodup)).mpr
    fun entity => (h.mem_entities entity).trans (h'.mem_entities entity).symm
  relations := by
    by_cases hprefers : prefers
    · rw [h.relation hprefers, h'.relation hprefers]
    · rw [h.noRelation hprefers, h'.noRelation hprefers]

/-- What is extracted is given by the messages that occur, each topic and the preference once, and
another batch of the same events has the same items. -/
theorem ruleBasedProcess_extracts {batch : LongTermMemoryBatch} {agentId : Text}
    (hagent : ∀ event ∈ batch.events, event.agentId = agentId) :
    Collected batch.sourceRefs agentId (Mentions batch.events) (Prefers batch.events)
      (ruleBasedProcess batch) ∧
    ∀ batch' : LongTermMemoryBatch, batch'.sourceRefs = batch.sourceRefs →
      (∀ event, event ∈ batch'.events ↔ event ∈ batch.events) →
        SameItems (ruleBasedProcess batch') (ruleBasedProcess batch) := by
  have hcollected := ruleBasedProcess_collected hagent
  refine ⟨hcollected, fun batch' hrefs hevents => ?_⟩
  have hcollected' := ruleBasedProcess_collected fun event he => hagent event ((hevents event).mp he)
  rw [hrefs] at hcollected'
  refine (hcollected'.congr (fun topic => ?_) ?_).sameItems hcollected
  · simp only [Mentions, hevents]
  · simp only [Prefers, hevents]

/-- A preference about code, said twice. -/
def preferenceBatch : LongTermMemoryBatch where
  events := [{ agentId := ascii "alice", role := ascii "user", content := ascii "I prefer code" },
    { agentId := ascii "alice", role := ascii "user", content := ascii "I prefer code" }]
  sourceRefs := [ascii "session://s1#event:1"]

theorem ruleBasedProcess_extracts_preferenceBatch :
    Collected preferenceBatch.sourceRefs (ascii "alice") (Mentions preferenceBatch.events)
      (Prefers preferenceBatch.events) (ruleBasedProcess preferenceBatch) :=
  (ruleBasedProcess_extracts (by simp [preferenceBatch])).1

end AgentMemory
