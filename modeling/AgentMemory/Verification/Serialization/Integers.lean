import AgentMemory.Foundation.Narrowing
import AgentMemory.Verification.Context.Messages

/-! # Integers in JSON

An unsigned number is read as a `long long` before its range is tested, so the numbers just below
`2 ^ 64` pass the test as small negative ones. -/

namespace AgentMemory

open Foundation

/-- The member is an integer of at most 64 bits, stored as a signed or as an unsigned number. -/
def Json.HoldsInteger (j : Json) (key : String) (n : ℤ) : Prop :=
  (j.member? (ascii key) = some (.integer n) ∧ -2 ^ 63 ≤ n ∧ n < 2 ^ 63) ∨
    ∃ m : ℕ, j.member? (ascii key) = some (.unsigned m) ∧ (m : ℤ) = n ∧ n < 2 ^ 64

/-- The number as it is if it is an `int`, and else the default. -/
def intOr (n fallback : ℤ) : ℤ :=
  if isInt n then n else fallback

/-! ## Reading an unsigned number as a signed one -/

theorem bmod_unsigned_of_lt {n : ℤ} (hlo : 0 ≤ n) (hhi : n < 2 ^ 63) :
    n.bmod (2 ^ 64) = n :=
  bmod_two_pow_eq_self_iff.mpr ⟨by omega, hhi⟩

theorem bmod_unsigned_of_le {n : ℤ} (hlo : 2 ^ 63 ≤ n) (hhi : n < 2 ^ 64) :
    n.bmod (2 ^ 64) = n - 2 ^ 64 := by
  have hshift : (n - (2 ^ 64 : ℕ)).bmod (2 ^ 64) = n.bmod (2 ^ 64) := Int.sub_bmod_right n (2 ^ 64)
  rw [← hshift]
  exact bmod_two_pow_eq_self_iff.mpr ⟨by omega, by omega⟩

/-- What is returned for an integer. -/
theorem jsonInt_of_holdsInteger {j : Json} {key : String} {n : ℤ} (h : j.HoldsInteger key n)
    (fallback : ℤ) :
    jsonInt j key fallback =
      if n < 2 ^ 64 - 2 ^ 31 then intOr n fallback else n - 2 ^ 64 := by
  rcases h with ⟨hmember, -, hhi⟩ | ⟨m, hmember, rfl, hhi⟩
  · rw [if_pos (by omega)]
    simp only [jsonInt, hmember, intOr]
  · simp only [jsonInt, hmember, intOr, isInt_iff]
    by_cases hsmall : (m : ℤ) < 2 ^ 63
    · rw [bmod_unsigned_of_lt (by omega) hsmall, if_pos (show (m : ℤ) < 2 ^ 64 - 2 ^ 31 by omega)]
      split_ifs <;> omega
    · rw [bmod_unsigned_of_le (by omega) hhi]
      split_ifs <;> omega

/-! ## The integers that the decoders read -/

/-- An integer member with its default and what a decoder makes of an object. -/
structure IntegerField where
  key : String
  fallback : ℤ
  read : Json → ℤ

/-- The limits of a context are members of the metadata of its request. -/
def integerFields : List IntegerField :=
  [⟨"tokenBudget", 4096, fun j => (contextRequestFromJson j).tokenBudget.toInt⟩,
    ⟨"maxEvents", 100, fun j => (consolidationRequestFromJson j).maxEvents.toInt⟩,
    ⟨"limit", 10, fun j => (searchRequestFromJson j).limit.toInt⟩,
    ⟨"type", MemoryEventType.sessionStarted.value, fun j => (eventFromJson j).type.value⟩,
    ⟨"originalChars", 0, fun j => (payloadRefFromJson j).originalChars⟩,
    ⟨"processedEvents", 0, fun j => (consolidationResultFromJson j).processedEvents⟩,
    ⟨"savedSummaries", 0, fun j => (consolidationResultFromJson j).savedSummaries⟩,
    ⟨"savedEntities", 0, fun j => (consolidationResultFromJson j).savedEntities⟩,
    ⟨"savedRelations", 0, fun j => (consolidationResultFromJson j).savedRelations⟩,
    ⟨"events", 0, fun j => (statsFromJson j).events.toInt⟩,
    ⟨"payloads", 0, fun j => (statsFromJson j).payloads.toInt⟩,
    ⟨"summaries", 0, fun j => (statsFromJson j).summaries.toInt⟩,
    ⟨"entities", 0, fun j => (statsFromJson j).entities.toInt⟩,
    ⟨"relations", 0, fun j => (statsFromJson j).relations.toInt⟩,
    ⟨"message_limit", 20, fun metadata => metadataInt metadata "message_limit" 20⟩,
    ⟨"payload_limit", 20, fun metadata => metadataInt metadata "payload_limit" 20⟩,
    ⟨"long_term_limit", -1, fun metadata => metadataInt metadata "long_term_limit" (-1)⟩]

theorem toInt_ofInt_jsonInt {fallback : ℤ} (h : isInt fallback = true) (j : Json) (key : String) :
    (Int32.ofInt (jsonInt j key fallback)).toInt = jsonInt j key fallback := by
  have hint := isInt_iff.mp (isInt_jsonInt h j key)
  exact Int32.toInt_ofInt_of_le hint.1 hint.2

/-- No text stands for the number of a member that is a number. -/
theorem metadataInt_of_holdsInteger {j : Json} {key : String} {n : ℤ} (h : j.HoldsInteger key n)
    (fallback : ℤ) : metadataInt j key fallback = jsonInt j key fallback := by
  unfold metadataInt
  dsimp only
  split_ifs with hresult
  · rfl
  · have hfallback : jsonInt j key fallback = fallback := by simpa using hresult
    rcases h with ⟨hmember, -⟩ | ⟨m, hmember, -⟩
    · simp only [hmember, hfallback]
    · simp only [hmember, hfallback]

/-- All but the type of an event are what the helper returns. -/
theorem read_eq_jsonInt {field : IntegerField} (hfield : field ∈ integerFields)
    (htype : field.key ≠ "type") {j : Json} {n : ℤ} (h : j.HoldsInteger field.key n) :
    field.read j = jsonInt j field.key field.fallback := by
  simp only [integerFields, List.mem_cons, List.not_mem_nil, or_false] at hfield
  rcases hfield with rfl | rfl | rfl | rfl | rfl | rfl | rfl | rfl | rfl | rfl | rfl | rfl | rfl |
    rfl | rfl | rfl | rfl
  case inr.inr.inr.inl => exact absurd rfl htype
  all_goals
    first
    | rfl
    | exact toInt_ofInt_jsonInt (by decide) j _
    | exact metadataInt_of_holdsInteger h _

theorem Json.HoldsInteger.lt {j : Json} {key : String} {n : ℤ} (h : j.HoldsInteger key n) :
    n < 2 ^ 64 := by
  rcases h with ⟨-, -, hhi⟩ | ⟨-, -, -, hhi⟩
  · omega
  · exact hhi

theorem eq_eventType_of_key {field : IntegerField} (hfield : field ∈ integerFields)
    (htype : field.key = "type") :
    field = ⟨"type", MemoryEventType.sessionStarted.value,
      fun j => (eventFromJson j).type.value⟩ := by
  simp only [integerFields, List.mem_cons, List.not_mem_nil, or_false] at hfield
  rcases hfield with rfl | rfl | rfl | rfl | rfl | rfl | rfl | rfl | rfl | rfl | rfl | rfl | rfl |
    rfl | rfl | rfl | rfl
  case inr.inr.inr.inl => rfl
  all_goals simp at htype

/-- A negative number is none of the enumerators, and neither is a large one. -/
theorem eventFromJson_type {j : Json} {n : ℤ} (h : j.HoldsInteger "type" n) :
    (eventFromJson j).type.value = n ∨
      (eventFromJson j).type.value = MemoryEventType.sessionStarted.value := by
  have hread := jsonInt_of_holdsInteger h MemoryEventType.sessionStarted.value
  simp only [eventFromJson, eventTypeFromJson]
  split_ifs with henumerator
  · simp only [MemoryEventType.isEnumerator, Bool.and_eq_true, decide_eq_true_eq] at henumerator
    dsimp only
    rw [hread, intOr] at henumerator ⊢
    have hlt := h.lt
    split_ifs at henumerator ⊢
    · exact .inl rfl
    · exact .inr rfl
    · omega
  · exact .inr rfl

/-- Every decoded integer is the number sent or the default, unless the number is within
`2 ^ 31` of `2 ^ 64`. -/
theorem jsonInt_exact_iff {j : Json} {key : String} {n : ℤ} (h : j.HoldsInteger key n) :
    (∀ fallback, jsonInt j key fallback = intOr n fallback ↔
      n < 2 ^ 64 - 2 ^ 31 ∨ fallback = n - 2 ^ 64) ∧
    ∀ field ∈ integerFields, field.key = key →
      ((field.read j = n ∨ field.read j = field.fallback) ↔
        n < 2 ^ 64 - 2 ^ 31 ∨ field.fallback = n - 2 ^ 64 ∨ key = "type") := by
  constructor
  · intro fallback
    simp only [jsonInt_of_holdsInteger h, intOr, isInt_iff]
    split_ifs <;> omega
  · rintro field hfield rfl
    by_cases htype : field.key = "type"
    · obtain rfl := eq_eventType_of_key hfield htype
      exact iff_of_true (eventFromJson_type h) (.inr (.inr rfl))
    · simp only [read_eq_jsonInt hfield htype h, jsonInt_of_holdsInteger h, intOr, isInt_iff,
        htype, or_false]
      split_ifs <;> omega

theorem jsonInt_exact_limit :
    (∀ fallback, jsonInt (.object [(ascii "limit", .unsigned 25)]) "limit" fallback =
        intOr 25 fallback ↔ (25 : ℤ) < 2 ^ 64 - 2 ^ 31 ∨ fallback = 25 - 2 ^ 64) ∧
      ∀ field ∈ integerFields, field.key = "limit" →
        ((field.read (.object [(ascii "limit", .unsigned 25)]) = 25 ∨
            field.read (.object [(ascii "limit", .unsigned 25)]) = field.fallback) ↔
          (25 : ℤ) < 2 ^ 64 - 2 ^ 31 ∨ field.fallback = 25 - 2 ^ 64 ∨ "limit" = "type") :=
  jsonInt_exact_iff (.inr ⟨25, rfl, rfl, by norm_num⟩)

/-- The largest unsigned number is decoded as a limit of minus one. -/
theorem jsonInt_not_exact :
    ∃ j : Json, j.HoldsInteger "limit" (2 ^ 64 - 1) ∧ isInt (2 ^ 64 - 1) = false ∧
      jsonInt j "limit" 10 = -1 ∧ (searchRequestFromJson j).limit = -1 := by
  refine ⟨.object [(ascii "limit", .unsigned (2 ^ 64 - 1))], .inr ⟨2 ^ 64 - 1, rfl, ?_, ?_⟩, ?_, ?_,
    ?_⟩
  all_goals decide +kernel

end AgentMemory
