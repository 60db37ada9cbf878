import AgentMemory.Foundation.Words
import AgentMemory.Model.Context
import AgentMemory.Verification.Payloads.Names

/-! # Matching of payloads

The fields of a payload are searched as one text, joined by newlines. A term has no newline. -/

namespace AgentMemory

open Foundation

/-- The fields that `ContainsTerm` joins. -/
def searchedFields (payload : MemoryPayloadRef) : List Text :=
  [payload.uri, payload.toolName, payload.summary, payload.contentType]

/-- The term occurs in the field up to ASCII case. -/
def OccursIn (term field : Text) : Prop :=
  ∃ s, s <:+: field ∧ toLower s = toLower term

/-- A payload is matched field by field. -/
structure MatchesByField (payload : MemoryPayloadRef) (query : Text) : Prop where
  matches_iff : matchesPayloadQuery payload (parsePayloadQuery query) = true ↔
    ∀ term ∈ words isSpace query, ∃ field ∈ searchedFields payload, OccursIn term field
  inside : ∀ term ∈ parsePayloadQuery query, ∀ front back,
    toLower (payload.uri ++ ascii "\n" ++ payload.toolName ++ ascii "\n" ++ payload.summary ++
      ascii "\n" ++ payload.contentType) = front ++ term ++ back →
    InsideField 0x0A ((searchedFields payload).map toLower) front term back
  sameTerms : ∀ terms, (∀ term, term ∈ terms ↔ term ∈ parsePayloadQuery query) →
    matchesPayloadQuery payload terms = matchesPayloadQuery payload (parsePayloadQuery query)

/-! ## Terms -/

section Terms

variable {s t query : Text}

theorem toLower_append (s t : Text) : toLower (s ++ t) = toLower s ++ toLower t :=
  List.map_append

theorem newline_notMem_toLower (hs : 0x0A ∉ s) : 0x0A ∉ toLower s := by
  intro h
  obtain ⟨b, hb, hlower⟩ := List.mem_map.mp h
  split at hlower
  · next hupper =>
    have hnat := congrArg UInt8.toNat hlower
    simp only [isUpper, Bool.and_eq_true, decide_eq_true_eq, UInt8.le_iff_toNat_le] at hupper
    simp only [UInt8.toNat_add, UInt8.reduceToNat] at hnat hupper
    omega
  · rw [hlower] at hb
    exact hs hb

theorem parsePayloadQuery_eq (query : Text) :
    parsePayloadQuery query = (words isSpace query).map toLower :=
  rfl

theorem newline_notMem_term {term : Text} (h : term ∈ parsePayloadQuery query) :
    0x0A ∉ term := by
  obtain ⟨word, hword, rfl⟩ := List.mem_map.mp h
  refine newline_notMem_toLower fun hnewline => ?_
  have hspace : isSpace 0x0A = false := of_mem_words hword 0x0A hnewline
  cases hspace

/-- An occurrence in lower case comes from one in the text itself. -/
theorem occursIn_iff : OccursIn t s ↔ toLower t <:+: toLower s := by
  constructor
  · rintro ⟨u, hu, hlower⟩
    rw [← hlower]
    exact hu.map _
  · rintro ⟨front, back, h⟩
    obtain ⟨pre, post, hs, hpre, -⟩ := List.map_eq_append_iff.mp h.symm
    obtain ⟨first, u, rfl, -, hu⟩ := List.map_eq_append_iff.mp hpre
    exact ⟨u, ⟨first, post, hs.symm⟩, hu⟩

end Terms

/-! ## The joined fields -/

section Joined

variable {payload : MemoryPayloadRef}

theorem toLower_haystack (payload : MemoryPayloadRef) :
    toLower (payload.uri ++ ascii "\n" ++ payload.toolName ++ ascii "\n" ++ payload.summary ++
      ascii "\n" ++ payload.contentType) =
      [0x0A].intercalate ((searchedFields payload).map toLower) := by
  have hnewline : toLower (ascii "\n") = [0x0A] := by
    decide +kernel
  simp only [toLower_append, hnewline, searchedFields, List.map_cons, List.map_nil,
    List.intercalate_cons_cons, List.intercalate_singleton, List.append_assoc]

theorem searchedFields_ne_nil : (searchedFields payload).map toLower ≠ [] := by
  simp [searchedFields]

theorem contains_haystack_iff {term : Text} (hterm : 0x0A ∉ toLower term) :
    contains (toLower (payload.uri ++ ascii "\n" ++ payload.toolName ++ ascii "\n" ++
      payload.summary ++ ascii "\n" ++ payload.contentType)) (toLower term) = true ↔
      ∃ field ∈ searchedFields payload, OccursIn term field := by
  calc
    _ ↔ toLower term <:+: [0x0A].intercalate ((searchedFields payload).map toLower) := by
      rw [toLower_haystack]
      exact ⟨infix_of_contains, contains_of_infix⟩
    _ ↔ ∃ field ∈ (searchedFields payload).map toLower, toLower term <:+: field :=
      infix_intercalate_iff searchedFields_ne_nil hterm
    _ ↔ ∃ field ∈ searchedFields payload, toLower term <:+: toLower field := by
      simp only [List.mem_map, exists_exists_and_eq_and]
    _ ↔ ∃ field ∈ searchedFields payload, OccursIn term field := by
      simp only [occursIn_iff]

end Joined

theorem matchesPayloadQuery_matchesByField (payload : MemoryPayloadRef) (query : Text) :
    MatchesByField payload query := by
  refine ⟨?_, ?_, ?_⟩
  · rw [matchesPayloadQuery, parsePayloadQuery_eq, List.all_map, List.all_eq_true]
    refine forall₂_congr fun term hterm => ?_
    have hnewline : 0x0A ∉ toLower term :=
      newline_notMem_term (List.mem_map_of_mem hterm)
    exact contains_haystack_iff hnewline
  · intro term hterm front back h
    rw [toLower_haystack] at h
    exact insideField_of_intercalate searchedFields_ne_nil (newline_notMem_term hterm) h
  · intro terms hterms
    rw [Bool.eq_iff_iff, matchesPayloadQuery, matchesPayloadQuery, List.all_eq_true,
      List.all_eq_true]
    exact forall_congr' fun term => imp_congr_left (hterms term)

-- `BC` would match over the end of the first field
example : ["ab", "bc"].map (fun q => matchesPayloadQuery
    { uri := ascii "xAB", toolName := ascii "Cd" } (parsePayloadQuery (ascii q))) =
    [true, false] := by
  decide +kernel

end AgentMemory
