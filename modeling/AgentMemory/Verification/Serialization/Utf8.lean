import AgentMemory.Verification.Serialization.Codec
import AgentMemory.Verification.Serialization.Dump

/-! # Which values can be serialised

`dump` throws just when a string of the value, or a key, is not valid UTF-8. -/

namespace AgentMemory

open Json Foundation

/-! ## Valid texts -/

/-- The decoder ends where it started, between two characters. -/
def ValidUtf8 (s : Text) : Prop :=
  s.foldlM decode Utf8State.accept = some .accept

instance (s : Text) : Decidable (ValidUtf8 s) :=
  inferInstanceAs (Decidable (_ = _))

/-- An ASCII character is read between two characters only. -/
theorem decode_of_ascii {state next : Utf8State} {b : UInt8} (hb : b < 0x80)
    (h : decode state b = some next) : state = .accept ∧ next = .accept := by
  have htail : ∀ low high, 0x80 ≤ low → between low high b = false := by
    intro low high hlow
    simp only [between, Bool.and_eq_false_iff, decide_eq_false_iff_not]
    exact .inl fun hle => absurd (UInt8.lt_of_lt_of_le hb (UInt8.le_trans hlow hle))
      (UInt8.lt_irrefl b)
  cases state with
  | accept =>
    simp only [decode, hb, if_true, Option.some.injEq] at h
    exact ⟨rfl, h.symm⟩
  | _ => simp (disch := decide) [decode, htail] at h

theorem decode_accept_of_ascii {b : UInt8} (hb : b < 0x80) : decode .accept b = some .accept := by
  simp [decode, hb]

theorem ValidUtf8.append_iff {s : Text} (hs : ValidUtf8 s) (t : Text) :
    ValidUtf8 (s ++ t) ↔ ValidUtf8 t := by
  unfold ValidUtf8 at hs ⊢
  rw [List.foldlM_append, hs]
  rfl

/-- At an ASCII character a text falls into two that are valid by themselves. -/
theorem validUtf8_append_cons {s t : Text} {b : UInt8} (hb : b < 0x80) :
    ValidUtf8 (s ++ b :: t) ↔ ValidUtf8 s ∧ ValidUtf8 t := by
  constructor
  · intro h
    unfold ValidUtf8 at h
    rw [List.foldlM_append] at h
    obtain ⟨state, hs, h⟩ := Option.bind_eq_some_iff.mp h
    rw [List.foldlM_cons] at h
    obtain ⟨next, hdecode, ht⟩ := Option.bind_eq_some_iff.mp h
    obtain ⟨rfl, rfl⟩ := decode_of_ascii hb hdecode
    exact ⟨hs, ht⟩
  · rintro ⟨hs, ht⟩
    rw [hs.append_iff]
    unfold ValidUtf8 at ht ⊢
    rw [List.foldlM_cons, decode_accept_of_ascii hb]
    exact ht

theorem validUtf8_of_ascii {s : Text} (h : ∀ b ∈ s, b < 0x80) : ValidUtf8 s := by
  induction s with
  | nil => rfl
  | cons b rest ih =>
    have hrest := ih fun c hc => h c (List.mem_cons_of_mem _ hc)
    exact (validUtf8_append_cons (s := []) (h b List.mem_cons_self)).mpr ⟨rfl, hrest⟩

/-- The characters of a literal. -/
theorem lt_of_mem_ascii (chars : List Char)
    (h : chars.all (fun c => 0 < c.toNat && c.toNat < 128) = true) :
    ∀ b ∈ ascii (String.ofList chars), b < 0x80 :=
  fun b hb => (mem_ascii chars h b hb).2

theorem validUtf8_ascii (chars : List Char)
    (h : chars.all (fun c => 0 < c.toNat && c.toNat < 128) = true) :
    ValidUtf8 (ascii (String.ofList chars)) :=
  validUtf8_of_ascii (lt_of_mem_ascii chars h)

theorem validUtf8_ascii_append {s : String} (hs : ValidUtf8 (ascii s)) (chars : List Char)
    (h : chars.all (fun c => 0 < c.toNat && c.toNat < 128) = true) :
    ValidUtf8 (ascii (s ++ String.ofList chars)) := by
  have happend : ascii (s ++ String.ofList chars) = ascii s ++ ascii (String.ofList chars) := by
    simp [ascii]
  rw [happend, hs.append_iff]
  exact validUtf8_ascii chars h

theorem validUtf8_append_ascii {sep s t : Text} (hne : sep ≠ []) (hsep : ∀ b ∈ sep, b < 0x80) :
    ValidUtf8 (s ++ (sep ++ t)) ↔ ValidUtf8 s ∧ ValidUtf8 t := by
  cases sep with
  | nil => exact absurd rfl hne
  | cons b rest =>
    have hrest := validUtf8_of_ascii fun c hc => hsep c (List.mem_cons_of_mem _ hc)
    rw [List.cons_append, validUtf8_append_cons (hsep b List.mem_cons_self), hrest.append_iff]

theorem validUtf8_decimal (z : ℤ) : ValidUtf8 (decimal z) := by
  have hdigits : ∀ b ∈ decimalNat z.natAbs, b < 0x80 :=
    fun b hb => (digit_ascii (decimalNat_digits _ b hb)).2
  refine validUtf8_of_ascii fun b hb => ?_
  unfold decimal at hb
  split at hb
  · rcases List.mem_cons.mp hb with rfl | hb
    · decide
    · exact hdigits b hb
  · exact hdigits b hb

/-! ## Strings -/

theorem dumpEscaped_ok_iff (s : Text) (state : Utf8State) :
    (∃ text, dumpEscaped state s = .ok text) ↔ s.foldlM decode state = some .accept := by
  induction s generalizing state with
  | nil =>
    unfold dumpEscaped
    by_cases h : state = .accept
    · simp [h]
    · simp [h]
  | cons b rest ih =>
    rw [List.foldlM_cons]
    unfold dumpEscaped
    cases hdecode : decode state b with
    | none => simp
    | some next =>
      dsimp only
      rw [except_map_ok_iff, ih]
      rfl

theorem dumpString_ok_iff (s : Text) : (∃ text, dumpString s = .ok text) ↔ ValidUtf8 s := by
  rw [ValidUtf8, ← dumpEscaped_ok_iff]
  exact except_map_ok_iff

/-! ## Values -/

/-- A value that `dump` does not throw on. -/
def Json.Serialises (json : Json) : Prop :=
  ∃ text, json.dump = .ok text

theorem serialises_string (s : Text) : (Json.string s).Serialises ↔ ValidUtf8 s :=
  dumpString_ok_iff s

theorem dumpElements_ok_iff (elements : List Json) :
    (∃ text, dumpElements elements = .ok text) ↔ ∀ x ∈ elements, x.Serialises := by
  induction elements with
  | nil => exact iff_of_true ⟨_, rfl⟩ (by simp)
  | cons x rest ih =>
    rw [List.forall_mem_cons, ← ih]
    constructor
    · rintro ⟨text, h⟩
      simp only [dumpElements] at h
      obtain ⟨first, hfirst, h⟩ := except_bind_eq_ok h
      obtain ⟨others, hothers, -⟩ := except_bind_eq_ok h
      exact ⟨⟨first, hfirst⟩, others, hothers⟩
    · rintro ⟨⟨first, hfirst⟩, others, hothers⟩
      exact ⟨_, by rw [dumpElements, hfirst, hothers]; rfl⟩

theorem dumpMembers_ok_iff (members : List (Text × Json)) :
    (∃ text, dumpMembers members = .ok text) ↔
      ∀ m ∈ members, ValidUtf8 m.1 ∧ m.2.Serialises := by
  induction members with
  | nil => exact iff_of_true ⟨_, rfl⟩ (by simp)
  | cons m rest ih =>
    rw [List.forall_mem_cons, ← ih, ← dumpString_ok_iff]
    constructor
    · rintro ⟨text, h⟩
      simp only [dumpMembers] at h
      obtain ⟨name, hname, h⟩ := except_bind_eq_ok h
      obtain ⟨first, hfirst, h⟩ := except_bind_eq_ok h
      obtain ⟨others, hothers, -⟩ := except_bind_eq_ok h
      exact ⟨⟨⟨name, hname⟩, first, hfirst⟩, others, hothers⟩
    · rintro ⟨⟨⟨name, hname⟩, first, hfirst⟩, others, hothers⟩
      exact ⟨_, by rw [dumpMembers, hname, hfirst, hothers]; rfl⟩

theorem serialises_array (elements : List Json) :
    (Json.array elements).Serialises ↔ ∀ x ∈ elements, x.Serialises := by
  rw [← dumpElements_ok_iff]
  unfold Json.Serialises
  simp only [dump]
  exact except_map_ok_iff

theorem serialises_object (members : List (Text × Json)) :
    (Json.object members).Serialises ↔ ∀ m ∈ members, ValidUtf8 m.1 ∧ m.2.Serialises := by
  rw [← dumpMembers_ok_iff]
  unfold Json.Serialises
  simp only [dump]
  exact except_map_ok_iff

theorem serialises_ofStrings (strings : List Text) :
    (Json.ofStrings strings).Serialises ↔ ∀ s ∈ strings, ValidUtf8 s := by
  simp [Json.ofStrings, serialises_array, serialises_string]

/-- Besides the new member an object keeps the same ones, whatever the new value is. -/
theorem mem_insertMember (key : Text) (members : List (Text × Json)) :
    ∃ others ⊆ members, ∀ value m,
      m ∈ insertMember key value members ↔ m = (key, value) ∨ m ∈ others := by
  induction members with
  | nil => exact ⟨[], List.Subset.refl _, by simp [insertMember]⟩
  | cons first rest ih =>
    obtain ⟨k, v⟩ := first
    unfold insertMember
    by_cases hk : k = key
    · exact ⟨rest, List.subset_cons_self _ _, by simp [hk]⟩
    · by_cases hlt : key < k
      · exact ⟨(k, v) :: rest, List.Subset.refl _, by simp [hk, hlt]⟩
      · obtain ⟨others, hsubset, hothers⟩ := ih
        refine ⟨(k, v) :: others, List.cons_subset_cons _ hsubset, fun value m => ?_⟩
        simp only [hk, hlt, if_false, List.mem_cons, hothers]
        exact or_left_comm

theorem Json.Serialises.set {json value : Json} (hjson : json.Serialises) {key : Text}
    (hkey : ValidUtf8 key) (hvalue : value.Serialises) : (json.set key value).Serialises := by
  cases json with
  | object members =>
    obtain ⟨others, hsubset, hothers⟩ := mem_insertMember key members
    rw [serialises_object] at hjson
    rw [Json.set, serialises_object]
    intro m hm
    rcases (hothers value m).mp hm with rfl | hm
    · exact ⟨hkey, hvalue⟩
    · exact hjson m (hsubset hm)
  | _ => exact hjson

/-- To set a member, its value has to be serialisable; for the rest, any other such value does. -/
theorem serialises_set_iff {json value placeholder : Json} {key : Text}
    (hobject : json.isObject = true) (hplaceholder : placeholder.Serialises) :
    (json.set key value).Serialises ↔
      (json.set key placeholder).Serialises ∧ value.Serialises := by
  cases json with
  | object members =>
    obtain ⟨others, -, hothers⟩ := mem_insertMember key members
    simp only [Json.set, serialises_object, hothers, forall_eq_or_imp]
    tauto
  | _ => cases hobject

theorem Json.Serialises.member {json value : Json} (h : json.Serialises) {key : Text}
    (hmember : json.member? key = some value) : value.Serialises := by
  cases json with
  | object members =>
    obtain ⟨m, hm, rfl⟩ := Option.map_eq_some_iff.mp hmember
    exact ((serialises_object members).mp h m (List.mem_of_find?_eq_some hm)).2
  | _ => cases hmember

/-- A host whose parser accepts no string, in a value or as a key, that is not valid UTF-8. -/
def Host.ParsesUtf8 (host : Host) : Prop :=
  ∀ text json, host.parseJson text = some json → json.Serialises

/-- A host whose parser knows one document besides the empty object. -/
def Host.parsing (document : Text) (json : Json) : Host where
  outcome _ := {}
  parseJson text := if text = document then some json
    else if text = [0x7B, 0x7D] then some (.object []) else none

theorem parsesUtf8_parsing {document : Text} {json : Json} (h : json.Serialises) :
    (Host.parsing document json).ParsesUtf8 := by
  have hempty : (Json.object []).Serialises := ⟨_, rfl⟩
  intro text value hvalue
  simp only [Host.parsing] at hvalue
  split at hvalue
  · cases hvalue
    exact h
  · split at hvalue
    · cases hvalue
      exact hempty
    · cases hvalue

theorem parseJson_parsing (document : Text) (json : Json) :
    (Host.parsing document json).parseJson document = some json := by
  simp [Host.parsing]

/-- The printer of a host that prints no other number. -/
def printZero : ℚ → FloatText := fun _ => ⟨ascii "0.0", by decide +kernel⟩

theorem serialises_ofMembers {members : List (String × Json)}
    (h : ∀ m ∈ members, ValidUtf8 (ascii m.1) ∧ m.2.Serialises) :
    (Json.ofMembers members).Serialises := by
  have hempty : (Json.object []).Serialises := ⟨_, rfl⟩
  unfold Json.ofMembers
  refine List.foldlRecOn (motive := Json.Serialises) members _ hempty fun json hjson m hm => ?_
  exact hjson.set (h m hm).1 (h m hm).2

/-! ## Dumps are valid -/

theorem escapeAscii_ascii {b : UInt8} (hb : b < 0x80) : ∀ c ∈ escapeAscii b, c < 0x80 := by
  have hhex : ∀ n : Fin 16, hexDigit n < 0x80 := by decide
  have hlt := b.toNat_lt
  unfold escapeAscii
  split_ifs
  · exact lt_of_mem_ascii _ (by decide)
  · exact lt_of_mem_ascii _ (by decide)
  · exact lt_of_mem_ascii _ (by decide)
  · exact lt_of_mem_ascii _ (by decide)
  · exact lt_of_mem_ascii _ (by decide)
  · exact lt_of_mem_ascii _ (by decide)
  · exact lt_of_mem_ascii _ (by decide)
  · intro c hc
    simp only [List.mem_append, List.mem_cons, List.not_mem_nil, or_false] at hc
    rcases hc with hc | rfl | rfl
    · exact lt_of_mem_ascii _ (by decide) c hc
    · exact hhex ⟨b.toNat / 16, by omega⟩
    · exact hhex ⟨b.toNat % 16, by omega⟩
  · intro c hc
    rw [List.mem_singleton.mp hc]
    exact hb

theorem decode_accept_accept {b : UInt8} (h : decode .accept b = some .accept) : b < 0x80 := by
  by_contra hb
  simp only [decode, hb, if_false] at h
  split_ifs at h <;> cases h

/-- The decoder reads an escaped text as it reads the text. -/
theorem decode_dumpEscaped {s text : Text} {state : Utf8State}
    (h : dumpEscaped state s = .ok text) : text.foldlM decode state = some .accept := by
  induction s generalizing state text with
  | nil =>
    unfold dumpEscaped at h
    split at h
    · next haccept =>
      cases h
      rw [haccept]
      rfl
    · cases h
  | cons b rest ih =>
    simp only [dumpEscaped] at h
    split at h
    · cases h
    · next next hdecode =>
      obtain ⟨others, hothers, h⟩ := except_bind_eq_ok h
      cases h
      rw [List.foldlM_append]
      split
      · next haccept =>
        obtain ⟨rfl, rfl⟩ := haccept
        have hescaped := validUtf8_of_ascii (escapeAscii_ascii (decode_accept_accept hdecode))
        unfold ValidUtf8 at hescaped
        rw [hescaped]
        exact ih hothers
      · rw [List.foldlM_cons, hdecode]
        exact ih hothers

theorem validUtf8_dumpString {s text : Text} (h : dumpString s = .ok text) : ValidUtf8 text := by
  obtain ⟨escaped, hescaped, h⟩ := except_bind_eq_ok h
  cases h
  have hquote : ValidUtf8 (ascii "\"") := by decide
  have hinner : ValidUtf8 escaped := decode_dumpEscaped hescaped
  rw [List.append_assoc, hquote.append_iff, hinner.append_iff]
  exact hquote

theorem validUtf8_dump {json : Json} {text : Text} (h : json.dump = .ok text) :
    ValidUtf8 text := by
  have hparts : HoldsOfParts ValidUtf8 := {
    nil := rfl
    append := fun s t hs ht => (hs.append_iff t).mpr ht
    ascii := fun b _ hb => validUtf8_of_ascii (by simpa using hb)
    string := fun s text => validUtf8_dumpString }
  exact hparts.dump json text h

end AgentMemory
