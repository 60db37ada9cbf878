import AgentMemory.Verification.Search.Like

/-! # Encoded characters

A text that encodes characters is read as these characters, and it occurs in another one at the
start of a character only. -/

namespace AgentMemory

open Json Foundation

/-! ## Encoding -/

/-- A code point that is read as it is: no NUL, no surrogate, neither `U+FFFE` nor `U+FFFF`. -/
structure IsCharacter (c : ℕ) : Prop where
  ne_zero : c ≠ 0
  lt : c < 0x110000
  not_surrogate : c / 2 ^ 11 ≠ 0xD800 / 2 ^ 11
  not_noncharacter : c / 2 ≠ 0xFFFE / 2

def continuationByte (c : ℕ) : UInt8 :=
  UInt8.ofNat (0x80 + c % 2 ^ 6)

/-- UTF-8. -/
def utf8Encode (c : ℕ) : Text :=
  if c < 0x80 then [UInt8.ofNat c]
  else if c < 0x800 then [UInt8.ofNat (0xC0 + c / 2 ^ 6), continuationByte c]
  else if c < 0x10000 then
    [UInt8.ofNat (0xE0 + c / 2 ^ 12), continuationByte (c / 2 ^ 6), continuationByte c]
  else [UInt8.ofNat (0xF0 + c / 2 ^ 18), continuationByte (c / 2 ^ 12),
    continuationByte (c / 2 ^ 6), continuationByte c]

/-- The text encodes these characters. -/
inductive IsUtf8 : Text → List ℕ → Prop where
  | nil : IsUtf8 [] []
  | cons {c : ℕ} {s : Text} {cs : List ℕ} (hc : IsCharacter c) (hs : IsUtf8 s cs) :
      IsUtf8 (utf8Encode c ++ s) (c :: cs)

/-! ## One character -/

theorem toNat_continuationByte (c : ℕ) : (continuationByte c).toNat = 0x80 + c % 2 ^ 6 := by
  rw [continuationByte, UInt8.toNat_ofNat_of_lt']
  have : UInt8.size = 256 := rfl
  omega

theorem isContinuation_iff {b : UInt8} :
    isContinuation b = true ↔ 0x80 ≤ b.toNat ∧ b.toNat < 0xC0 := by
  simp [isContinuation, UInt8.le_iff_toNat_le, UInt8.lt_iff_toNat_lt]

theorem between_iff {low high b : UInt8} :
    between low high b = true ↔ low.toNat ≤ b.toNat ∧ b.toNat ≤ high.toNat := by
  simp [between, UInt8.le_iff_toNat_le]

/-- Several bytes that are read as the one character. -/
structure ReadsAs (b : UInt8) (continuation : Text) (c : ℕ) : Prop where
  first : ¬b < 0xC0
  continues : ∀ b ∈ continuation, isContinuation b = true
  value : sqlite3Utf8Read b continuation = c
  valid : ValidUtf8 (b :: continuation)

/-- The value of the bytes before the exceptions. -/
def rawValue (b : UInt8) (continuation : Text) : ℕ :=
  continuation.foldl (fun c b => (c * 2 ^ 6 + b.toNat % 2 ^ 6) % 2 ^ 32) (sqlite3Utf8Trans1 b)

theorem sqlite3Utf8Read_eq {b : UInt8} {continuation : Text} {c : ℕ} (hc : IsCharacter c)
    (hlow : 0x80 ≤ c) (hvalue : rawValue b continuation = c) :
    sqlite3Utf8Read b continuation = c := by
  have hread : sqlite3Utf8Read b continuation =
      if rawValue b continuation < 0x80 ∨ rawValue b continuation / 2 ^ 11 = 0xD800 / 2 ^ 11 ∨
        rawValue b continuation / 2 = 0xFFFE / 2 then 0xFFFD else rawValue b continuation := rfl
  rw [hread, hvalue, if_neg]
  rintro (h | h | h)
  · omega
  · exact hc.not_surrogate h
  · exact hc.not_noncharacter h

theorem sqlite3Utf8Trans1_of_toNat {b : UInt8} :
    (0xC0 ≤ b.toNat → b.toNat < 0xE0 → sqlite3Utf8Trans1 b = b.toNat - 0xC0) ∧
    (0xE0 ≤ b.toNat → b.toNat < 0xF0 → sqlite3Utf8Trans1 b = b.toNat - 0xE0) ∧
    (0xF0 ≤ b.toNat → b.toNat < 0xF8 → sqlite3Utf8Trans1 b = b.toNat - 0xF0) := by
  simp only [sqlite3Utf8Trans1, UInt8.lt_iff_toNat_lt, UInt8.reduceToNat]
  refine ⟨?_, ?_, ?_⟩ <;> intro _ _ <;> split_ifs <;> omega

section Sizes

variable {b x y z : UInt8} {c : ℕ}

theorem readsAs_two (hc : IsCharacter c) (hlow : 0x80 ≤ c) (hlt : c < 0x800)
    (hb : b.toNat = 0xC0 + c / 2 ^ 6) (hx : x.toNat = 0x80 + c % 2 ^ 6) : ReadsAs b [x] c where
  first := by
    simp only [UInt8.lt_iff_toNat_lt, UInt8.reduceToNat]
    omega
  continues := by
    simp only [List.mem_singleton, forall_eq, isContinuation_iff]
    omega
  value := by
    refine sqlite3Utf8Read_eq hc hlow ?_
    have hfirst := sqlite3Utf8Trans1_of_toNat.1 (by omega) (by omega : b.toNat < 0xE0)
    simp only [rawValue, List.foldl_cons, List.foldl_nil, hfirst]
    omega
  valid := by
    have hb' : decode .accept b = some .tail1 := by
      simp only [decode, between_iff, UInt8.lt_iff_toNat_lt, UInt8.reduceToNat]
      rw [if_neg (by omega), if_pos (by omega)]
    have hx' : decode .tail1 x = some .accept := by
      simp only [decode, between_iff, UInt8.reduceToNat]
      rw [if_pos (by omega)]
    simp [ValidUtf8, hb', hx']

/-- The first two bytes of three: neither an overlong encoding nor a surrogate. -/
theorem decode_three (hc : IsCharacter c) (hlow : 0x800 ≤ c) (hlt : c < 0x10000)
    (hb : b.toNat = 0xE0 + c / 2 ^ 12) (hx : x.toNat = 0x80 + c / 2 ^ 6 % 2 ^ 6) :
    ∃ state, decode .accept b = some state ∧ decode state x = some .tail1 := by
  have hsurrogate := hc.not_surrogate
  by_cases hE0 : b = 0xE0
  · have hb0 : b.toNat = 0xE0 := by rw [hE0]; rfl
    refine ⟨.afterE0, by rw [hE0]; rfl, ?_⟩
    simp only [decode, between_iff, UInt8.reduceToNat]
    rw [if_pos (by omega)]
  by_cases hED : b = 0xED
  · have hbD : b.toNat = 0xED := by rw [hED]; rfl
    refine ⟨.afterED, by rw [hED]; rfl, ?_⟩
    simp only [decode, between_iff, UInt8.reduceToNat]
    rw [if_pos (by omega)]
  · have hE0' : b.toNat ≠ 0xE0 := fun h => hE0 (UInt8.toNat_inj.mp h)
    refine ⟨.tail2, ?_, ?_⟩
    · simp only [decode, between_iff, UInt8.lt_iff_toNat_lt, UInt8.reduceToNat]
      rw [if_neg (by omega), if_neg (by omega), if_neg hE0, if_neg hED, if_pos (by omega)]
    · simp only [decode, between_iff, UInt8.reduceToNat]
      rw [if_pos (by omega)]

theorem readsAs_three (hc : IsCharacter c) (hlow : 0x800 ≤ c) (hlt : c < 0x10000)
    (hb : b.toNat = 0xE0 + c / 2 ^ 12) (hx : x.toNat = 0x80 + c / 2 ^ 6 % 2 ^ 6)
    (hy : y.toNat = 0x80 + c % 2 ^ 6) : ReadsAs b [x, y] c where
  first := by
    simp only [UInt8.lt_iff_toNat_lt, UInt8.reduceToNat]
    omega
  continues := by
    simp only [List.mem_cons, List.not_mem_nil, or_false, forall_eq_or_imp, forall_eq,
      isContinuation_iff]
    omega
  value := by
    refine sqlite3Utf8Read_eq hc (by omega) ?_
    have hfirst := sqlite3Utf8Trans1_of_toNat.2.1 (by omega) (by omega : b.toNat < 0xF0)
    simp only [rawValue, List.foldl_cons, List.foldl_nil, hfirst]
    omega
  valid := by
    obtain ⟨state, hb', hx'⟩ := decode_three hc hlow hlt hb hx
    have hy' : decode .tail1 y = some .accept := by
      simp only [decode, between_iff, UInt8.reduceToNat]
      rw [if_pos (by omega)]
    simp [ValidUtf8, hb', hx', hy']

/-- The first two bytes of four: neither an overlong encoding nor a value out of range. -/
theorem decode_four (hc : IsCharacter c) (hlow : 0x10000 ≤ c)
    (hb : b.toNat = 0xF0 + c / 2 ^ 18) (hx : x.toNat = 0x80 + c / 2 ^ 12 % 2 ^ 6) :
    ∃ state, decode .accept b = some state ∧ decode state x = some .tail2 := by
  have hlt := hc.lt
  by_cases hF0 : b = 0xF0
  · have hb0 : b.toNat = 0xF0 := by rw [hF0]; rfl
    refine ⟨.afterF0, by rw [hF0]; rfl, ?_⟩
    simp only [decode, between_iff, UInt8.reduceToNat]
    rw [if_pos (by omega)]
  by_cases hF4 : b = 0xF4
  · have hb4 : b.toNat = 0xF4 := by rw [hF4]; rfl
    refine ⟨.afterF4, by rw [hF4]; rfl, ?_⟩
    simp only [decode, between_iff, UInt8.reduceToNat]
    rw [if_pos (by omega)]
  · have hF0' : b.toNat ≠ 0xF0 := fun h => hF0 (UInt8.toNat_inj.mp h)
    have hF4' : b.toNat ≠ 0xF4 := fun h => hF4 (UInt8.toNat_inj.mp h)
    have hE0 : b ≠ 0xE0 := fun h => by
      rw [h] at hb
      simp only [UInt8.reduceToNat] at hb
      omega
    have hED : b ≠ 0xED := fun h => by
      rw [h] at hb
      simp only [UInt8.reduceToNat] at hb
      omega
    refine ⟨.tail3, ?_, ?_⟩
    · simp only [decode, between_iff, UInt8.lt_iff_toNat_lt, UInt8.reduceToNat]
      rw [if_neg (by omega), if_neg (by omega), if_neg hE0, if_neg hED, if_neg (by omega),
        if_neg hF0, if_pos (by omega)]
    · simp only [decode, between_iff, UInt8.reduceToNat]
      rw [if_pos (by omega)]

theorem readsAs_four (hc : IsCharacter c) (hlow : 0x10000 ≤ c)
    (hb : b.toNat = 0xF0 + c / 2 ^ 18) (hx : x.toNat = 0x80 + c / 2 ^ 12 % 2 ^ 6)
    (hy : y.toNat = 0x80 + c / 2 ^ 6 % 2 ^ 6) (hz : z.toNat = 0x80 + c % 2 ^ 6) :
    ReadsAs b [x, y, z] c where
  first := by
    simp only [UInt8.lt_iff_toNat_lt, UInt8.reduceToNat]
    omega
  continues := by
    simp only [List.mem_cons, List.not_mem_nil, or_false, forall_eq_or_imp, forall_eq,
      isContinuation_iff]
    omega
  value := by
    have hlt := hc.lt
    refine sqlite3Utf8Read_eq hc (by omega) ?_
    have hfirst := sqlite3Utf8Trans1_of_toNat.2.2 (by omega) (by omega : b.toNat < 0xF8)
    simp only [rawValue, List.foldl_cons, List.foldl_nil, hfirst]
    omega
  valid := by
    obtain ⟨state, hb', hx'⟩ := decode_four hc hlow hb hx
    have hy' : decode .tail2 y = some .tail1 := by
      simp only [decode, between_iff, UInt8.reduceToNat]
      rw [if_pos (by omega)]
    have hz' : decode .tail1 z = some .accept := by
      simp only [decode, between_iff, UInt8.reduceToNat]
      rw [if_pos (by omega)]
    simp [ValidUtf8, hb', hx', hy', hz']

end Sizes

/-- Beyond ASCII an encoding is a first byte and bytes that continue it. -/
theorem utf8Encode_readsAs {c : ℕ} (hc : IsCharacter c) (hlow : 0x80 ≤ c) :
    ∃ b continuation, utf8Encode c = b :: continuation ∧ ReadsAs b continuation c := by
  have hlt := hc.lt
  have hfirst : ∀ n, n < 256 → (UInt8.ofNat n).toNat = n :=
    fun n hn => UInt8.toNat_ofNat_of_lt' hn
  unfold utf8Encode
  rw [if_neg (by omega)]
  split
  · exact ⟨_, _, rfl, readsAs_two hc hlow ‹_› (hfirst _ (by omega)) (toNat_continuationByte _)⟩
  · split
    · exact ⟨_, _, rfl, readsAs_three hc (by omega) ‹_› (hfirst _ (by omega))
        (toNat_continuationByte _) (toNat_continuationByte _)⟩
    · exact ⟨_, _, rfl, readsAs_four hc (by omega) (hfirst _ (by omega))
        (toNat_continuationByte _) (toNat_continuationByte _) (toNat_continuationByte _)⟩

theorem characters_append {s t : Text} (hs : 0 ∉ s) (ht : StartsCharacter t) :
    characters (s ++ t) = characters s ++ characters t := by
  induction s using characters.induct with
  | case1 => rw [characters_nil, List.nil_append, List.nil_append]
  | case2 rest => simp at hs
  | case3 b rest h0 hb ih =>
    rw [List.cons_append, characters_single h0 hb, characters_single h0 hb, List.cons_append,
      ih fun h => hs (List.mem_cons_of_mem b h)]
  | case4 b rest h0 hb hlen ih =>
    have hfront : ∀ c ∈ rest.takeWhile isContinuation, isContinuation c = true :=
      fun c hc => List.mem_takeWhile_imp hc
    have hstart : StartsCharacter (rest.dropWhile isContinuation ++ t) := by
      cases hdrop : rest.dropWhile isContinuation with
      | nil => exact ht
      | cons d rest' =>
        intro c hc
        cases hc
        exact startsCharacter_dropWhile rest _ (by rw [hdrop]; rfl)
    have hsplit : rest ++ t = rest.takeWhile isContinuation ++
        (rest.dropWhile isContinuation ++ t) := by
      rw [← List.append_assoc, List.takeWhile_append_dropWhile]
    rw [List.cons_append, characters_multibyte hb, characters_multibyte hb, hsplit,
      takeWhile_append_of_stop hfront hstart, dropWhile_append_of_stop hfront hstart,
      ih fun h => hs (List.mem_cons_of_mem b ((List.dropWhile_suffix _).mem h))]
    rfl

/-! ## Texts of characters -/

section Character

variable {c : ℕ}

theorem utf8Encode_ascii (h : c < 0x80) : utf8Encode c = [UInt8.ofNat c] := by
  rw [utf8Encode, if_pos h]

theorem toNat_ofNat_ascii (h : c < 0x80) : (UInt8.ofNat c).toNat = c :=
  UInt8.toNat_ofNat_of_lt' (by have : UInt8.size = 256 := rfl; omega)

theorem startsCharacter_utf8Encode (hc : IsCharacter c) (rest : Text) :
    StartsCharacter (utf8Encode c ++ rest) := by
  intro b hb
  rw [← Bool.not_eq_true, isContinuation_iff]
  by_cases hlow : c < 0x80
  · rw [utf8Encode_ascii hlow] at hb
    cases hb
    rw [toNat_ofNat_ascii hlow]
    omega
  · obtain ⟨first, continuation, hencode, hreads⟩ := utf8Encode_readsAs hc (by omega)
    rw [hencode] at hb
    cases hb
    have hfirst := hreads.first
    rw [UInt8.lt_iff_toNat_lt] at hfirst
    simp only [UInt8.reduceToNat] at hfirst
    omega

theorem characters_utf8Encode (hc : IsCharacter c) : characters (utf8Encode c) = [c] := by
  by_cases hlow : c < 0x80
  · have h0 : UInt8.ofNat c ≠ 0 := fun h => hc.ne_zero (by
      rw [← toNat_ofNat_ascii hlow, h]
      rfl)
    have hb : UInt8.ofNat c < 0xC0 := by
      rw [UInt8.lt_iff_toNat_lt, toNat_ofNat_ascii hlow]
      simp only [UInt8.reduceToNat]
      omega
    rw [utf8Encode_ascii hlow, characters_single h0 hb, characters_nil, toNat_ofNat_ascii hlow]
  · obtain ⟨b, continuation, hencode, hreads⟩ := utf8Encode_readsAs hc (by omega)
    have hnil : StartsCharacter [] := by simp [StartsCharacter]
    have htake := takeWhile_append_of_stop hreads.continues hnil
    have hdrop := dropWhile_append_of_stop hreads.continues hnil
    rw [List.append_nil] at htake hdrop
    rw [hencode, characters_multibyte hreads.first, htake, hdrop, characters_nil, hreads.value]

theorem zero_notMem_utf8Encode (hc : IsCharacter c) : 0 ∉ utf8Encode c := by
  by_cases hlow : c < 0x80
  · rw [utf8Encode_ascii hlow, List.mem_singleton]
    intro h
    refine hc.ne_zero ?_
    rw [← toNat_ofNat_ascii hlow, ← h]
    rfl
  · obtain ⟨b, continuation, hencode, hreads⟩ := utf8Encode_readsAs hc (by omega)
    rw [hencode]
    intro h
    rcases List.mem_cons.mp h with rfl | h
    · exact hreads.first (by decide)
    · exact absurd (hreads.continues 0 h) (by decide)

theorem validUtf8_utf8Encode (hc : IsCharacter c) : ValidUtf8 (utf8Encode c) := by
  by_cases hlow : c < 0x80
  · rw [utf8Encode_ascii hlow]
    refine validUtf8_of_ascii fun b hb => ?_
    rw [List.mem_singleton.mp hb, UInt8.lt_iff_toNat_lt, toNat_ofNat_ascii hlow]
    exact hlow
  · obtain ⟨b, continuation, hencode, hreads⟩ := utf8Encode_readsAs hc (by omega)
    rw [hencode]
    exact hreads.valid

/-- A byte of `ToLower`. -/
def lowerByte (b : UInt8) : UInt8 :=
  if isUpper b then b + 32 else b

theorem toLower_eq_map (s : Text) : toLower s = s.map lowerByte :=
  rfl

theorem isUpper_iff {b : UInt8} : isUpper b = true ↔ 65 ≤ b.toNat ∧ b.toNat ≤ 90 := by
  simp [isUpper, UInt8.le_iff_toNat_le]

theorem toNat_lowerByte (b : UInt8) : (lowerByte b).toNat = foldCase b.toNat := by
  unfold lowerByte foldCase sqlite3Tolower
  by_cases h : isUpper b = true
  · have hrange := isUpper_iff.mp h
    rw [if_pos h, if_pos hrange, UInt8.toNat_add]
    simp only [UInt8.reduceToNat]
    omega
  · rw [if_neg h, if_neg fun hrange => h (isUpper_iff.mpr hrange)]

theorem foldCase_of_le (h : 0x80 ≤ c) : foldCase c = c := by
  unfold foldCase sqlite3Tolower
  rw [if_neg (by omega)]

theorem foldCase_lt (h : c < 0x80) : foldCase c < 0x80 := by
  unfold foldCase sqlite3Tolower
  split <;> omega

theorem lowerByte_of_le {b : UInt8} (h : 0x80 ≤ b.toNat) : lowerByte b = b :=
  UInt8.toNat_inj.mp (by rw [toNat_lowerByte, foldCase_of_le h])

theorem toLower_utf8Encode (hc : IsCharacter c) :
    toLower (utf8Encode c) = utf8Encode (foldCase c) := by
  by_cases hlow : c < 0x80
  · rw [utf8Encode_ascii hlow, utf8Encode_ascii (foldCase_lt hlow)]
    refine congrArg (fun b => [b]) (UInt8.toNat_inj.mp ?_)
    rw [toNat_ofNat_ascii (foldCase_lt hlow)]
    refine (toNat_lowerByte _).trans ?_
    rw [toNat_ofNat_ascii hlow]
  · obtain ⟨b, continuation, hencode, hreads⟩ := utf8Encode_readsAs hc (by omega)
    have hkept : ∀ x ∈ b :: continuation, lowerByte x = x := by
      intro x hx
      refine lowerByte_of_le ?_
      rcases List.mem_cons.mp hx with rfl | hx
      · have hfirst := hreads.first
        simp only [UInt8.lt_iff_toNat_lt, UInt8.reduceToNat] at hfirst
        omega
      · exact (isContinuation_iff.mp (hreads.continues x hx)).1
    rw [foldCase_of_le (by omega), hencode, toLower_eq_map, List.map_congr_left hkept,
      List.map_id']

theorem IsCharacter.foldCase (hc : IsCharacter c) : IsCharacter (foldCase c) := by
  by_cases hlow : c < 0x80
  · have hlt := foldCase_lt hlow
    have hne := hc.ne_zero
    refine ⟨?_, by omega, by omega, by omega⟩
    unfold AgentMemory.foldCase sqlite3Tolower
    split <;> omega
  · rw [foldCase_of_le (by omega)]
    exact hc

end Character

section Texts

variable {s t : Text} {cs ds : List ℕ}

theorem IsUtf8.startsCharacter (h : IsUtf8 s cs) : StartsCharacter s := by
  induction h with
  | nil => simp [StartsCharacter]
  | cons hc hs ih => exact startsCharacter_utf8Encode hc _

theorem IsUtf8.zero_notMem (h : IsUtf8 s cs) : 0 ∉ s := by
  induction h with
  | nil => simp
  | cons hc hs ih => exact fun h0 => (List.mem_append.mp h0).elim (zero_notMem_utf8Encode hc) ih

theorem IsUtf8.valid (h : IsUtf8 s cs) : ValidUtf8 s := by
  induction h with
  | nil => rfl
  | cons hc hs ih => exact ((validUtf8_utf8Encode hc).append_iff _).mpr ih

/-- A text of characters is read as these. -/
theorem IsUtf8.characters_eq (h : IsUtf8 s cs) : AgentMemory.characters s = cs := by
  induction h with
  | nil => exact characters_nil
  | cons hc hs ih =>
    rw [characters_append (zero_notMem_utf8Encode hc) hs.startsCharacter,
      characters_utf8Encode hc, ih]
    rfl

theorem IsUtf8.toLower (h : IsUtf8 s cs) : IsUtf8 (toLower s) (cs.map foldCase) := by
  induction h with
  | nil => exact .nil
  | cons hc hs ih =>
    rw [toLower_eq_map, List.map_append, ← toLower_eq_map, ← toLower_eq_map,
      toLower_utf8Encode hc]
    exact .cons hc.foldCase ih

theorem IsUtf8.eq_flatMap (h : IsUtf8 s cs) : s = cs.flatMap utf8Encode := by
  induction h with
  | nil => rfl
  | cons hc hs ih => rw [List.flatMap_cons, ih]

/-! ## Occurrences -/

/-- Only in front of a character the decoder is not in the middle of one. -/
theorem startsCharacter_of_validUtf8 (h : ValidUtf8 s) : StartsCharacter s := by
  intro b hb
  obtain ⟨rest, rfl⟩ : ∃ rest, s = b :: rest := by
    cases s with
    | nil => simp at hb
    | cons d rest => exact ⟨rest, by cases hb; rfl⟩
  unfold ValidUtf8 at h
  rw [List.foldlM_cons] at h
  obtain ⟨next, hdecode, -⟩ := Option.bind_eq_some_iff.mp h
  rw [← Bool.not_eq_true, isContinuation_iff]
  rintro ⟨hlow, hhigh⟩
  simp only [decode, between_iff, UInt8.lt_iff_toNat_lt, ← UInt8.toNat_inj,
    UInt8.reduceToNat] at hdecode
  split_ifs at hdecode <;> omega

theorem decode_of_startsCharacter {state next : Utf8State} {b : UInt8}
    (hb : isContinuation b = false) (h : decode state b = some next) : state = .accept := by
  rw [← Bool.not_eq_true, isContinuation_iff] at hb
  cases state with
  | accept => rfl
  | _ =>
    simp only [decode, between_iff, UInt8.reduceToNat] at h
    split_ifs at h
    omega

/-- What a character starts after a valid text has a valid text before it. -/
theorem ValidUtf8.split {a : Text} (hs : StartsCharacter s) (hne : s ≠ [])
    (h : ValidUtf8 (a ++ s)) : ValidUtf8 s := by
  obtain ⟨b, rest, rfl⟩ := List.exists_cons_of_ne_nil hne
  unfold ValidUtf8 at h ⊢
  rw [List.foldlM_append] at h
  obtain ⟨state, -, h⟩ := Option.bind_eq_some_iff.mp h
  have hrest := h
  rw [List.foldlM_cons] at hrest
  obtain ⟨next, hdecode, -⟩ := Option.bind_eq_some_iff.mp hrest
  rwa [decode_of_startsCharacter (hs b rfl) hdecode] at h

/-- A text occurs in another one just where its characters occur. -/
theorem IsUtf8.infix_iff (hs : IsUtf8 s cs) (ht : IsUtf8 t ds) : s <:+: t ↔ cs <:+: ds := by
  constructor
  · rintro ⟨a, b, hab⟩
    by_cases hnil : s = []
    · have hcs : cs = [] := by rw [← hs.characters_eq, hnil, characters_nil]
      rw [hcs]
      exact List.nil_infix
    have hvalid : ValidUtf8 (a ++ (s ++ b)) := by
      rw [← List.append_assoc, hab]
      exact ht.valid
    have hstart : StartsCharacter (s ++ b) := by
      intro c hc
      refine hs.startsCharacter c ?_
      rwa [List.head?_append_of_ne_nil _ hnil] at hc
    have hb : ValidUtf8 b := (hs.valid.append_iff b).mp
      (hvalid.split hstart (List.append_ne_nil_of_left_ne_nil hnil b))
    have ha : 0 ∉ a := fun h => ht.zero_notMem (by
      rw [← hab, List.append_assoc]
      exact List.mem_append_left _ h)
    refine ⟨characters a, characters b, ?_⟩
    rw [← ht.characters_eq, ← hab, List.append_assoc, List.append_assoc,
      characters_append ha hstart,
      characters_append hs.zero_notMem (startsCharacter_of_validUtf8 hb), hs.characters_eq]
  · intro h
    obtain ⟨a, b, rfl⟩ := h
    rw [hs.eq_flatMap, ht.eq_flatMap]
    exact ⟨a.flatMap utf8Encode, b.flatMap utf8Encode, by simp⟩

/-- Up to ASCII case, too. -/
theorem IsUtf8.infix_toLower_iff (hs : IsUtf8 s cs) (ht : IsUtf8 t ds) :
    AgentMemory.toLower s <:+: AgentMemory.toLower t ↔ cs.map foldCase <:+: ds.map foldCase :=
  hs.toLower.infix_iff ht.toLower

end Texts

end AgentMemory
