import AgentMemory.Model.JsonParser
import AgentMemory.Verification.Serialization.Utf8

/-! # The lexer on dumped values

What `scan_string` and `scan_number` make of a text that the serialiser printed, and what holds of
every token they return. -/

namespace AgentMemory

open Json

namespace Json

/-! ## Characters of more than one byte -/

/-- The ranges of the bytes that the decoder still waits for. -/
def Utf8State.ranges : Utf8State → List (UInt8 × UInt8)
  | .accept => []
  | .tail1 => [(0x80, 0xBF)]
  | .tail2 => [(0x80, 0xBF), (0x80, 0xBF)]
  | .tail3 => [(0x80, 0xBF), (0x80, 0xBF), (0x80, 0xBF)]
  | .afterE0 => [(0xA0, 0xBF), (0x80, 0xBF)]
  | .afterED => [(0x80, 0x9F), (0x80, 0xBF)]
  | .afterF0 => [(0x90, 0xBF), (0x80, 0xBF), (0x80, 0xBF)]
  | .afterF4 => [(0x80, 0x8F), (0x80, 0xBF), (0x80, 0xBF)]

/-- The lexer and the serialiser's decoder agree on the lead bytes. -/
theorem continuationRanges_eq (b : UInt8) (hb : ¬b < 0x80) :
    continuationRanges b = (decode .accept b).map Utf8State.ranges := by
  have hall : ∀ n : Fin 256, ¬UInt8.ofNat n.val < 0x80 →
      continuationRanges (UInt8.ofNat n.val) =
        (decode .accept (UInt8.ofNat n.val)).map Utf8State.ranges := by
    decide +kernel
  have h := hall ⟨b.toNat, b.toNat_lt⟩
  simp only [UInt8.ofNat_toNat] at h
  exact h hb

theorem ranges_cons {state : Utf8State} (hstate : state ≠ .accept) (b : UInt8) :
    ∃ low high next, state.ranges = (low, high) :: next.ranges ∧
      decode state b = if between low high b then some next else none := by
  cases state with
  | accept => exact absurd rfl hstate
  | tail1 => exact ⟨0x80, 0xBF, .accept, rfl, rfl⟩
  | tail2 => exact ⟨0x80, 0xBF, .tail1, rfl, rfl⟩
  | tail3 => exact ⟨0x80, 0xBF, .tail2, rfl, rfl⟩
  | afterE0 => exact ⟨0xA0, 0xBF, .tail1, rfl, rfl⟩
  | afterED => exact ⟨0x80, 0x9F, .tail1, rfl, rfl⟩
  | afterF0 => exact ⟨0x90, 0xBF, .tail2, rfl, rfl⟩
  | afterF4 => exact ⟨0x80, 0x8F, .tail2, rfl, rfl⟩

/-- The bytes that `next_byte_in_range` takes complete the character. -/
theorem decode_nextByteInRange {state : Utf8State} {text added rest : Text}
    (h : nextByteInRange state.ranges text = some (added, rest)) :
    added.foldlM decode state = some .accept ∧ text = added ++ rest := by
  induction text generalizing state added with
  | nil =>
      by_cases hstate : state = .accept
      · subst hstate
        cases h
        exact ⟨rfl, rfl⟩
      · obtain ⟨low, high, next, hranges, -⟩ := ranges_cons hstate 0
        rw [hranges] at h
        cases h
  | cons b text ih =>
      by_cases hstate : state = .accept
      · subst hstate
        cases h
        exact ⟨rfl, rfl⟩
      · obtain ⟨low, high, next, hranges, hdecode⟩ := ranges_cons hstate b
        rw [hranges] at h
        simp only [nextByteInRange] at h
        split at h
        · next hbetween =>
            obtain ⟨⟨others, rest'⟩, hothers, h⟩ := Option.bind_eq_some_iff.mp h
            cases h
            obtain ⟨hvalid, htext⟩ := ih hothers
            rw [List.foldlM_cons, hdecode, if_pos hbetween]
            exact ⟨hvalid, by rw [htext]; rfl⟩
        · cases h

/-- A dump leaves the rest of a character that is begun as it is, and the lexer takes it. -/
theorem dumpEscaped_continuation {state : Utf8State} {s escaped : Text}
    (h : dumpEscaped state s = .ok escaped) :
    ∃ added s' escaped', s = added ++ s' ∧ escaped = added ++ escaped' ∧
      dumpEscaped .accept s' = .ok escaped' ∧
      ∀ r, nextByteInRange state.ranges (added ++ r) = some (added, r) := by
  induction s generalizing state escaped with
  | nil =>
      by_cases hstate : state = .accept
      · subst hstate
        exact ⟨[], [], escaped, rfl, rfl, h, fun r => rfl⟩
      · simp [dumpEscaped, hstate] at h
  | cons b s ih =>
      by_cases hstate : state = .accept
      · subst hstate
        exact ⟨[], b :: s, escaped, rfl, rfl, h, fun r => rfl⟩
      · obtain ⟨low, high, next, hranges, hdecode⟩ := ranges_cons hstate b
        simp only [dumpEscaped, hstate, false_and, if_false] at h
        split at h
        · cases h
        · next next' hnext =>
            obtain ⟨others, hothers, h⟩ := Foundation.except_bind_eq_ok h
            cases h
            rw [hdecode] at hnext
            split at hnext
            · next hbetween =>
                cases hnext
                obtain ⟨added, s', escaped', rfl, rfl, haccept, htake⟩ := ih hothers
                refine ⟨b :: added, s', escaped', rfl, rfl, haccept, fun r => ?_⟩
                rw [hranges]
                simp [nextByteInRange, hbetween, htake]
            · cases hnext

/-! ## Escapes -/

theorem hexValue_hexDigit {n : ℕ} (h : n < 16) : hexValue (hexDigit n) = some n := by
  have hall : ∀ n : Fin 16, hexValue (hexDigit n) = some n.val := by decide
  exact hall ⟨n, h⟩

theorem codepointBytes_toNat {b : UInt8} (hb : b < 0x80) : codepointBytes b.toNat = [b] := by
  have hlt : b.toNat < 0x80 := hb
  simp [codepointBytes, hlt]

/-- A control character without an escape of its own. -/
theorem scanEscape_control {b : UInt8} (hb : b < 0x80) (r : Text) :
    scanEscape (0x75 :: 0x30 :: 0x30 :: hexDigit (b.toNat / 16) :: hexDigit (b.toNat % 16) :: r) =
      some ([b], r) := by
  have hlt : b.toNat < 0x80 := hb
  have hcode : getCodepoint
      (0x30 :: 0x30 :: hexDigit (b.toNat / 16) :: hexDigit (b.toNat % 16) :: r) =
        some (b.toNat, r) := by
    have hzero : hexValue 0x30 = some 0 := by decide
    simp only [getCodepoint, hzero, hexValue_hexDigit (show b.toNat / 16 < 16 by omega),
      hexValue_hexDigit (show b.toNat % 16 < 16 by omega), Option.bind_eq_bind,
      Option.bind_some, Option.pure_def, Option.some.injEq, Prod.mk.injEq, and_true]
    omega
  have hhigh : ¬(0xD800 ≤ b.toNat ∧ b.toNat ≤ 0xDBFF) := by omega
  have hlow : ¬(0xDC00 ≤ b.toNat ∧ b.toNat ≤ 0xDFFF) := by omega
  have hescape : scanEscape
      (0x75 :: 0x30 :: 0x30 :: hexDigit (b.toNat / 16) :: hexDigit (b.toNat % 16) :: r) =
        scanUnicodeEscape
          (0x30 :: 0x30 :: hexDigit (b.toNat / 16) :: hexDigit (b.toNat % 16) :: r) := by
    simp [scanEscape]
  rw [hescape]
  simp [scanUnicodeEscape, hcode, hhigh, hlow, codepointBytes_toNat hb]

/-- A character of one byte is read back from its escape, which is no closing quote. -/
theorem scanCharacter_escapeAscii {b : UInt8} (hb : b < 0x80) (r : Text) :
    scanCharacter (escapeAscii b ++ r) = some ([b], r) ∧
      (escapeAscii b ++ r).head? ≠ some 0x22 := by
  unfold escapeAscii
  split_ifs with h08 h09 h0a h0c h0d h22 h5c hcontrol
  · subst h08
    exact ⟨rfl, by simp [ascii]⟩
  · subst h09
    exact ⟨rfl, by simp [ascii]⟩
  · subst h0a
    exact ⟨rfl, by simp [ascii]⟩
  · subst h0c
    exact ⟨rfl, by simp [ascii]⟩
  · subst h0d
    exact ⟨rfl, by simp [ascii]⟩
  · subst h22
    exact ⟨rfl, by simp [ascii]⟩
  · subst h5c
    exact ⟨rfl, by simp [ascii]⟩
  · exact ⟨scanEscape_control hb r, by simp [ascii]⟩
  · refine ⟨?_, by simpa using h22⟩
    simp [scanCharacter, h5c, hcontrol, hb]

/-- What the loop adds for a character that is no escape and has several bytes. -/
theorem scanCharacter_lead {b : UInt8} (hb : ¬b < 0x80) (text : Text) :
    scanCharacter (b :: text) = do
      let next ← decode .accept b
      let (added, rest) ← nextByteInRange next.ranges text
      return (b :: added, rest) := by
  have hescape : b ≠ 0x5C := by
    rintro rfl
    exact hb (by decide)
  have hcontrol : ¬b ≤ 0x1F := fun h => hb (UInt8.lt_of_le_of_lt h (by decide))
  simp only [scanCharacter, hescape, hcontrol, hb, if_false, continuationRanges_eq b hb]
  cases decode .accept b with
  | none => rfl
  | some next => rfl

/-! ## Strings -/

theorem length_le_dumpEscaped {s escaped : Text} {state : Utf8State}
    (h : dumpEscaped state s = .ok escaped) : s.length ≤ escaped.length := by
  induction s generalizing state escaped with
  | nil => simp
  | cons b s ih =>
      simp only [dumpEscaped] at h
      cases hdecode : decode state b with
      | none => simp [hdecode] at h
      | some next =>
          simp only [hdecode] at h
          obtain ⟨others, hothers, h⟩ := Foundation.except_bind_eq_ok h
          cases h
          have hrest := ih hothers
          have hpos : 0 < (escapeAscii b).length := by
            unfold escapeAscii
            split_ifs <;> simp [ascii]
          simp only [List.length_cons, List.length_append]
          split
          · omega
          · simp only [List.length_singleton]
            omega

/-- The loop reads a string back from its dump, whatever follows the closing quote. -/
theorem scanStringLoop_dumpEscaped {s escaped : Text} (h : dumpEscaped .accept s = .ok escaped)
    {fuel : ℕ} (hfuel : s.length < fuel) (r : Text) :
    scanStringLoop fuel (escaped ++ 0x22 :: r) = some (s, r) := by
  induction fuel generalizing s escaped with
  | zero => omega
  | succ fuel ih =>
      cases s with
      | nil =>
          cases h
          rfl
      | cons b s =>
          simp only [List.length_cons] at hfuel
          simp only [dumpEscaped] at h
          cases hdecode : decode .accept b with
          | none => simp [hdecode] at h
          | some next =>
              simp only [hdecode] at h
              obtain ⟨others, hothers, h⟩ := Foundation.except_bind_eq_ok h
              cases h
              by_cases hnext : next = .accept
              · subst hnext
                obtain ⟨hscan, hhead⟩ :=
                  scanCharacter_escapeAscii (decode_accept_accept hdecode) (others ++ 0x22 :: r)
                have hrest := ih hothers (by omega)
                simp only [true_and, if_true, List.append_assoc, scanStringLoop]
                rw [if_neg hhead, hscan]
                simp [hrest]
              · have hb : ¬b < 0x80 := fun hb => hnext (decode_of_ascii hb hdecode).2
                have hquote : b ≠ 0x22 := by
                  rintro rfl
                  exact hb (by decide)
                -- The rest of the character is taken in the same turn.
                obtain ⟨added, s', escaped', rfl, rfl, haccept, htake⟩ :=
                  dumpEscaped_continuation hothers
                have hrest := ih haccept (by simp only [List.length_append] at hfuel; omega)
                have hscan : scanCharacter (b :: (added ++ (escaped' ++ 0x22 :: r))) =
                    some (b :: added, escaped' ++ 0x22 :: r) := by
                  rw [scanCharacter_lead hb, hdecode]
                  simp [htake]
                simp only [hnext, and_false, if_false, List.append_assoc, List.cons_append,
                  List.nil_append, scanStringLoop, List.head?_cons, Option.some.injEq, hquote]
                rw [hscan]
                simp [hrest]

/-- `scan_string` reads back what `dump_escaped` printed. -/
theorem scanString_dumpEscaped {s escaped : Text} (h : dumpEscaped .accept s = .ok escaped)
    (r : Text) : scanString (escaped ++ 0x22 :: r) = some (s, r) := by
  refine scanStringLoop_dumpEscaped h ?_ r
  have hlength := length_le_dumpEscaped h
  simp only [List.length_append]
  omega

/-! ### What a string token holds -/

theorem validUtf8_codepointBytes {codepoint : ℕ} (hmax : codepoint ≤ 0x10FFFF)
    (hsurrogate : ¬(0xD800 ≤ codepoint ∧ codepoint ≤ 0xDFFF)) :
    ValidUtf8 (codepointBytes codepoint) := by
  have htail : ∀ k : Fin 64, between 0x80 0xBF (UInt8.ofNat (0x80 + k)) = true := by
    decide +kernel
  have htail' (k : ℕ) : between 0x80 0xBF (UInt8.ofNat (0x80 + k % 64)) = true :=
    htail ⟨k % 64, by omega⟩
  have htail1 (k : ℕ) : decode .tail1 (UInt8.ofNat (0x80 + k % 64)) = some .accept :=
    if_pos (htail' k)
  have htail2 (k : ℕ) : decode .tail2 (UInt8.ofNat (0x80 + k % 64)) = some .tail1 :=
    if_pos (htail' k)
  have hlead2 : ∀ n : Fin 32, 2 ≤ n.val →
      decode .accept (UInt8.ofNat (0xC0 + n)) = some .tail1 := by
    decide +kernel
  have hlead3 : ∀ n : Fin 16, ∀ k : Fin 64, (n.val = 0 → 32 ≤ k.val) →
      (n.val = 13 → k.val < 32) →
      [UInt8.ofNat (0xE0 + n), UInt8.ofNat (0x80 + k)].foldlM decode .accept = some .tail1 := by
    decide +kernel
  have hlead4 : ∀ n : Fin 5, ∀ k : Fin 64, (n.val = 0 → 16 ≤ k.val) →
      (n.val = 4 → k.val < 16) →
      [UInt8.ofNat (0xF0 + n), UInt8.ofNat (0x80 + k)].foldlM decode .accept = some .tail2 := by
    decide +kernel
  unfold codepointBytes
  split_ifs with h1 h2 h3
  · refine validUtf8_of_ascii fun b hb => ?_
    rw [List.mem_singleton.mp hb, UInt8.lt_iff_toNat_lt, UInt8.toNat_ofNat']
    exact Nat.lt_of_le_of_lt (Nat.mod_le _ _) h1
  · have hlead := hlead2 ⟨codepoint / 64, by omega⟩ (by simp only; omega)
    simp only at hlead
    simp only [ValidUtf8, List.foldlM_cons, List.foldlM_nil, hlead, htail1, Option.bind_eq_bind,
      Option.bind_some]
    rfl
  · have hlead := hlead3 ⟨codepoint / 4096, by omega⟩ ⟨codepoint / 64 % 64, by omega⟩
      (by simp only; omega) (by simp only; omega)
    simp only at hlead
    have hsplit : ∀ x y z : UInt8, [x, y, z] = [x, y] ++ [z] := fun x y z => rfl
    rw [ValidUtf8, hsplit, List.foldlM_append, hlead]
    simp only [List.foldlM_cons, List.foldlM_nil, htail1, Option.bind_eq_bind, Option.bind_some]
    rfl
  · have hlead := hlead4 ⟨codepoint / 262144, by omega⟩ ⟨codepoint / 4096 % 64, by omega⟩
      (by simp only; omega) (by simp only; omega)
    simp only at hlead
    have hsplit : ∀ x y z w : UInt8, [x, y, z, w] = [x, y] ++ [z, w] := fun x y z w => rfl
    rw [ValidUtf8, hsplit, List.foldlM_append, hlead]
    simp only [List.foldlM_cons, List.foldlM_nil, htail2, htail1, Option.bind_eq_bind,
      Option.bind_some]
    rfl

theorem getCodepoint_le {text rest : Text} {codepoint : ℕ}
    (h : getCodepoint text = some (codepoint, rest)) :
    codepoint ≤ 0xFFFF ∧ rest.length < text.length := by
  have hdigit : ∀ {b : UInt8} {n : ℕ}, hexValue b = some n → n < 16 := by
    intro b n hn
    simp only [hexValue, between, Bool.and_eq_true, decide_eq_true_eq, UInt8.le_iff_toNat_le] at hn
    split_ifs at hn with h1 h2 h3
    · cases hn
      have : b.toNat ≤ 0x39 := h1.2
      omega
    · cases hn
      have : b.toNat ≤ 0x46 := h2.2
      omega
    · cases hn
      have : b.toNat ≤ 0x66 := h3.2
      omega
  unfold getCodepoint at h
  split at h
  · obtain ⟨na, ha, h⟩ := Option.bind_eq_some_iff.mp h
    obtain ⟨nb, hb, h⟩ := Option.bind_eq_some_iff.mp h
    obtain ⟨nc, hc, h⟩ := Option.bind_eq_some_iff.mp h
    obtain ⟨nd, hd, h⟩ := Option.bind_eq_some_iff.mp h
    cases h
    have ha := hdigit ha
    have hb := hdigit hb
    have hc := hdigit hc
    have hd := hdigit hd
    exact ⟨by omega, by simp only [List.length_cons]; omega⟩
  · cases h

/-- An escaped code point is a scalar value, so its bytes are valid. -/
theorem scanUnicodeEscape_valid {text added rest : Text}
    (h : scanUnicodeEscape text = some (added, rest)) :
    ValidUtf8 added ∧ rest.length < text.length := by
  simp only [scanUnicodeEscape] at h
  obtain ⟨⟨codepoint1, rest1⟩, hfirst, h⟩ := Option.bind_eq_some_iff.mp h
  obtain ⟨hle, hlength⟩ := getCodepoint_le hfirst
  simp only at h
  split_ifs at h with hhigh hlow
  · split at h
    · next rest2 =>
        obtain ⟨⟨codepoint2, rest3⟩, hsecond, h⟩ := Option.bind_eq_some_iff.mp h
        obtain ⟨-, hlength2⟩ := getCodepoint_le hsecond
        simp only at h
        split_ifs at h with hpair
        rw [Option.pure_def, Option.some.injEq, Prod.mk.injEq] at h
        obtain ⟨rfl, rfl⟩ := h
        simp only [List.length_cons] at hlength
        exact ⟨validUtf8_codepointBytes (by omega) (by omega), by omega⟩
    · cases h
  · cases h
    exact ⟨validUtf8_codepointBytes (by omega) (by omega), hlength⟩

theorem scanEscape_valid {text added rest : Text} (h : scanEscape text = some (added, rest)) :
    ValidUtf8 added ∧ rest.length < text.length := by
  cases text with
  | nil => cases h
  | cons b text =>
      simp only [scanEscape] at h
      split_ifs at h with hself
      · cases h
        refine ⟨validUtf8_of_ascii fun c hc => ?_, by simp⟩
        rw [List.mem_singleton.mp hc]
        rcases hself with rfl | rfl | rfl
        · decide
        · decide
        · decide
      · cases h
        exact ⟨rfl, by simp⟩
      · cases h
        exact ⟨rfl, by simp⟩
      · cases h
        exact ⟨rfl, by simp⟩
      · cases h
        exact ⟨rfl, by simp⟩
      · cases h
        exact ⟨rfl, by simp⟩
      · obtain ⟨hvalid, hlength⟩ := scanUnicodeEscape_valid h
        exact ⟨hvalid, by simp only [List.length_cons]; omega⟩

/-- A turn of the loop adds a valid text and reads at least one byte. -/
theorem scanCharacter_valid {text added rest : Text}
    (h : scanCharacter text = some (added, rest)) :
    ValidUtf8 added ∧ rest.length < text.length := by
  cases text with
  | nil => cases h
  | cons b text =>
      by_cases hb : b < 0x80
      · simp only [scanCharacter, hb, if_true] at h
        split_ifs at h
        · obtain ⟨hvalid, hlength⟩ := scanEscape_valid h
          exact ⟨hvalid, by simp only [List.length_cons]; omega⟩
        · cases h
          exact ⟨validUtf8_of_ascii (by simpa using hb), by simp⟩
      · rw [scanCharacter_lead hb] at h
        obtain ⟨next, hdecode, h⟩ := Option.bind_eq_some_iff.mp h
        obtain ⟨⟨taken, rest'⟩, htaken, h⟩ := Option.bind_eq_some_iff.mp h
        cases h
        obtain ⟨hvalid, htext⟩ := decode_nextByteInRange htaken
        refine ⟨?_, ?_⟩
        · rw [ValidUtf8, List.foldlM_cons, hdecode]
          exact hvalid
        · rw [htext]
          simp only [List.length_cons, List.length_append]
          omega

theorem scanStringLoop_valid {fuel : ℕ} {text s rest : Text}
    (h : scanStringLoop fuel text = some (s, rest)) :
    ValidUtf8 s ∧ rest.length < text.length := by
  induction fuel generalizing text s with
  | zero => cases h
  | succ fuel ih =>
      simp only [scanStringLoop] at h
      split_ifs at h with hquote
      · cases h
        cases text with
        | nil => cases hquote
        | cons b text => exact ⟨rfl, by simp⟩
      · obtain ⟨⟨added, rest1⟩, hadded, h⟩ := Option.bind_eq_some_iff.mp h
        obtain ⟨⟨others, rest2⟩, hothers, h⟩ := Option.bind_eq_some_iff.mp h
        cases h
        obtain ⟨hvalid, hlength⟩ := scanCharacter_valid hadded
        obtain ⟨hrest, hlength'⟩ := ih hothers
        exact ⟨(hvalid.append_iff others).mpr hrest, hlength'.trans hlength⟩

/-! ## Numbers -/

/-- No byte that continues a number comes next. -/
def EndsNumber (r : Text) : Prop :=
  ∀ b ∈ r.head?, isDigit b = false ∧ b ≠ 0x2E ∧ NumberState.isExponentMark b = false

theorem next_of_endsNumber {state : NumberState} (hdone : state.isDone = true) {b : UInt8} {r : Text}
    (h : EndsNumber (b :: r)) : state.next b = none := by
  obtain ⟨hdigit, hpoint, hmark⟩ := h b rfl
  cases state with
  | zero => simp [NumberState.next, hpoint, hmark]
  | any1 => simp [NumberState.next, hdigit, hpoint, hmark]
  | decimal2 => simp [NumberState.next, hdigit, hmark]
  | any2 => simp [NumberState.next, hdigit]
  | _ => cases hdone

/-- A number that takes a whole text is read the same way in front of anything that ends it. -/
theorem scanNumberFrom_append {state : NumberState} {type type' : NumberType} {s buffer r : Text}
    (h : scanNumberFrom state type s = some (type', buffer, [])) (hr : EndsNumber r) :
    scanNumberFrom state type (s ++ r) = some (type', buffer, r) := by
  induction s generalizing state type buffer with
  | nil =>
      simp only [scanNumberFrom] at h
      split_ifs at h with hdone
      cases h
      cases r with
      | nil => simp [scanNumberFrom, hdone]
      | cons b r => simp [scanNumberFrom, next_of_endsNumber hdone hr, hdone]
  | cons b s ih =>
      simp only [scanNumberFrom] at h
      cases hnext : state.next b with
      | none =>
          simp only [hnext] at h
          split_ifs at h
          cases h
      | some next =>
          simp only [hnext] at h
          obtain ⟨⟨type1, buffer1, rest1⟩, hrest, h⟩ := Option.bind_eq_some_iff.mp h
          cases h
          simp [scanNumberFrom, hnext, ih hrest]

theorem scanNumberFrom_digits {ds : Text} (hds : ∀ d ∈ ds, isDigit d = true) (type : NumberType) :
    scanNumberFrom .any1 type ds = some (type, ds, []) := by
  induction ds with
  | nil => rfl
  | cons d ds ih =>
      have hd : isDigit d = true := hds d (by simp)
      have hrest := ih fun e he => hds e (by simp [he])
      simp [scanNumberFrom, NumberState.next, hd, NumberState.numberType, hrest]

theorem length_scanNumberFrom {state : NumberState} {type type' : NumberType}
    {s buffer rest : Text} (h : scanNumberFrom state type s = some (type', buffer, rest)) :
    rest.length ≤ s.length := by
  induction s generalizing state type buffer with
  | nil =>
      simp only [scanNumberFrom] at h
      split_ifs at h
      cases h
      simp
  | cons b s ih =>
      simp only [scanNumberFrom] at h
      cases hnext : state.next b with
      | none =>
          simp only [hnext] at h
          split_ifs at h
          cases h
          simp
      | some next =>
          simp only [hnext] at h
          obtain ⟨⟨type1, buffer1, rest1⟩, hrest, h⟩ := Option.bind_eq_some_iff.mp h
          cases h
          exact (ih hrest).trans (Nat.le_succ _)

/-- A positive number is printed without leading zeros. -/
theorem decimalNat_head {m : ℕ} (hm : 0 < m) : ∃ b ds, decimalNat m = b :: ds ∧ b ≠ 0x30 := by
  have hne : Nat.digits 10 m ≠ [] := Nat.digits_ne_nil_iff_ne_zero.mpr (by omega)
  have hlast := Nat.getLast_digit_ne_zero 10 (m := m) (by omega)
  obtain ⟨front, last, hdigits⟩ := List.eq_nil_or_concat' (Nat.digits 10 m) |>.resolve_left hne
  have hlast' : last ≠ 0 := by
    simpa [hdigits] using hlast
  have hlt : last < 10 := Nat.digits_lt_base (by decide) (by simp [hdigits] : last ∈ Nat.digits 10 m)
  refine ⟨UInt8.ofNat (48 + last), _, by simp [decimalNat, hdigits, show m ≠ 0 by omega]; rfl, ?_⟩
  intro heq
  have hvalue := congrArg UInt8.toNat heq
  rw [UInt8.toNat_ofNat', Nat.mod_eq_of_lt (by omega)] at hvalue
  have hzero : (0x30 : UInt8).toNat = 48 := rfl
  omega

section

variable (strtod : Text → Option (ℚ × FloatText))

/-- The token of a printed integer. -/
def integerToken (z : ℤ) : Token :=
  if z < 0 then .valueInteger z else .valueUnsigned z.toNat

theorem scanNumber_digits {m : ℕ} (hm : m < 2 ^ 64) {r : Text} (hr : EndsNumber r) :
    ∃ b ds, decimalNat m = b :: ds ∧ isDigit b = true ∧
      scanNumber strtod b (ds ++ r) = (.valueUnsigned m, r) := by
  have hvalue := digitsValue_decimalNat m
  by_cases hzero : m = 0
  · subst hzero
    have hscan := @scanNumberFrom_append .zero .unsigned .unsigned [] [] r rfl hr
    refine ⟨48, [], rfl, rfl, ?_⟩
    have hminus : (48 : UInt8) ≠ 0x2D := by decide
    simp only [scanNumber, hminus, if_false, if_true, NumberState.numberType, hscan]
    rfl
  · obtain ⟨b, ds, hcons, hb⟩ := decimalNat_head (Nat.pos_of_ne_zero hzero)
    have hdigits := decimalNat_digits m
    rw [hcons] at hdigits hvalue
    have hdigit : isDigit b = true := hdigits b (by simp)
    have hminus : b ≠ 0x2D := by
      rintro rfl
      cases hdigit
    have hscan := scanNumberFrom_append
      (scanNumberFrom_digits (fun d hd => hdigits d (List.mem_cons_of_mem _ hd)) .unsigned) hr
    refine ⟨b, ds, hcons, hdigit, ?_⟩
    simp only [scanNumber, hminus, hb, if_false, NumberState.numberType, hscan, convertNumber,
      hvalue, hm, if_true]

theorem scanNumber_minus {m : ℕ} (hpos : 0 < m) (hm : m ≤ 2 ^ 63) {r : Text} (hr : EndsNumber r) :
    scanNumber strtod 0x2D (decimalNat m ++ r) = (.valueInteger (-m), r) := by
  have hvalue := digitsValue_decimalNat m
  obtain ⟨b, ds, hcons, hb⟩ := decimalNat_head hpos
  have hdigits := decimalNat_digits m
  rw [hcons] at hdigits hvalue
  have hdigit : isDigit b = true := hdigits b (by simp)
  have hscan := scanNumberFrom_append
    (scanNumberFrom_digits (fun d hd => hdigits d (List.mem_cons_of_mem _ hd)) .integer) hr
  simp only [scanNumber, if_true, hcons, List.cons_append, scanNumberFrom, NumberState.next, hb,
    hdigit, if_false, NumberState.numberType, hscan, Option.bind_eq_bind, Option.bind_some,
    Option.pure_def, convertNumber, List.tail_cons, hvalue, hm]

/-- `scan_number` reads back an integer of 64 bits. -/
theorem scanNumber_decimal {z : ℤ} (hlow : -2 ^ 63 ≤ z) (hhigh : z < 2 ^ 64) {r : Text}
    (hr : EndsNumber r) : ∃ b ds, decimal z = b :: ds ∧ (b = 0x2D ∨ isDigit b = true) ∧
      scanNumber strtod b (ds ++ r) = (integerToken z, r) := by
  by_cases hneg : z < 0
  · have hscan := scanNumber_minus strtod (m := z.natAbs) (by omega) (by omega) hr
    refine ⟨0x2D, decimalNat z.natAbs, by simp [decimal, hneg], .inl rfl, ?_⟩
    rw [hscan, integerToken, if_pos hneg, show -(z.natAbs : ℤ) = z by omega]
  · obtain ⟨b, ds, hcons, hdigit, hscan⟩ :=
      scanNumber_digits strtod (m := z.natAbs) (by omega) hr
    refine ⟨b, ds, by simpa [decimal, hneg] using hcons, .inr hdigit, ?_⟩
    rw [hscan, integerToken, if_neg hneg, show z.natAbs = z.toNat by omega]

/-! ## Tokens -/

/-- A digit or a minus starts a number and nothing else. -/
theorem scan_number {b : UInt8} (hb : b = 0x2D ∨ isDigit b = true) (rest : Text) :
    scan strtod (b :: rest) = scanNumber strtod b rest := by
  have hall : ∀ n : Fin 256, (UInt8.ofNat n.val = 0x2D ∨ isDigit (UInt8.ofNat n.val) = true) →
      isJsonSpace (UInt8.ofNat n.val) = false ∧
        UInt8.ofNat n.val ∉ [0x5B, 0x5D, 0x7B, 0x7D, 0x3A, 0x2C, 0x74, 0x66, 0x6E, 0x22] := by
    decide +kernel
  obtain ⟨hspace, hother⟩ := hall ⟨b.toNat, b.toNat_lt⟩ (by simpa using hb)
  simp only [UInt8.ofNat_toNat, List.mem_cons, List.not_mem_nil, or_false, not_or] at hspace hother
  simp [scan, skipWhitespace, scanToken, hspace, hother, hb]

theorem scan_decimal {z : ℤ} (hlow : -2 ^ 63 ≤ z) (hhigh : z < 2 ^ 64) {r : Text}
    (hr : EndsNumber r) : scan strtod (decimal z ++ r) = (integerToken z, r) := by
  obtain ⟨b, ds, hcons, hb, hscan⟩ := scanNumber_decimal strtod hlow hhigh hr
  rw [hcons, List.cons_append, scan_number strtod hb, hscan]

theorem scan_dumpString {s text : Text} (h : dumpString s = .ok text) (r : Text) :
    scan strtod (text ++ r) = (.valueString s, r) := by
  obtain ⟨escaped, hescaped, h⟩ := Foundation.except_bind_eq_ok h
  cases h
  have hscan := scanString_dumpEscaped hescaped r
  have htext : ascii "\"" ++ escaped ++ ascii "\"" ++ r = 0x22 :: (escaped ++ 0x22 :: r) := by
    simp [ascii]
  rw [htext]
  simp [scan, skipWhitespace, scanToken, isJsonSpace, hscan]

/-- The lexer reads the printed text of a floating-point number as that number. -/
def ReadsFloat (value : ℚ) (text : FloatText) : Prop :=
  scan strtod text.bytes = (.valueFloat value text, [])

variable {strtod}

theorem scanNumber_append {b : UInt8} {rest r : Text} {token : Token}
    (h : scanNumber strtod b rest = (token, [])) (htoken : token ≠ .parseError)
    (hr : EndsNumber r) : scanNumber strtod b (rest ++ r) = (token, r) := by
  unfold scanNumber at h ⊢
  dsimp only at h ⊢
  split at h
  · next type buffer rest' hscan =>
      rw [Prod.mk.injEq] at h
      obtain ⟨rfl, rfl⟩ := h
      rw [scanNumberFrom_append hscan hr]
  · cases h
    exact absurd rfl htoken

theorem scan_readsFloat {value : ℚ} {text : FloatText} (h : ReadsFloat strtod value text) {r : Text}
    (hr : EndsNumber r) : scan strtod (text.bytes ++ r) = (.valueFloat value text, r) := by
  obtain ⟨bytes, printed⟩ := text
  unfold ReadsFloat at h
  dsimp only at h ⊢
  cases bytes with
  | nil => cases h
  | cons b rest =>
      by_cases hb : b = 0x2D ∨ isDigit b = true
      · rw [scan_number strtod hb] at h
        rw [List.cons_append, scan_number strtod hb]
        exact scanNumber_append h (by simp) hr
      · have hother : b ∈ ascii "+.e" := by
          rcases printed b (by simp) with hdigit | hmem
          · exact absurd (.inr hdigit) hb
          · simp only [ascii, String.reduceToList, List.map_cons, List.map_nil, List.mem_cons,
              List.not_mem_nil, or_false] at hmem ⊢
            rcases hmem with rfl | rfl | rfl | rfl
            · exact .inl rfl
            · exact absurd (.inl rfl) hb
            · exact .inr (.inl rfl)
            · exact .inr (.inr rfl)
        simp only [ascii, String.reduceToList, List.map_cons, List.map_nil, List.mem_cons,
          List.not_mem_nil, or_false] at hother
        rcases hother with rfl | rfl | rfl
        · cases h
        · cases h
        · cases h

/-! ### What a token holds -/

variable (strtod) in
/-- What is printed for the result of a conversion is read back as that result. -/
def PrintsReadably : Prop :=
  ∀ buffer value text, strtod buffer = some (value, text) → ReadsFloat strtod value text

variable (strtod) in
/-- The values of tokens are those of the types of the library: strings are valid, integers have
64 bits. -/
def Token.InRange : Token → Prop
  | .valueString s => ValidUtf8 s
  | .valueUnsigned n => n < 2 ^ 64
  | .valueInteger n => -2 ^ 63 ≤ n ∧ n < 2 ^ 63
  | .valueFloat value text => ReadsFloat strtod value text
  | _ => True

theorem floatToken_inRange (hstrtod : PrintsReadably strtod) (buffer : Text) :
    (floatToken strtod buffer).InRange strtod := by
  unfold floatToken
  split
  · next value text h => exact hstrtod buffer value text h
  · trivial

theorem convertNumber_inRange (hstrtod : PrintsReadably strtod) (type : NumberType) (buffer : Text) :
    (convertNumber strtod type buffer).InRange strtod := by
  unfold convertNumber
  cases type with
  | unsigned =>
      dsimp only
      split
      · assumption
      · exact floatToken_inRange hstrtod buffer
  | integer =>
      dsimp only
      split
      · simp only [Token.InRange]
        omega
      · exact floatToken_inRange hstrtod buffer
  | float => exact floatToken_inRange hstrtod buffer

theorem scanNumber_inRange (hstrtod : PrintsReadably strtod) (b : UInt8) (rest : Text) :
    (scanNumber strtod b rest).1.InRange strtod := by
  unfold scanNumber
  dsimp only
  split
  · exact convertNumber_inRange hstrtod _ _
  · trivial

theorem scanLiteral_cases (literal : String) (token : Token) (rest : Text) :
    scanLiteral literal token rest = (token, rest.drop (ascii literal).length) ∨
      scanLiteral literal token rest = (.parseError, []) := by
  unfold scanLiteral
  split
  · exact .inl rfl
  · exact .inr rfl

/-- What the `switch` does with a byte and the text after it. -/
theorem scanToken_cases (b : UInt8) (rest : Text) :
    (∃ token ∈ [Token.beginArray, .endArray, .beginObject, .endObject, .nameSeparator,
        .valueSeparator, .endOfInput], scanToken strtod b rest = (token, rest)) ∨
      (∃ literal, ∃ token ∈ [Token.literalTrue, .literalFalse, .literalNull],
        scanToken strtod b rest = scanLiteral literal token rest) ∨
      (∃ s rest', scanString rest = some (s, rest') ∧
        scanToken strtod b rest = (.valueString s, rest')) ∨
      scanToken strtod b rest = scanNumber strtod b rest ∨
      scanToken strtod b rest = (.parseError, []) := by
  by_cases hstructural : b ∈ [0x5B, 0x5D, 0x7B, 0x7D, 0x3A, 0x2C, 0]
  · simp only [List.mem_cons, List.not_mem_nil, or_false] at hstructural
    rcases hstructural with rfl | rfl | rfl | rfl | rfl | rfl | rfl
    · exact .inl ⟨.beginArray, by simp, rfl⟩
    · exact .inl ⟨.endArray, by simp, rfl⟩
    · exact .inl ⟨.beginObject, by simp, rfl⟩
    · exact .inl ⟨.endObject, by simp, rfl⟩
    · exact .inl ⟨.nameSeparator, by simp, rfl⟩
    · exact .inl ⟨.valueSeparator, by simp, rfl⟩
    · exact .inl ⟨.endOfInput, by simp, rfl⟩
  by_cases hletter : b ∈ [0x74, 0x66, 0x6E]
  · simp only [List.mem_cons, List.not_mem_nil, or_false] at hletter
    rcases hletter with rfl | rfl | rfl
    · exact .inr (.inl ⟨"rue", .literalTrue, by simp, rfl⟩)
    · exact .inr (.inl ⟨"alse", .literalFalse, by simp, rfl⟩)
    · exact .inr (.inl ⟨"ull", .literalNull, by simp, rfl⟩)
  simp only [List.mem_cons, List.not_mem_nil, or_false, not_or] at hstructural hletter
  by_cases hquote : b = 0x22
  · subst hquote
    cases hscan : scanString rest with
    | none =>
        refine .inr (.inr (.inr (.inr ?_)))
        simp [scanToken, hscan]
    | some result =>
        refine .inr (.inr (.inl ⟨result.1, result.2, rfl, ?_⟩))
        simp [scanToken, hscan]
  by_cases hnumber : b = 0x2D ∨ isDigit b = true
  · refine .inr (.inr (.inr (.inl ?_)))
    simp [scanToken, hstructural, hletter, hquote, hnumber]
  · refine .inr (.inr (.inr (.inr ?_)))
    simp [scanToken, hstructural, hletter, hquote, hnumber]

theorem scan_inRange (hstrtod : PrintsReadably strtod) (text : Text) :
    (scan strtod text).1.InRange strtod := by
  unfold scan
  cases skipWhitespace text with
  | nil => trivial
  | cons b rest =>
      dsimp only
      rcases @scanToken_cases strtod b rest with
        ⟨token, htoken, h⟩ | ⟨literal, token, htoken, h⟩ | ⟨s, rest', hscan, h⟩ | h | h
      · rw [h]
        simp only [List.mem_cons, List.not_mem_nil, or_false] at htoken
        rcases htoken with rfl | rfl | rfl | rfl | rfl | rfl | rfl <;> trivial
      · rw [h]
        rcases scanLiteral_cases literal token rest with h | h
        · rw [h]
          simp only [List.mem_cons, List.not_mem_nil, or_false] at htoken
          rcases htoken with rfl | rfl | rfl <;> trivial
        · rw [h]
          trivial
      · rw [h]
        exact (scanStringLoop_valid hscan).1
      · rw [h]
        exact scanNumber_inRange hstrtod b rest
      · rw [h]
        trivial

/-- Some text was read for a token, unless it is the end of the input. -/
theorem length_scan {text : Text} (hend : (scan strtod text).1 ≠ .endOfInput) :
    (scan strtod text).2.length < text.length := by
  have hdrop : (skipWhitespace text).length ≤ text.length := (List.dropWhile_suffix _).length_le
  unfold scan at hend ⊢
  cases hskip : skipWhitespace text with
  | nil => simp [hskip] at hend
  | cons b rest =>
      rw [hskip, List.length_cons] at hdrop
      simp only [hskip] at hend ⊢
      refine Nat.lt_of_lt_of_le (Nat.lt_succ_of_le ?_) hdrop
      rcases @scanToken_cases strtod b rest with
        ⟨token, -, h⟩ | ⟨literal, token, -, h⟩ | ⟨s, rest', hscan, h⟩ | h | h
      · rw [h]
      · rw [h]
        rcases scanLiteral_cases literal token rest with h | h
        · simp [h]
        · simp [h]
      · rw [h]
        exact (scanStringLoop_valid hscan).2.le
      · rw [h]
        unfold scanNumber
        dsimp only
        split
        · next hscan => exact length_scanNumberFrom hscan
        · simp
      · simp [h]

end

end Json

end AgentMemory
