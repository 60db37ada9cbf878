import AgentMemory.Foundation.Program
import AgentMemory.Model.Json

/-! # What a dump consists of

A dump holds no NUL byte, so that it is bound to a statement as a whole. -/

namespace AgentMemory

open Foundation

namespace Json

theorem hexDigit_ne_zero {n : ℕ} (h : n < 16) : hexDigit n ≠ 0 := by
  have hall : ∀ n : Fin 16, hexDigit n ≠ 0 := by decide
  exact hall ⟨n, h⟩

theorem zero_notMem_escapeAscii (b : UInt8) : 0 ∉ escapeAscii b := by
  have hb := b.toNat_lt
  unfold escapeAscii
  split_ifs with _ _ _ _ _ _ _ hcontrol
  · decide
  · decide
  · decide
  · decide
  · decide
  · decide
  · decide
  · simp only [List.mem_append, List.mem_cons, List.not_mem_nil, or_false, not_or]
    exact ⟨by decide, (hexDigit_ne_zero (by omega)).symm, (hexDigit_ne_zero (by omega)).symm⟩
  · rw [List.mem_singleton]
    rintro rfl
    exact hcontrol (by decide)

/-- Outside a single ASCII character the decoder consumes no NUL. -/
theorem ne_zero_of_decode {state next : Utf8State} {b : UInt8} (h : decode state b = some next)
    (hstate : ¬(state = .accept ∧ next = .accept)) : b ≠ 0 := by
  rintro rfl
  cases state with
  | accept =>
      cases h
      exact hstate ⟨rfl, rfl⟩
  | _ => cases h

theorem zero_notMem_dumpEscaped {s text : Text} {state : Utf8State}
    (h : dumpEscaped state s = .ok text) : 0 ∉ text := by
  induction s generalizing state text with
  | nil =>
      simp only [dumpEscaped] at h
      split at h
      · cases h
        simp
      · cases h
  | cons b rest ih =>
      simp only [dumpEscaped] at h
      split at h
      · cases h
      · next next hdecode =>
          cases hrest : dumpEscaped next rest with
          | error e =>
              rw [hrest] at h
              cases h
          | ok others =>
              rw [hrest] at h
              cases h
              rw [List.mem_append, not_or]
              refine ⟨?_, ih hrest⟩
              split
              · exact zero_notMem_escapeAscii b
              · next hstate => simpa using (ne_zero_of_decode hdecode hstate).symm

theorem zero_notMem_dumpString {s text : Text} (h : dumpString s = .ok text) : 0 ∉ text := by
  unfold dumpString at h
  cases hescaped : dumpEscaped .accept s with
  | error e =>
      rw [hescaped] at h
      cases h
  | ok escaped =>
      rw [hescaped] at h
      cases h
      have hquote : 0 ∉ ascii "\"" := by decide
      simp [hquote, zero_notMem_dumpEscaped hescaped]

/-! ## Properties of all parts -/

theorem digit_ascii {b : UInt8} (h : isDigit b = true) : 0 < b ∧ b < 0x80 := by
  simp only [isDigit, Bool.and_eq_true, decide_eq_true_eq] at h
  exact ⟨UInt8.lt_of_lt_of_le (by decide) h.1, UInt8.lt_of_le_of_lt h.2 (by decide)⟩

/-- A literal of the source unifies with the list of its characters. -/
theorem mem_ascii (chars : List Char)
    (h : chars.all (fun c => 0 < c.toNat && c.toNat < 128) = true) :
    ∀ b ∈ ascii (String.ofList chars), 0 < b ∧ b < 0x80 := by
  intro b hb
  rw [ascii, String.toList_ofList] at hb
  obtain ⟨c, hc, rfl⟩ := List.mem_map.mp hb
  have hchar := List.all_eq_true.mp h c hc
  simp only [Bool.and_eq_true, decide_eq_true_eq] at hchar
  have hmod : c.toNat % 2 ^ 8 = c.toNat := Nat.mod_eq_of_lt (by omega)
  rw [UInt8.lt_iff_toNat_lt, UInt8.lt_iff_toNat_lt, UInt8.toNat_ofNat', hmod]
  exact hchar

theorem printed_ascii {b : UInt8} (h : isDigit b = true ∨ b ∈ ascii "+-.e") :
    0 < b ∧ b < 0x80 := by
  rcases h with h | h
  · exact digit_ascii h
  · exact mem_ascii _ (by decide) b h

/-- A property of strings and of ASCII characters that concatenation keeps. -/
structure HoldsOfParts (P : Text → Prop) : Prop where
  nil : P []
  append : ∀ s t, P s → P t → P (s ++ t)
  ascii : ∀ b : UInt8, 0 < b → b < 0x80 → P [b]
  string : ∀ s text, dumpString s = .ok text → P text

namespace HoldsOfParts

variable {P : Text → Prop} (hP : HoldsOfParts P)

include hP

theorem of_ascii {text : Text} (h : ∀ b ∈ text, 0 < b ∧ b < 0x80) : P text := by
  induction text with
  | nil => exact hP.nil
  | cons b rest ih =>
      have hb := h b List.mem_cons_self
      exact hP.append [b] rest (hP.ascii b hb.1 hb.2) (ih fun c hc => h c (List.mem_cons_of_mem _ hc))

theorem decimal (z : ℤ) : P (AgentMemory.decimal z) := by
  have hdigits : P (decimalNat z.natAbs) :=
    hP.of_ascii fun b hb => digit_ascii (decimalNat_digits _ b hb)
  unfold AgentMemory.decimal
  split
  · exact hP.append [45] _ (hP.ascii 45 (by decide) (by decide)) hdigits
  · exact hdigits

theorem comma {b : Bool} : P (if b then [] else AgentMemory.ascii ",") := by
  cases b with
  | true => exact hP.nil
  | false => exact hP.ascii 44 (by decide) (by decide)

mutual

/-- What holds of strings and of ASCII characters, and is kept by concatenation, holds of every
dump. -/
theorem dump : ∀ (json : Json) (text : Text), json.dump = .ok text → P text
  | .null, text, h => by
      cases h
      exact hP.of_ascii (mem_ascii _ (by decide))
  | .boolean b, text, h => by
      cases h
      cases b with
      | true => exact hP.of_ascii (mem_ascii _ (by decide))
      | false => exact hP.of_ascii (mem_ascii _ (by decide))
  | .integer n, text, h => by
      cases h
      exact hP.decimal n
  | .unsigned n, text, h => by
      cases h
      exact hP.decimal n
  | .float value printed, text, h => by
      cases h
      refine hP.of_ascii fun b hb => ?_
      exact printed_ascii (printed.printed b hb)
  | .string s, text, h => hP.string s text h
  | .array elements, text, h => by
      simp only [Json.dump] at h
      obtain ⟨inner, hinner, h⟩ := except_bind_eq_ok h
      cases h
      have hinner := dumpElements elements inner hinner
      exact hP.append _ _ (hP.append _ _ (hP.ascii 91 (by decide) (by decide)) hinner)
        (hP.ascii 93 (by decide) (by decide))
  | .object members, text, h => by
      simp only [Json.dump] at h
      obtain ⟨inner, hinner, h⟩ := except_bind_eq_ok h
      cases h
      have hinner := dumpMembers members inner hinner
      exact hP.append _ _ (hP.append _ _ (hP.ascii 123 (by decide) (by decide)) hinner)
        (hP.ascii 125 (by decide) (by decide))

theorem dumpElements :
    ∀ (elements : List Json) (text : Text), Json.dumpElements elements = .ok text → P text
  | [], text, h => by
      cases h
      exact hP.nil
  | x :: rest, text, h => by
      simp only [Json.dumpElements] at h
      obtain ⟨first, hfirst, h⟩ := except_bind_eq_ok h
      obtain ⟨others, hothers, h⟩ := except_bind_eq_ok h
      cases h
      have hfirst := dump x first hfirst
      have hothers := dumpElements rest others hothers
      exact hP.append _ _ (hP.append _ _ hfirst hP.comma) hothers

theorem dumpMembers :
    ∀ (members : List (Text × Json)) (text : Text), Json.dumpMembers members = .ok text → P text
  | [], text, h => by
      cases h
      exact hP.nil
  | (key, x) :: rest, text, h => by
      simp only [Json.dumpMembers] at h
      obtain ⟨name, hname, h⟩ := except_bind_eq_ok h
      obtain ⟨first, hfirst, h⟩ := except_bind_eq_ok h
      obtain ⟨others, hothers, h⟩ := except_bind_eq_ok h
      cases h
      have hname := hP.string key name hname
      have hfirst := dump x first hfirst
      have hothers := dumpMembers rest others hothers
      exact hP.append _ _ (hP.append _ _ (hP.append _ _ (hP.append _ _ hname
        (hP.ascii 58 (by decide) (by decide))) hfirst) hP.comma) hothers

end

end HoldsOfParts

theorem zero_notMem_dump {json : Json} {text : Text} (h : json.dump = .ok text) : 0 ∉ text := by
  have hparts : HoldsOfParts fun text => 0 ∉ text := {
    nil := by simp
    append := by
      intro s t hs ht
      simp [hs, ht]
    ascii := by
      intro b hb _
      simpa using UInt8.ne_of_lt hb
    string := fun s text => zero_notMem_dumpString }
  exact hparts.dump json text h

end Json

end AgentMemory
