import AgentMemory.Verification.Serialization.Columns
import AgentMemory.Verification.Serialization.Lexer

/-! # Parsing and serialising

A value that the parser accepts is one of the library's: its objects have their members in
ascending order, its strings are valid and its integers have 64 bits. Such a value can be
serialised, and what is printed for it is read back as it. -/

namespace AgentMemory

open Json Foundation

variable {strtod : Text → Option (ℚ × FloatText)}

/-! ## Values of the library -/

variable (strtod) in
/-- What a value of the library is like. -/
inductive Json.WellFormed : Json → Prop where
  | null : WellFormed .null
  | boolean (b : Bool) : WellFormed (.boolean b)
  | integer (n : ℤ) (low : -2 ^ 63 ≤ n) (high : n < 2 ^ 63) : WellFormed (.integer n)
  | unsigned (n : ℕ) (high : n < 2 ^ 64) : WellFormed (.unsigned n)
  | float (value : ℚ) (text : FloatText) (reads : ReadsFloat strtod value text) :
      WellFormed (.float value text)
  | string (s : Text) (valid : ValidUtf8 s) : WellFormed (.string s)
  | array (elements : List Json) (each : ∀ x ∈ elements, WellFormed x) :
      WellFormed (.array elements)
  | object (members : List (Text × Json)) (sorted : members.Pairwise fun a b => a.1 < b.1)
      (keys : ∀ m ∈ members, ValidUtf8 m.1) (each : ∀ m ∈ members, WellFormed m.2) :
      WellFormed (.object members)

/-- A value of the library can be serialised. -/
theorem Json.WellFormed.serialises {json : Json} (h : json.WellFormed strtod) :
    json.Serialises := by
  induction h with
  | null => exact ⟨_, rfl⟩
  | boolean b => exact ⟨_, rfl⟩
  | integer n low high => exact ⟨_, rfl⟩
  | unsigned n high => exact ⟨_, rfl⟩
  | float value text reads => exact ⟨_, rfl⟩
  | string s valid => exact (serialises_string s).mpr valid
  | array elements each ih => exact (serialises_array elements).mpr ih
  | object members sorted keys each ih =>
      exact (serialises_object members).mpr fun m hm => ⟨keys m hm, ih m hm⟩

/-! ### Members in order -/

theorem pairwise_insertMember {key : Text} {value : Json} {members : List (Text × Json)}
    (h : members.Pairwise fun a b => a.1 < b.1) :
    (insertMember key value members).Pairwise fun a b => a.1 < b.1 := by
  induction members with
  | nil => simp [insertMember]
  | cons m rest ih =>
      obtain ⟨k, v⟩ := m
      rw [List.pairwise_cons] at h
      unfold insertMember
      split_ifs with heq hlt
      · subst heq
        exact List.pairwise_cons.mpr h
      · refine List.pairwise_cons.mpr ⟨fun a ha => ?_, List.pairwise_cons.mpr h⟩
        rcases List.mem_cons.mp ha with rfl | ha
        · exact hlt
        · exact List.lt_trans hlt (h.1 a ha)
      · refine List.pairwise_cons.mpr ⟨fun a ha => ?_, ih h.2⟩
        obtain ⟨others, hsubset, hothers⟩ := mem_insertMember key rest
        rcases (hothers value a).mp ha with rfl | ha
        · rcases List.le_iff_lt_or_eq.mp (List.not_lt.mp hlt) with hk | hk
          · exact hk
          · exact absurd hk heq
        · exact h.1 a (hsubset ha)

/-- A member whose key comes after all others is put behind them. -/
theorem insertMember_last {key : Text} (value : Json) {members : List (Text × Json)}
    (h : ∀ m ∈ members, m.1 < key) : insertMember key value members = members ++ [(key, value)] := by
  induction members with
  | nil => rfl
  | cons m rest ih =>
      obtain ⟨k, v⟩ := m
      have hk : k < key := h (k, v) (by simp)
      have hne : k ≠ key := by
        rintro rfl
        exact List.lt_irrefl k hk
      have hnlt : ¬key < k := fun hlt => List.lt_irrefl k (List.lt_trans hk hlt)
      simp [insertMember, hne, hnlt, ih fun m hm => h m (by simp [hm])]

/-! ## The parser on a dump -/

theorem endsNumber_nil : EndsNumber [] := by
  simp [EndsNumber]

theorem endsNumber_cons {b : UInt8} (hb : b ∈ [0x2C, 0x5D, 0x7D]) (r : Text) :
    EndsNumber (b :: r) := by
  intro c hc
  cases hc
  simp only [List.mem_cons, List.not_mem_nil, or_false] at hb
  rcases hb with rfl | rfl | rfl
  · decide
  · decide
  · decide

/-! ### Turns -/

section Turns

variable {rest : Text} {stack : List Frame}

theorem next_scalar {token : Token} {json : Json} (h : token.scalar? = some json) :
    (ParserState.value token rest stack).next strtod = some (.complete json rest stack) := by
  cases token with
  | beginArray => cases h
  | beginObject => cases h
  | _ => simp [ParserState.next, h]

/-- A token that is a value by itself is followed by the end of that value. -/
theorem turns_scalar {token : Token} {json : Json} {text r : Text}
    (hscan : scan strtod (text ++ r) = (token, r)) (h : token.scalar? = some json) :
    (scan strtod (text ++ r)).1 ≠ .endArray ∧
      Turns (ParserState.next strtod) (expectValue strtod (text ++ r) stack)
        (.complete json r stack) := by
  rw [expectValue, hscan]
  refine ⟨?_, Turns.single (next_scalar h)⟩
  rintro rfl
  cases h

theorem next_beginArray (h : (scan strtod rest).1 ≠ .endArray) :
    (ParserState.value .beginArray rest stack).next strtod =
      some (expectValue strtod rest (.array [] :: stack)) := by
  simp only [ParserState.next]
  rfl

end Turns

variable (strtod) in
/-- From the key of a member the parser comes to the end of the object. -/
def ReadsMembers (members : List (Text × Json)) (text r : Text) (stack : List Frame)
    (whole : Json) : Prop :=
  ∃ key rest start, scan strtod text = (.valueString key, rest) ∧
    expectSeparator strtod members key rest stack = some start ∧
    Turns (ParserState.next strtod) start (.complete whole r stack)

mutual

/-- The parser reads a value back from its dump, whatever follows. -/
theorem turns_dump : ∀ (json : Json) (text r : Text) (stack : List Frame),
    json.WellFormed strtod → json.dump = .ok text → EndsNumber r →
    (scan strtod (text ++ r)).1 ≠ .endArray ∧
      Turns (ParserState.next strtod) (expectValue strtod (text ++ r) stack)
        (.complete json.normal r stack)
  | .null, text, r, stack, _, h, _ => by
      cases h
      exact @turns_scalar strtod stack .literalNull .null _ r rfl rfl
  | .boolean b, text, r, stack, _, h, _ => by
      cases h
      cases b with
      | true => exact @turns_scalar strtod stack .literalTrue (.boolean true) _ r rfl rfl
      | false => exact @turns_scalar strtod stack .literalFalse (.boolean false) _ r rfl rfl
  | .integer n, text, r, stack, hwell, h, hr => by
      cases h
      cases hwell with
      | integer _ low high =>
          refine turns_scalar (scan_decimal strtod low (by omega) hr) ?_
          unfold integerToken Json.normal
          split <;> rfl
  | .unsigned n, text, r, stack, hwell, h, hr => by
      cases h
      cases hwell with
      | unsigned _ high =>
          refine turns_scalar (scan_decimal strtod (by omega) (by omega) hr) ?_
          rw [integerToken, if_neg (by omega)]
          rfl
  | .float value printed, text, r, stack, hwell, h, hr => by
      cases h
      cases hwell with
      | float _ _ reads => exact turns_scalar (scan_readsFloat reads hr) rfl
  | .string s, text, r, stack, _, h, _ => turns_scalar (scan_dumpString strtod h r) rfl
  | .array [], text, r, stack, _, h, _ => by
      cases h
      exact ⟨by simp [ascii, Json.scan, skipWhitespace, scanToken, isJsonSpace], Turns.single rfl⟩
  | .array (x :: rest), text, r, stack, hwell, h, _ => by
      simp only [Json.dump] at h
      obtain ⟨inner, hinner, h⟩ := except_bind_eq_ok h
      cases h
      cases hwell with
      | array _ each =>
          obtain ⟨hhead, hturns⟩ :=
            turns_dumpElements (x :: rest) inner r [] stack (by simp) each hinner
          have htext : ascii "[" ++ inner ++ ascii "]" ++ r = 0x5B :: (inner ++ 0x5D :: r) := by
            simp [ascii]
          rw [htext]
          exact ⟨by simp [Json.scan, skipWhitespace, scanToken, isJsonSpace],
            hturns.head (next_beginArray hhead)⟩
  | .object [], text, r, stack, _, h, _ => by
      cases h
      exact ⟨by simp [Json.scan, skipWhitespace, scanToken, isJsonSpace], Turns.single rfl⟩
  | .object ((key, x) :: rest), text, r, stack, hwell, h, _ => by
      simp only [Json.dump] at h
      obtain ⟨inner, hinner, h⟩ := except_bind_eq_ok h
      cases h
      cases hwell with
      | object _ sorted keys each =>
          obtain ⟨name, rest', start, hscan, hstart, hturns⟩ :=
            turns_dumpMembers ((key, x) :: rest) inner r [] stack (by simp) sorted (by simp) each
              hinner
          have htext : [0x7B] ++ inner ++ [0x7D] ++ r = 0x7B :: (inner ++ 0x7D :: r) := by simp
          rw [htext]
          refine ⟨by simp [Json.scan, skipWhitespace, scanToken, isJsonSpace], hturns.head ?_⟩
          change (ParserState.value .beginObject (inner ++ 0x7D :: r) stack).next strtod = _
          simp only [ParserState.next, hscan, hstart]

theorem turns_dumpElements : ∀ (xs : List Json) (text r : Text) (elements : List Json)
    (stack : List Frame), xs ≠ [] → (∀ x ∈ xs, x.WellFormed strtod) → dumpElements xs = .ok text →
    (scan strtod (text ++ 0x5D :: r)).1 ≠ .endArray ∧
      Turns (ParserState.next strtod)
        (expectValue strtod (text ++ 0x5D :: r) (.array elements :: stack))
        (.complete (.array (elements ++ normalElements xs)) r stack)
  | [], text, r, elements, stack, hne, _, _ => absurd rfl hne
  | [x], text, r, elements, stack, _, each, h => by
      simp only [dumpElements] at h
      obtain ⟨first, hfirst, h⟩ := except_bind_eq_ok h
      cases h
      obtain ⟨hhead, hturns⟩ := turns_dump x first (0x5D :: r) (.array elements :: stack)
        (each x (by simp)) hfirst (endsNumber_cons (by simp) r)
      simp only [List.isEmpty_nil, if_true, List.append_nil]
      exact ⟨hhead, hturns.tail rfl⟩
  | x :: y :: rest, text, r, elements, stack, _, each, h => by
      simp only [dumpElements] at h
      obtain ⟨first, hfirst, h⟩ := except_bind_eq_ok h
      obtain ⟨others, hothers, h⟩ := except_bind_eq_ok h
      cases h
      obtain ⟨hhead, hturns⟩ := turns_dump x first (0x2C :: (others ++ 0x5D :: r))
        (.array elements :: stack) (each x (by simp)) hfirst (endsNumber_cons (by simp) _)
      obtain ⟨-, hrest⟩ := turns_dumpElements (y :: rest) others r (elements ++ [x.normal])
        stack (by simp) (fun z hz => each z (List.mem_cons_of_mem _ hz)) hothers
      have htext : first ++ ascii "," ++ others ++ 0x5D :: r =
          first ++ 0x2C :: (others ++ 0x5D :: r) := by
        simp [ascii]
      simp only [List.isEmpty_cons, Bool.false_eq_true, if_false]
      rw [htext]
      refine ⟨hhead, hturns.trans (Turns.head rfl ?_)⟩
      rw [List.append_assoc] at hrest
      exact hrest

theorem turns_dumpMembers : ∀ (ms : List (Text × Json)) (text r : Text)
    (members : List (Text × Json)) (stack : List Frame), ms ≠ [] →
    ms.Pairwise (fun a b => a.1 < b.1) → (∀ m ∈ members, ∀ m' ∈ ms, m.1 < m'.1) →
    (∀ m ∈ ms, m.2.WellFormed strtod) → dumpMembers ms = .ok text →
    ReadsMembers strtod members (text ++ 0x7D :: r) r stack
      (.object (members ++ normalMembers ms))
  | [], text, r, members, stack, hne, _, _, _, _ => absurd rfl hne
  | [(key, x)], text, r, members, stack, _, _, hmembers, each, h => by
      simp only [dumpMembers] at h
      obtain ⟨name, hname, h⟩ := except_bind_eq_ok h
      obtain ⟨first, hfirst, h⟩ := except_bind_eq_ok h
      cases h
      have hlast : ∀ m ∈ members, m.1 < key := fun m hm => hmembers m hm (key, x) (by simp)
      obtain ⟨-, hturns⟩ := turns_dump x first (0x7D :: r) (.object members key :: stack)
        (each (key, x) (by simp)) hfirst (endsNumber_cons (by simp) r)
      have htext : name ++ ascii ":" ++ first ++ 0x7D :: r =
          name ++ 0x3A :: (first ++ 0x7D :: r) := by
        simp [ascii]
      simp only [List.isEmpty_nil, if_true, List.append_nil]
      rw [htext]
      refine ⟨key, _, _, scan_dumpString strtod hname _, rfl, hturns.tail ?_⟩
      change some (ParserState.complete (.object (insertMember key x.normal members)) r stack) = _
      rw [insertMember_last x.normal hlast]
      rfl
  | (key, x) :: (key', y) :: rest, text, r, members, stack, _, sorted, hmembers, each, h => by
      simp only [dumpMembers] at h
      obtain ⟨name, hname, h⟩ := except_bind_eq_ok h
      obtain ⟨first, hfirst, h⟩ := except_bind_eq_ok h
      obtain ⟨others, hothers, h⟩ := except_bind_eq_ok h
      cases h
      have hlast : ∀ m ∈ members, m.1 < key := fun m hm => hmembers m hm (key, x) (by simp)
      have hsorted := List.pairwise_cons.mp sorted
      obtain ⟨-, hturns⟩ := turns_dump x first (0x2C :: (others ++ 0x7D :: r))
        (.object members key :: stack) (each (key, x) (by simp)) hfirst
        (endsNumber_cons (by simp) _)
      have hmembers' : ∀ m ∈ members ++ [(key, x.normal)], ∀ m' ∈ (key', y) :: rest, m.1 < m'.1 := by
        intro m hm m' hm'
        rcases List.mem_append.mp hm with hm | hm
        · exact hmembers m hm m' (List.mem_cons_of_mem _ hm')
        · rw [List.mem_singleton.mp hm]
          exact hsorted.1 m' hm'
      obtain ⟨name', after, start, hscan, hstart, hrest⟩ :=
        turns_dumpMembers ((key', y) :: rest) others r (members ++ [(key, x.normal)]) stack
          (by simp) hsorted.2 hmembers' (fun m hm => each m (List.mem_cons_of_mem _ hm)) hothers
      have htext : name ++ ascii ":" ++ first ++ ascii "," ++ others ++ 0x7D :: r =
          name ++ 0x3A :: (first ++ 0x2C :: (others ++ 0x7D :: r)) := by
        simp [ascii]
      simp only [List.isEmpty_cons, Bool.false_eq_true, if_false]
      rw [htext]
      have hnext : (ParserState.complete x.normal (0x2C :: (others ++ 0x7D :: r))
          (.object members key :: stack)).next strtod = some start := by
        change (match scan strtod (others ++ 0x7D :: r) with
          | (.valueString name, rest) =>
              expectSeparator strtod (insertMember key x.normal members) name rest stack
          | _ => none) = some start
        rw [hscan, insertMember_last x.normal hlast]
        exact hstart
      rw [List.append_assoc] at hrest
      exact ⟨key, _, _, scan_dumpString strtod hname _, rfl, hturns.trans (hrest.head hnext)⟩

end

/-! ## What a turn does -/

variable (strtod) in
/-- The turns of the parser, with the tokens they read. -/
inductive Turn : ParserState → ParserState → Prop where
  | emptyObject {rest rest₁ stack} (close : scan strtod rest = (.endObject, rest₁)) :
      Turn (.value .beginObject rest stack) (.complete (.object []) rest₁ stack)
  | firstKey {rest rest₁ rest₂ stack key} (name : scan strtod rest = (.valueString key, rest₁))
      (separator : scan strtod rest₁ = (.nameSeparator, rest₂)) :
      Turn (.value .beginObject rest stack) (expectValue strtod rest₂ (.object [] key :: stack))
  | emptyArray {rest rest₁ stack} (close : scan strtod rest = (.endArray, rest₁)) :
      Turn (.value .beginArray rest stack) (.complete (.array []) rest₁ stack)
  | firstElement {rest stack} :
      Turn (.value .beginArray rest stack) (expectValue strtod rest (.array [] :: stack))
  | scalar {token json rest stack} (value : token.scalar? = some json) :
      Turn (.value token rest stack) (.complete json rest stack)
  | nextElement {json rest rest₁ elements stack}
      (separator : scan strtod rest = (.valueSeparator, rest₁)) :
      Turn (.complete json rest (.array elements :: stack))
        (expectValue strtod rest₁ (.array (elements ++ [json]) :: stack))
  | endArray {json rest rest₁ elements stack} (close : scan strtod rest = (.endArray, rest₁)) :
      Turn (.complete json rest (.array elements :: stack))
        (.complete (.array (elements ++ [json])) rest₁ stack)
  | nextKey {json rest rest₁ rest₂ rest₃ members key name stack}
      (comma : scan strtod rest = (.valueSeparator, rest₁))
      (next : scan strtod rest₁ = (.valueString name, rest₂))
      (separator : scan strtod rest₂ = (.nameSeparator, rest₃)) :
      Turn (.complete json rest (.object members key :: stack))
        (expectValue strtod rest₃ (.object (insertMember key json members) name :: stack))
  | endObject {json rest rest₁ members key stack}
      (close : scan strtod rest = (.endObject, rest₁)) :
      Turn (.complete json rest (.object members key :: stack))
        (.complete (.object (insertMember key json members)) rest₁ stack)

theorem expectSeparator_eq_some {members : List (Text × Json)} {key rest : Text}
    {stack : List Frame} {state : ParserState}
    (h : expectSeparator strtod members key rest stack = some state) :
    ∃ rest₁, scan strtod rest = (.nameSeparator, rest₁) ∧
      state = expectValue strtod rest₁ (.object members key :: stack) := by
  unfold expectSeparator at h
  split at h
  · next rest₁ hscan =>
      cases h
      exact ⟨rest₁, hscan, rfl⟩
  · cases h

theorem turn_of_next {state state' : ParserState} (h : state.next strtod = some state') :
    Turn strtod state state' := by
  unfold ParserState.next at h
  split at h
  · split at h
    · next hscan =>
        cases h
        exact .emptyObject hscan
    · next hscan =>
        obtain ⟨rest₁, hseparator, rfl⟩ := expectSeparator_eq_some h
        exact .firstKey hscan hseparator
    · cases h
  · next rest stack =>
    split at h
    · next hscan =>
        cases h
        exact .emptyArray hscan
    · next token rest₁ hclose hscan =>
        cases h
        have hstart : (ParserState.value token rest₁ (.array [] :: stack)) =
            expectValue strtod rest (.array [] :: stack) := by
          simp [expectValue, hscan]
        rw [hstart]
        exact .firstElement
  · obtain ⟨json, hscalar, h⟩ := Option.map_eq_some_iff.mp h
    cases h
    exact .scalar hscalar
  · cases h
  · split at h
    · next hscan =>
        cases h
        exact .nextElement hscan
    · next hscan =>
        cases h
        exact .endArray hscan
    · cases h
  · split at h
    · next hscan =>
        split at h
        · next hname =>
            obtain ⟨rest₁, hseparator, rfl⟩ := expectSeparator_eq_some h
            exact .nextKey hscan hname hseparator
        · cases h
    · next hscan =>
        cases h
        exact .endObject hscan
    · cases h

/-! ### The parser comes to an end -/

/-- A bound of the turns that are left. -/
def Json.ParserState.rank : ParserState → ℕ
  | .value token rest _ => if token = .endOfInput then 0 else 2 * rest.length + 1
  | .complete _ rest _ => 2 * rest.length

@[simp] theorem rank_value (token : Token) (rest : Text) (stack : List Frame) :
    (ParserState.value token rest stack).rank =
      if token = .endOfInput then 0 else 2 * rest.length + 1 := rfl

@[simp] theorem rank_complete (json : Json) (rest : Text) (stack : List Frame) :
    (ParserState.complete json rest stack).rank = 2 * rest.length := rfl

theorem rank_expectValue (text : Text) (stack : List Frame) :
    (expectValue strtod text stack).rank ≤ 2 * text.length := by
  simp only [expectValue, rank_value]
  split_ifs with hend
  · omega
  · have hlength := length_scan hend
    omega

theorem length_lt_of_scan {text rest : Text} {token : Token} (h : scan strtod text = (token, rest))
    (hend : token ≠ .endOfInput) : rest.length < text.length := by
  have hlength := @length_scan strtod text (by rw [h]; exact hend)
  rwa [h] at hlength

theorem Turn.rank_lt {state state' : ParserState} (h : Turn strtod state state') :
    state'.rank < state.rank := by
  cases h with
  | emptyObject close =>
      have hlength := length_lt_of_scan close (by simp)
      simp only [rank_value, rank_complete, reduceCtorEq, if_false]
      omega
  | @firstKey _ _ rest₂ stack key name separator =>
      have hname := length_lt_of_scan name (by simp)
      have hseparator := length_lt_of_scan separator (by simp)
      have hvalue := @rank_expectValue strtod rest₂ (.object [] key :: stack)
      simp only [rank_value, reduceCtorEq, if_false]
      omega
  | emptyArray close =>
      have hlength := length_lt_of_scan close (by simp)
      simp only [rank_value, rank_complete, reduceCtorEq, if_false]
      omega
  | @firstElement rest stack =>
      have hvalue := @rank_expectValue strtod rest (.array [] :: stack)
      simp only [rank_value, reduceCtorEq, if_false]
      omega
  | @scalar token _ _ _ value =>
      have hend : token ≠ .endOfInput := by
        rintro rfl
        cases value
      simp [hend]
  | @nextElement json _ rest₁ elements stack separator =>
      have hseparator := length_lt_of_scan separator (by simp)
      have hvalue :=
        @rank_expectValue strtod rest₁ (.array (elements ++ [json]) :: stack)
      simp only [rank_complete]
      omega
  | endArray close =>
      have hlength := length_lt_of_scan close (by simp)
      simp only [rank_complete]
      omega
  | @nextKey json _ _ _ rest₃ members key name stack comma next separator =>
      have hcomma := length_lt_of_scan comma (by simp)
      have hnext := length_lt_of_scan next (by simp)
      have hseparator := length_lt_of_scan separator (by simp)
      have hvalue := @rank_expectValue strtod rest₃
        (.object (insertMember key json members) name :: stack)
      simp only [rank_complete]
      omega
  | endObject close =>
      have hlength := length_lt_of_scan close (by simp)
      simp only [rank_complete]
      omega

/-- A text is accepted just when the parser comes to the end of a value that the input ends
with: the bound on its turns is never met. -/
theorem parse_eq_some_iff {text : Text} {json : Json} :
    parse strtod text = some json ↔ ∃ body rest, skipBom text = some body ∧
      Turns (ParserState.next strtod) (expectValue strtod body []) (.complete json rest []) ∧
      (scan strtod rest).1 = .endOfInput := by
  have hrank : ∀ s s', ParserState.next strtod s = some s' → s'.rank < s.rank :=
    fun s s' h => (turn_of_next h).rank_lt
  unfold parse
  cases hbom : skipBom text with
  | none => simp
  | some body =>
      have hturns : (expectValue strtod body []).rank < 2 * body.length + 2 := by
        have := @rank_expectValue strtod body []
        omega
      constructor
      · intro h
        simp only [Option.bind_eq_bind, Option.bind_some] at h
        obtain ⟨last, hlast, h⟩ := Option.bind_eq_some_iff.mp h
        obtain ⟨⟨json', rest⟩, hresult, h⟩ := Option.bind_eq_some_iff.mp h
        obtain ⟨hsteps, -⟩ := (runToEnd_eq_some hrank hturns).mp hlast
        dsimp only at h
        split_ifs at h with hend
        cases h
        unfold ParserState.result? at hresult
        split at hresult
        · cases hresult
          exact ⟨body, rest, rfl, hsteps, hend⟩
        · cases hresult
      · rintro ⟨body', rest, hbody, hsteps, hend⟩
        cases hbody
        have hrun := (runToEnd_eq_some hrank hturns).mpr ⟨hsteps, rfl⟩
        simp [hrun, ParserState.result?, hend]

/-! ## What is accepted -/

variable (strtod) in
/-- An open value has well-formed parts. -/
def Json.Frame.WellFormed : Frame → Prop
  | .array elements => (Json.array elements).WellFormed strtod
  | .object members key => (Json.object members).WellFormed strtod ∧ ValidUtf8 key

variable (strtod) in
/-- The parser holds values of the library only. -/
def Json.ParserState.WellFormed : ParserState → Prop
  | .value token _ stack => token.InRange strtod ∧ ∀ f ∈ stack, f.WellFormed strtod
  | .complete json _ stack => json.WellFormed strtod ∧ ∀ f ∈ stack, f.WellFormed strtod

theorem wellFormed_scalar {token : Token} {json : Json} (htoken : token.InRange strtod)
    (h : token.scalar? = some json) : json.WellFormed strtod := by
  cases token with
  | literalTrue =>
      cases h
      exact .boolean true
  | literalFalse =>
      cases h
      exact .boolean false
  | literalNull =>
      cases h
      exact .null
  | valueString s =>
      cases h
      exact .string s htoken
  | valueUnsigned n =>
      cases h
      exact .unsigned n htoken
  | valueInteger n =>
      cases h
      exact .integer n htoken.1 htoken.2
  | valueFloat value text =>
      cases h
      exact .float value text htoken
  | _ => cases h

theorem wellFormed_element {elements : List Json} {json : Json}
    (h : (Json.array elements).WellFormed strtod) (hjson : json.WellFormed strtod) :
    (Json.array (elements ++ [json])).WellFormed strtod := by
  cases h with
  | array _ each =>
      refine .array _ fun x hx => ?_
      rcases List.mem_append.mp hx with hx | hx
      · exact each x hx
      · rw [List.mem_singleton.mp hx]
        exact hjson

/-- A member may replace one of the same key. -/
theorem wellFormed_member {members : List (Text × Json)} {key : Text} {json : Json}
    (h : (Json.object members).WellFormed strtod) (hkey : ValidUtf8 key)
    (hjson : json.WellFormed strtod) :
    (Json.object (insertMember key json members)).WellFormed strtod := by
  cases h with
  | object _ sorted keys each =>
      obtain ⟨others, hsubset, hothers⟩ := mem_insertMember key members
      refine .object _ (pairwise_insertMember sorted) (fun m hm => ?_) fun m hm => ?_
      · rcases (hothers json m).mp hm with rfl | hm
        · exact hkey
        · exact keys m (hsubset hm)
      · rcases (hothers json m).mp hm with rfl | hm
        · exact hjson
        · exact each m (hsubset hm)

theorem wellFormed_expectValue (hstrtod : PrintsReadably strtod) (text : Text)
    {stack : List Frame} (hstack : ∀ f ∈ stack, f.WellFormed strtod) :
    (expectValue strtod text stack).WellFormed strtod :=
  ⟨scan_inRange hstrtod text, hstack⟩

theorem validUtf8_of_scan (hstrtod : PrintsReadably strtod) {text key rest : Text}
    (h : scan strtod text = (.valueString key, rest)) : ValidUtf8 key := by
  have hrange := scan_inRange hstrtod text
  rwa [h] at hrange

/-- Every turn keeps the values well formed. -/
theorem Turn.wellFormed (hstrtod : PrintsReadably strtod) {state state' : ParserState}
    (h : Turn strtod state state') (hstate : state.WellFormed strtod) :
    state'.WellFormed strtod := by
  have hobject : (Json.object []).WellFormed strtod := .object [] .nil (by simp) (by simp)
  have harray : (Json.array []).WellFormed strtod := .array [] (by simp)
  cases h with
  | emptyObject close => exact ⟨hobject, hstate.2⟩
  | firstKey name separator =>
      exact wellFormed_expectValue hstrtod _
        (List.forall_mem_cons.mpr ⟨⟨hobject, validUtf8_of_scan hstrtod name⟩, hstate.2⟩)
  | emptyArray close => exact ⟨harray, hstate.2⟩
  | firstElement =>
      exact wellFormed_expectValue hstrtod _ (List.forall_mem_cons.mpr ⟨harray, hstate.2⟩)
  | scalar value => exact ⟨wellFormed_scalar hstate.1 value, hstate.2⟩
  | nextElement separator =>
      obtain ⟨hframe, hstack⟩ := List.forall_mem_cons.mp hstate.2
      exact wellFormed_expectValue hstrtod _
        (List.forall_mem_cons.mpr ⟨wellFormed_element hframe hstate.1, hstack⟩)
  | endArray close =>
      obtain ⟨hframe, hstack⟩ := List.forall_mem_cons.mp hstate.2
      exact ⟨wellFormed_element hframe hstate.1, hstack⟩
  | nextKey comma next separator =>
      obtain ⟨hframe, hstack⟩ := List.forall_mem_cons.mp hstate.2
      have hmembers := wellFormed_member hframe.1 hframe.2 hstate.1
      exact wellFormed_expectValue hstrtod _
        (List.forall_mem_cons.mpr ⟨⟨hmembers, validUtf8_of_scan hstrtod next⟩, hstack⟩)
  | endObject close =>
      obtain ⟨hframe, hstack⟩ := List.forall_mem_cons.mp hstate.2
      exact ⟨wellFormed_member hframe.1 hframe.2 hstate.1, hstack⟩

theorem wellFormed_of_parse (hstrtod : PrintsReadably strtod) {text : Text} {json : Json}
    (h : parse strtod text = some json) : json.WellFormed strtod := by
  obtain ⟨body, rest, -, hturns, -⟩ := parse_eq_some_iff.mp h
  have hstart : (expectValue strtod body []).WellFormed strtod :=
    wellFormed_expectValue hstrtod body (by simp)
  exact (hturns.invariant (fun s s' hnext => (turn_of_next hnext).wellFormed hstrtod) hstart).1

/-! ## Reading a dump back -/

/-- No dump begins like a byte order mark. -/
theorem skipBom_dump {json : Json} {text : Text} (h : json.dump = .ok text) :
    skipBom text = some text := by
  have hparts : HoldsOfParts fun text => text.head? ≠ some 0xEF := {
    nil := by simp
    append := by
      intro s t hs ht
      cases s with
      | nil => exact ht
      | cons b s => exact hs
    ascii := by
      intro b _ hb heq
      cases heq
      exact absurd hb (by decide)
    string := by
      intro s text hdump heq
      obtain ⟨escaped, -, hdump⟩ := except_bind_eq_ok hdump
      cases hdump
      simp [ascii] at heq }
  simp [skipBom, hparts.dump json text h]

/-- What is printed for a value of the library is read back as that value. -/
theorem parse_of_dump {json : Json} (hjson : json.WellFormed strtod) {text : Text}
    (h : json.dump = .ok text) : parse strtod text = some json.normal := by
  have hturns := (turns_dump json text [] [] hjson h endsNumber_nil).2
  rw [List.append_nil] at hturns
  exact parse_eq_some_iff.mpr ⟨text, [], skipBom_dump h, hturns, rfl⟩

mutual

theorem dump_normal : ∀ json : Json, json.normal.dump = json.dump
  | .null => rfl
  | .boolean _ => rfl
  | .integer n => by
      unfold normal
      split
      · rfl
      · simp only [dump, show (n.toNat : ℤ) = n by omega]
  | .unsigned _ => rfl
  | .float _ _ => rfl
  | .string _ => rfl
  | .array elements => by simp only [normal, dump, dump_normalElements elements]
  | .object members => by simp only [normal, dump, dump_normalMembers members]

theorem dump_normalElements :
    ∀ elements : List Json, dumpElements (normalElements elements) = dumpElements elements
  | [] => rfl
  | [x] => by simp only [normalElements, dumpElements, dump_normal x]
  | x :: y :: rest => by
      simp only [normalElements, dumpElements, dump_normal x]
      have hrest := dump_normalElements (y :: rest)
      simp only [normalElements, dumpElements] at hrest
      rw [hrest]
      rfl

theorem dump_normalMembers : ∀ members : List (Text × Json),
    dumpMembers (normalMembers members) = dumpMembers members
  | [] => rfl
  | [(key, x)] => by simp only [normalMembers, dumpMembers, dump_normal x]
  | (key, x) :: (key', y) :: rest => by
      simp only [normalMembers, dumpMembers, dump_normal x]
      have hrest := dump_normalMembers ((key', y) :: rest)
      simp only [normalMembers, dumpMembers] at hrest
      rw [hrest]
      rfl

end

/-- The parser and the serialiser of the library: an accepted text stands for a value that can be
serialised, and what is then printed is accepted again, for the same value. -/
theorem parse_dump (hstrtod : PrintsReadably strtod) {text : Text} {json : Json}
    (h : parse strtod text = some json) : json.WellFormed strtod ∧
      ∃ printed, json.dump = .ok printed ∧ parse strtod printed = some json.normal ∧
        json.normal.dump = .ok printed := by
  have hjson := wellFormed_of_parse hstrtod h
  obtain ⟨printed, hprinted⟩ := hjson.serialises
  exact ⟨hjson, printed, hprinted, parse_of_dump hjson hprinted, by rw [dump_normal, hprinted]⟩

def halfText : FloatText :=
  ⟨ascii "0.5", by decide +kernel⟩

/-- A conversion that knows of one number. -/
def readsHalf (buffer : Text) : Option (ℚ × FloatText) :=
  if buffer = halfText.bytes then some (1 / 2, halfText) else none

theorem readsFloat_half : ReadsFloat readsHalf (1 / 2) halfText := by
  unfold ReadsFloat
  decide +kernel

theorem readsHalf_printsReadably : PrintsReadably readsHalf := by
  intro buffer value text h
  unfold readsHalf at h
  split_ifs at h
  cases h
  exact readsFloat_half

def unorderedText : Text :=
  ascii "\x7b \"weight\": 0.5, \"tags\": [-1, \"x\\u00e9\", null], \"weight\": true \x7d"

/-- Members are not in order, and one name comes twice. -/
theorem parse_dump_unordered :
    ∃ json, parse readsHalf unorderedText = some json ∧ json.WellFormed readsHalf ∧
      ∃ printed, json.dump = .ok printed ∧ parse readsHalf printed = some json.normal ∧
        json.normal.dump = .ok printed := by
  have hparses : (parse readsHalf unorderedText).isSome = true := by decide +kernel
  obtain ⟨json, hjson⟩ := Option.isSome_iff_exists.mp hparses
  exact ⟨json, hjson, parse_dump readsHalf_printsReadably hjson⟩

end AgentMemory
