import Mathlib.Data.List.TakeWhile
import Mathlib.Data.Nat.Digits.Lemmas

/-! # Byte strings

`std::string` values are byte lists: they may hold NUL bytes and invalid UTF-8. -/

namespace AgentMemory

abbrev Text := List UInt8

/-- A string literal of the source, all of which are ASCII. -/
def ascii (s : String) : Text :=
  s.toList.map fun c => UInt8.ofNat c.toNat

/-- What a callee sees of `s.c_str()`: the bytes before the first NUL. -/
def cStr (s : Text) : Text :=
  s.takeWhile fun b => b != 0

theorem zero_notMem_cStr (s : Text) : 0 ∉ cStr s := by
  intro h
  simpa using List.mem_takeWhile_imp h

theorem cStr_eq_self {s : Text} (h : 0 ∉ s) : cStr s = s := by
  refine List.takeWhile_eq_self_iff.mpr ?_
  intro b hb
  have : b ≠ 0 := fun h0 => h (h0 ▸ hb)
  simpa using this

theorem cStr_eq_self_iff {s : Text} : cStr s = s ↔ 0 ∉ s :=
  ⟨fun h => h ▸ zero_notMem_cStr s, cStr_eq_self⟩

/-! ## Character classes of the C locale -/

def isDigit (b : UInt8) : Bool :=
  48 ≤ b && b ≤ 57

def isUpper (b : UInt8) : Bool :=
  65 ≤ b && b ≤ 90

def isLower (b : UInt8) : Bool :=
  97 ≤ b && b ≤ 122

def isAlnum (b : UInt8) : Bool :=
  isDigit b || isUpper b || isLower b

def isSpace (b : UInt8) : Bool :=
  b == 32 || (9 ≤ b && b ≤ 13)

/-- `ToLower` of `string_util.cpp`. -/
def toLower (s : Text) : Text :=
  s.map fun b => if isUpper b then b + 32 else b

/-- `s.find(pattern) != std::string::npos`. -/
def contains (s pattern : Text) : Bool :=
  s.tails.any fun rest => pattern.isPrefixOf rest

/-! ## Integers -/

/-- `static_cast<int>` of a `size_t`. -/
def toInt32 (n : ℕ) : ℤ :=
  (n : ℤ).bmod (2 ^ 32)

def decimalNat (n : ℕ) : Text :=
  if n = 0 then [48] else (Nat.digits 10 n).reverse.map fun d => UInt8.ofNat (48 + d)

/-- `std::to_string`. -/
def decimal (z : ℤ) : Text :=
  if z < 0 then 45 :: decimalNat z.natAbs else decimalNat z.natAbs

/-- The value of a string of decimal digits. -/
def digitsValue (s : Text) : ℕ :=
  s.foldl (fun n d => n * 10 + (d.toNat - 48)) 0

/-- `std::stoll`: leading white space and a sign are accepted, reading stops at the first
character that is not a digit. `none` stands for `invalid_argument` and `out_of_range`. -/
def stoll (s : Text) : Option Int64 :=
  let s := s.dropWhile isSpace
  let negative := s.head? == some 45
  let unsigned := if negative || s.head? == some 43 then s.tail else s
  let digits := unsigned.takeWhile isDigit
  let value : ℤ := if negative then -(digitsValue digits : ℤ) else digitsValue digits
  if digits.isEmpty || value < -2 ^ 63 || 2 ^ 63 ≤ value then none
  else some (Int64.ofInt value)

/-! ## Reading back a printed integer -/

private theorem digit_toNat {d : ℕ} (h : d < 10) : (UInt8.ofNat (48 + d)).toNat = 48 + d := by
  rw [UInt8.toNat_ofNat_of_lt']
  have : UInt8.size = 256 := rfl
  omega

private theorem isDigit_digit {d : ℕ} (h : d < 10) : isDigit (UInt8.ofNat (48 + d)) = true := by
  have hd := digit_toNat h
  simp only [isDigit, Bool.and_eq_true, decide_eq_true_eq, UInt8.le_iff_toNat_le]
  rw [hd]
  exact ⟨by simp, by simp; omega⟩

theorem decimalNat_digits (n : ℕ) : ∀ b ∈ decimalNat n, isDigit b = true := by
  intro b hb
  unfold decimalNat at hb
  split at hb
  · rw [List.mem_singleton.mp hb]
    decide
  · obtain ⟨d, hd, rfl⟩ := List.mem_map.mp hb
    exact isDigit_digit (Nat.digits_lt_base (by decide) (List.mem_reverse.mp hd))

theorem decimalNat_ne_nil (n : ℕ) : decimalNat n ≠ [] := by
  unfold decimalNat
  split
  · simp
  · simpa using Nat.digits_ne_nil_iff_ne_zero.mpr ‹_›

theorem digitsValue_decimalNat (n : ℕ) : digitsValue (decimalNat n) = n := by
  unfold decimalNat
  split
  · subst n
    rfl
  · have hvalue : ∀ ds : List ℕ, (∀ d ∈ ds, d < 10) →
        digitsValue (ds.reverse.map fun d => UInt8.ofNat (48 + d)) = Nat.ofDigits 10 ds := by
      intro ds
      induction ds with
      | nil => simp [digitsValue]
      | cons d ds ih =>
          intro hds
          have hd : d < 10 := hds d (by simp)
          have hrest := ih fun e he => hds e (by simp [he])
          simp only [List.reverse_cons, List.map_append, List.map_cons, List.map_nil]
          unfold digitsValue at hrest ⊢
          rw [List.foldl_append, hrest, Nat.ofDigits_cons]
          simp only [List.foldl_cons, List.foldl_nil, digit_toNat hd]
          omega
    rw [hvalue _ fun d hd => Nat.digits_lt_base (by decide) hd, Nat.ofDigits_digits]

theorem decimalNat_injective : Function.Injective decimalNat :=
  Function.LeftInverse.injective digitsValue_decimalNat

theorem decimal_natCast (n : ℕ) : decimal n = decimalNat n := by
  simp [decimal]

/-- A digit is neither white space nor a sign. -/
private theorem isDigit_head {b : UInt8} (h : isDigit b = true) :
    isSpace b = false ∧ b ≠ 45 ∧ b ≠ 43 := by
  simp only [isDigit, Bool.and_eq_true, decide_eq_true_eq] at h
  refine ⟨?_, ?_, ?_⟩
  · simp only [isSpace, Bool.or_eq_false_iff, Bool.and_eq_false_iff, beq_eq_false_iff_ne,
      decide_eq_false_iff_not]
    refine ⟨?_, .inr ?_⟩
    · rintro rfl
      exact absurd h.1 (by decide)
    · intro hle
      exact absurd (UInt8.le_trans h.1 hle) (by decide)
  · rintro rfl
    exact absurd h.1 (by decide)
  · rintro rfl
    exact absurd h.1 (by decide)

theorem stoll_decimal (x : Int64) : stoll (decimal x.toInt) = some x := by
  have hlo := x.le_toInt
  have hhi := x.toInt_lt
  have hdigits := decimalNat_digits x.toInt.natAbs
  have htake : (decimalNat x.toInt.natAbs).takeWhile isDigit = decimalNat x.toInt.natAbs :=
    List.takeWhile_eq_self_iff.mpr hdigits
  have hvalue := digitsValue_decimalNat x.toInt.natAbs
  obtain ⟨b, rest, hcons⟩ := List.exists_cons_of_ne_nil (decimalNat_ne_nil x.toInt.natAbs)
  unfold decimal
  split
  · next hneg =>
      have habs : -((x.toInt.natAbs : ℕ) : ℤ) = x.toInt := by omega
      have hspace : isSpace 45 = false := by decide
      simp only [stoll, List.dropWhile_cons, hspace, Bool.false_eq_true, if_false,
        List.head?_cons, beq_self_eq_true, Bool.true_or, if_true, List.tail_cons, htake, hvalue,
        habs]
      rw [if_neg (by simp [decimalNat_ne_nil]; omega), Int64.ofInt_toInt]
  · next hneg =>
      have habs : ((x.toInt.natAbs : ℕ) : ℤ) = x.toInt := by omega
      obtain ⟨hspace, hminus, hplus⟩ := isDigit_head (hdigits b (by simp [hcons]))
      have hdrop : (decimalNat x.toInt.natAbs).dropWhile isSpace = decimalNat x.toInt.natAbs := by
        rw [hcons, List.dropWhile_cons, hspace]
        rfl
      have hhead : (decimalNat x.toInt.natAbs).head? = some b := by rw [hcons]; rfl
      simp only [stoll, hdrop, hhead, Option.some_beq_some, Bool.or_self,
        Bool.false_eq_true, if_false, beq_eq_false_iff_ne.mpr hminus,
        beq_eq_false_iff_ne.mpr hplus, htake, hvalue, habs]
      rw [if_neg (by simp [decimalNat_ne_nil]; omega), Int64.ofInt_toInt]

theorem decimal_ne_nil (z : ℤ) : decimal z ≠ [] := by
  unfold decimal
  split
  · simp
  · exact decimalNat_ne_nil _

theorem decimal_injective : Function.Injective decimal := by
  have hsign : ∀ n m, decimalNat n ≠ 45 :: decimalNat m := fun n m heq =>
    absurd (decimalNat_digits n 45 (heq ▸ List.mem_cons_self)) (by decide)
  intro y z heq
  unfold decimal at heq
  split_ifs at heq with hy hz hz
  · have habs := decimalNat_injective (List.cons.inj heq).2
    omega
  · exact absurd heq.symm (hsign _ _)
  · exact absurd heq (hsign _ _)
  · have habs := decimalNat_injective heq
    omega

end AgentMemory
