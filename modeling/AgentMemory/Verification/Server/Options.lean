import AgentMemory.Foundation.Narrowing
import AgentMemory.Model.ServerOptions
import AgentMemory.Verification.Serialization.Codec

/-! # What an accepted configuration means

An integer option is converted to `int` when it is read, before its range is checked. A size is
checked as it is. -/

namespace AgentMemory

open Foundation

/-! ## The integer options -/

/-- The integer of a JSON number that is stored as one. -/
def Json.integerValue? : Json → Option ℤ
  | .integer n => some n
  | .unsigned n => some n
  | _ => none

/-- Where an option is in a configuration, where its value is kept and what its range is. -/
structure IntegerOption where
  sections : List String
  key : String
  value : ServerOptions → ℤ
  isSize : Bool
  inRange : ℤ → Bool

def integerOptions : List IntegerOption :=
  [⟨["memory"], "offloadThreshold", (·.offloadThreshold), false, fun n => 0 ≤ n⟩,
    ⟨["memory"], "tokenBudget", (·.tokenBudget), false, fun n => 0 < n⟩,
    ⟨["server", "http"], "port", (·.http.port), false, fun n => 1 ≤ n && n ≤ 65535⟩,
    ⟨["server", "http"], "readTimeoutSeconds", (·.http.readTimeoutSeconds), false, fun n => 0 ≤ n⟩,
    ⟨["server", "http"], "writeTimeoutSeconds", (·.http.writeTimeoutSeconds), false,
      fun n => 0 ≤ n⟩,
    ⟨["server", "http"], "threadCount", (·.http.threadCount), false, fun n => 0 ≤ n⟩,
    ⟨["server", "http"], "maxPayloadBytes", fun opts => opts.http.maxPayloadBytes, true,
      fun n => 0 < n⟩,
    ⟨["server", "mcp"], "maxMessageBytes", fun opts => opts.mcp.maxMessageBytes, true,
      fun n => 0 < n⟩]

namespace IntegerOption

/-- The member of a configuration that sets the option. -/
def written (option : IntegerOption) (j : Json) : Option Json :=
  (option.sections.foldl jsonFieldValue j).member? (ascii option.key)

/-- The value that is kept for a number that is written. -/
def kept (option : IntegerOption) (n : ℤ) : ℤ :=
  if option.isSize then n else n.bmod (2 ^ 32)

/-- What was read is what was written up to the conversion, or the default. -/
def Loaded (option : IntegerOption) (j : Json) (opts : ServerOptions) : Prop :=
  (option.written j = none ∧ option.value opts = option.value {}) ∨
    ∃ v n, option.written j = some v ∧ v.integerValue? = some n ∧
      option.value opts = option.kept n

/-- The option is the integer that is written, which is in range, or the default. -/
def Means (option : IntegerOption) (j : Json) (opts : ServerOptions) : Prop :=
  (option.written j = none ∧ option.value opts = option.value {}) ∨
    ∃ v n, option.written j = some v ∧ v.integerValue? = some n ∧ option.value opts = n ∧
      option.inRange n = true

/-- A size, or an integer that is an `int` if it is written. -/
def fits (option : IntegerOption) (j : Json) : Bool :=
  option.isSize || ((option.written j).bind Json.integerValue?).all isInt

end IntegerOption

theorem bmod_eq_self_iff {n : ℤ} : n.bmod (2 ^ 32) = n ↔ isInt n = true := by
  rw [isInt_iff]
  exact bmod_two_pow_eq_self_iff

/-! ## Reading one member -/

section Readers

variable {j : Json} {key : String}

theorem loadInt_ok {defaultValue x : ℤ} (h : loadInt j key defaultValue = .ok x) :
    (j.member? (ascii key) = none ∧ x = defaultValue) ∨
      ∃ v n, j.member? (ascii key) = some v ∧ v.integerValue? = some n ∧ x = n.bmod (2 ^ 32) := by
  unfold loadInt at h
  split at h
  · next hnone => exact .inl ⟨hnone, (Except.ok.inj h).symm⟩
  · next n hn => exact .inr ⟨_, n, hn, rfl, (Except.ok.inj h).symm⟩
  · next n hn => exact .inr ⟨_, n, hn, rfl, (Except.ok.inj h).symm⟩
  · cases h

theorem loadSize_ok {defaultValue x : ℕ} (h : loadSize j key defaultValue = .ok x) :
    (j.member? (ascii key) = none ∧ x = defaultValue) ∨
      ∃ v n, j.member? (ascii key) = some v ∧ v.integerValue? = some n ∧ (x : ℤ) = n := by
  unfold loadSize at h
  split at h
  · next hnone => exact .inl ⟨hnone, (Except.ok.inj h).symm⟩
  · next n hn =>
    split at h
    · exact .inr ⟨_, n, hn, rfl, by rw [Except.ok.inj h]⟩
    · cases h
  · cases h

/-- A section that is missing is read as an empty one. -/
theorem loadSubObject_ok {sub : Json} (h : loadSubObject j key = .ok sub) (key' : Text) :
    sub.member? key' = (jsonFieldValue j key).member? key' := by
  unfold loadSubObject at h
  unfold jsonFieldValue
  split at h
  · next hnone =>
    rw [hnone, ← Except.ok.inj h]
    rfl
  · next members hmembers =>
    rw [hmembers, ← Except.ok.inj h]
    rfl
  · cases h

end Readers

/-! ## Reading the sections -/

section Sections

variable {opts opts' : ServerOptions}

theorem loadMemoryOptions_ok {memory : Json} (h : loadMemoryOptions memory opts = .ok opts') :
    loadInt memory "offloadThreshold" opts.offloadThreshold = .ok opts'.offloadThreshold ∧
      loadInt memory "tokenBudget" opts.tokenBudget = .ok opts'.tokenBudget ∧
      opts'.http = opts.http ∧ opts'.mcp = opts.mcp := by
  obtain ⟨_, _, h⟩ := except_bind_eq_ok h
  obtain ⟨_, _, h⟩ := except_bind_eq_ok h
  obtain ⟨_, _, h⟩ := except_bind_eq_ok h
  obtain ⟨offloadThreshold, hoffload, h⟩ := except_bind_eq_ok h
  obtain ⟨tokenBudget, hbudget, h⟩ := except_bind_eq_ok h
  obtain rfl := Except.ok.inj h
  exact ⟨hoffload, hbudget, rfl, rfl⟩

/-- The sections that hold no integer option leave all of them as they are. -/
def SameIntegers (opts opts' : ServerOptions) : Prop :=
  opts'.offloadThreshold = opts.offloadThreshold ∧ opts'.tokenBudget = opts.tokenBudget ∧
    opts'.http = opts.http ∧ opts'.mcp = opts.mcp

theorem loadModelOptions_ok {model : Json} (h : loadModelOptions model opts = .ok opts') :
    SameIntegers opts opts' := by
  obtain ⟨_, _, h⟩ := except_bind_eq_ok h
  obtain ⟨strictModelConfig, _, h⟩ := except_bind_eq_ok h
  obtain ⟨enabled, _, h⟩ := except_bind_eq_ok h
  obtain rfl := Except.ok.inj h
  exact ⟨rfl, rfl, rfl, rfl⟩

theorem loadModelSection_ok {j : Json} (h : loadModelSection j opts = .ok opts') :
    SameIntegers opts opts' := by
  unfold loadModelSection at h
  split at h
  · obtain ⟨model, _, h⟩ := except_bind_eq_ok h
    exact loadModelOptions_ok h
  · obtain rfl := Except.ok.inj h
    exact ⟨rfl, rfl, rfl, rfl⟩

theorem loadAuthOptions_ok {auth : Json} (h : loadAuthOptions auth opts = .ok opts') :
    SameIntegers opts opts' := by
  obtain ⟨_, _, h⟩ := except_bind_eq_ok h
  obtain ⟨apiToken, _, h⟩ := except_bind_eq_ok h
  obtain rfl := Except.ok.inj h
  exact ⟨rfl, rfl, rfl, rfl⟩

theorem loadHttpOptions_ok {http : Json} (h : loadHttpOptions http opts = .ok opts') :
    loadInt http "port" opts.http.port = .ok opts'.http.port ∧
      loadSize http "maxPayloadBytes" opts.http.maxPayloadBytes =
        .ok opts'.http.maxPayloadBytes ∧
      loadInt http "readTimeoutSeconds" opts.http.readTimeoutSeconds =
        .ok opts'.http.readTimeoutSeconds ∧
      loadInt http "writeTimeoutSeconds" opts.http.writeTimeoutSeconds =
        .ok opts'.http.writeTimeoutSeconds ∧
      loadInt http "threadCount" opts.http.threadCount = .ok opts'.http.threadCount ∧
      opts'.offloadThreshold = opts.offloadThreshold ∧ opts'.tokenBudget = opts.tokenBudget ∧
      opts'.mcp = opts.mcp := by
  obtain ⟨_, _, h⟩ := except_bind_eq_ok h
  obtain ⟨host, _, h⟩ := except_bind_eq_ok h
  obtain ⟨port, hport, h⟩ := except_bind_eq_ok h
  obtain ⟨maxPayloadBytes, hbytes, h⟩ := except_bind_eq_ok h
  obtain ⟨readTimeoutSeconds, hread, h⟩ := except_bind_eq_ok h
  obtain ⟨writeTimeoutSeconds, hwrite, h⟩ := except_bind_eq_ok h
  obtain ⟨threadCount, hthreads, h⟩ := except_bind_eq_ok h
  obtain rfl := Except.ok.inj h
  exact ⟨hport, hbytes, hread, hwrite, hthreads, rfl, rfl, rfl⟩

theorem loadMcpOptions_ok {mcp : Json} (h : loadMcpOptions mcp opts = .ok opts') :
    loadSize mcp "maxMessageBytes" opts.mcp.maxMessageBytes = .ok opts'.mcp.maxMessageBytes ∧
      opts'.offloadThreshold = opts.offloadThreshold ∧ opts'.tokenBudget = opts.tokenBudget ∧
      opts'.http = opts.http := by
  obtain ⟨_, _, h⟩ := except_bind_eq_ok h
  obtain ⟨mode, _, h⟩ := except_bind_eq_ok h
  obtain ⟨path, _, h⟩ := except_bind_eq_ok h
  obtain ⟨maxMessageBytes, hbytes, h⟩ := except_bind_eq_ok h
  obtain rfl := Except.ok.inj h
  exact ⟨hbytes, rfl, rfl, rfl⟩

theorem IntegerOption.Loaded.of_loadInt {option : IntegerOption} {j sub : Json}
    (hsub : ∀ key, sub.member? key = (option.sections.foldl jsonFieldValue j).member? key)
    (hsize : option.isSize = false)
    (h : loadInt sub option.key (option.value {}) = .ok (option.value opts)) :
    option.Loaded j opts := by
  rcases loadInt_ok h with ⟨hnone, hvalue⟩ | ⟨v, n, hsome, hinteger, hvalue⟩
  · exact .inl ⟨(hsub _).symm.trans hnone, hvalue⟩
  · refine .inr ⟨v, n, (hsub _).symm.trans hsome, hinteger, ?_⟩
    rw [hvalue, IntegerOption.kept, if_neg (by rw [hsize]; decide)]

theorem IntegerOption.Loaded.of_loadSize {option : IntegerOption} {j sub : Json}
    {defaultValue x : ℕ}
    (hsub : ∀ key, sub.member? key = (option.sections.foldl jsonFieldValue j).member? key)
    (hsize : option.isSize = true) (h : loadSize sub option.key defaultValue = .ok x)
    (hdefault : option.value {} = defaultValue) (hvalue : option.value opts = x) :
    option.Loaded j opts := by
  rcases loadSize_ok h with ⟨hnone, hx⟩ | ⟨v, n, hsome, hinteger, hx⟩
  · exact .inl ⟨(hsub _).symm.trans hnone, by rw [hvalue, hdefault, hx]⟩
  · refine .inr ⟨v, n, (hsub _).symm.trans hsome, hinteger, ?_⟩
    rw [hvalue, hx, IntegerOption.kept, if_pos hsize]

/-- The integer options of a configuration that was read. -/
theorem loadServerOptions_ok {j : Json} (h : loadServerOptions j = .ok opts) :
    ∀ option ∈ integerOptions, option.Loaded j opts := by
  obtain ⟨_, _, h⟩ := except_bind_eq_ok h
  obtain ⟨memory, hmemory, h⟩ := except_bind_eq_ok h
  obtain ⟨opts₁, h₁, h⟩ := except_bind_eq_ok h
  obtain ⟨opts₂, h₂, h⟩ := except_bind_eq_ok h
  obtain ⟨server, hserver, h⟩ := except_bind_eq_ok h
  obtain ⟨_, _, h⟩ := except_bind_eq_ok h
  obtain ⟨debugErrors, _, h⟩ := except_bind_eq_ok h
  obtain ⟨auth, _, h⟩ := except_bind_eq_ok h
  obtain ⟨opts₃, h₃, h⟩ := except_bind_eq_ok h
  obtain ⟨http, hhttp, h⟩ := except_bind_eq_ok h
  obtain ⟨opts₄, h₄, h⟩ := except_bind_eq_ok h
  obtain ⟨mcp, hmcp, h⟩ := except_bind_eq_ok h
  obtain ⟨hoffload, hbudget, hhttp₁, hmcp₁⟩ := loadMemoryOptions_ok h₁
  obtain ⟨hoffload₂, hbudget₂, hhttp₂, hmcp₂⟩ := loadModelSection_ok h₂
  obtain ⟨hoffload₃, hbudget₃, hhttp₃, hmcp₃⟩ := loadAuthOptions_ok h₃
  obtain ⟨hport, hpayload, hread, hwrite, hthreads, hoffload₄, hbudget₄, hmcp₄⟩ :=
    loadHttpOptions_ok h₄
  obtain ⟨hmessage, hoffload₅, hbudget₅, hhttp₅⟩ := loadMcpOptions_ok h
  -- a section of the server is read as one of the configuration
  have hsection : ∀ key, jsonFieldValue server key = jsonFieldValue (jsonFieldValue j "server") key :=
    fun key => by rw [jsonFieldValue, loadSubObject_ok hserver, jsonFieldValue.eq_def _ key]
  have hhttpSub := fun key => (loadSubObject_ok hhttp key).trans (by rw [hsection])
  have hmcpSub := fun key => (loadSubObject_ok hmcp key).trans (by rw [hsection])
  -- before it is read each section has its defaults
  have hhttpDefault : opts₃.http = ({} : ServerOptions).http :=
    hhttp₃.trans (hhttp₂.trans hhttp₁)
  have hmcpDefault : opts₄.mcp = ({} : ServerOptions).mcp :=
    hmcp₄.trans (hmcp₃.trans (hmcp₂.trans hmcp₁))
  have hoffloadKept : opts.offloadThreshold = opts₁.offloadThreshold :=
    hoffload₅.trans (hoffload₄.trans (hoffload₃.trans hoffload₂))
  have hbudgetKept : opts.tokenBudget = opts₁.tokenBudget :=
    hbudget₅.trans (hbudget₄.trans (hbudget₃.trans hbudget₂))
  rw [hhttpDefault, ← hhttp₅] at hport hpayload hread hwrite hthreads
  rw [hmcpDefault] at hmessage
  rw [← hoffloadKept] at hoffload
  rw [← hbudgetKept] at hbudget
  simp only [integerOptions, List.forall_mem_cons]
  refine ⟨?_, ?_, ?_, ?_, ?_, ?_, ?_, ?_, by simp⟩
  · exact .of_loadInt (loadSubObject_ok hmemory) rfl hoffload
  · exact .of_loadInt (loadSubObject_ok hmemory) rfl hbudget
  · exact .of_loadInt hhttpSub rfl hport
  · exact .of_loadInt hhttpSub rfl hread
  · exact .of_loadInt hhttpSub rfl hwrite
  · exact .of_loadInt hhttpSub rfl hthreads
  · exact .of_loadSize hhttpSub rfl hpayload rfl rfl
  · exact .of_loadSize hmcpSub rfl hmessage rfl rfl

/-! ## Checking the values -/

theorem throwIf_ok {condition : Bool} {message : String} {u : Unit}
    (h : throwIf condition message = .ok u) : condition = false := by
  unfold throwIf at h
  split at h
  · cases h
  · simpa using ‹¬condition = true›

theorem validateServerOptions_ok (h : validateServerOptions opts true = .ok ()) :
    ∀ option ∈ integerOptions, option.inRange (option.value opts) = true := by
  obtain ⟨_, _, h⟩ := except_bind_eq_ok h
  obtain ⟨_, hoffload, h⟩ := except_bind_eq_ok h
  obtain ⟨_, hbudget, h⟩ := except_bind_eq_ok h
  obtain ⟨_, _, h⟩ := except_bind_eq_ok h
  obtain ⟨_, _, h⟩ := except_bind_eq_ok h
  obtain ⟨_, hmessage, h⟩ := except_bind_eq_ok h
  obtain ⟨_, _, h⟩ := except_bind_eq_ok h
  obtain ⟨_, hport, h⟩ := except_bind_eq_ok h
  obtain ⟨_, hpayload, h⟩ := except_bind_eq_ok h
  have htimes := throwIf_ok h
  have hoffload := throwIf_ok hoffload
  have hbudget := throwIf_ok hbudget
  have hmessage := throwIf_ok hmessage
  have hport := throwIf_ok hport
  have hpayload := throwIf_ok hpayload
  simp only [Bool.or_eq_false_iff, decide_eq_false_iff_not, not_lt, not_le, beq_eq_false_iff_ne]
    at htimes hoffload hbudget hmessage hport hpayload
  simp only [integerOptions, List.forall_mem_cons, decide_eq_true_eq, Bool.and_eq_true]
  refine ⟨hoffload, hbudget, hport, htimes.1.1, htimes.1.2, htimes.2, ?_, ?_, by simp⟩
  · omega
  · omega

end Sections

/-- Every integer option means what the configuration says. -/
def OptionsMean (j : Json) (opts : ServerOptions) : Prop :=
  ∀ option ∈ integerOptions, option.Means j opts

/-- An accepted configuration means what it says just when its integer options, but for the sizes,
are written as numbers of type `int`. -/
theorem serverOptions_mean_iff {j : Json} {opts : ServerOptions}
    (hload : loadServerOptions j = .ok opts) (hvalid : validateServerOptions opts true = .ok ()) :
    OptionsMean j opts ↔ ∀ option ∈ integerOptions, option.fits j = true := by
  have hranges := validateServerOptions_ok hvalid
  refine forall₂_congr fun option hoption => ?_
  rcases loadServerOptions_ok hload option hoption with hdefault | ⟨v, n, hv, hn, hvalue⟩
  · refine iff_of_true (.inl hdefault) ?_
    simp [IntegerOption.fits, hdefault.1]
  · have hmeans : option.Means j opts ↔ option.kept n = n := by
      constructor
      · rintro (⟨hnone, -⟩ | ⟨v', n', hv', hn', hvalue', -⟩)
        · rw [hv] at hnone
          cases hnone
        · obtain rfl := Option.some_inj.mp (hv.symm.trans hv')
          obtain rfl := Option.some_inj.mp (hn.symm.trans hn')
          exact hvalue.symm.trans hvalue'
      · intro hkept
        rw [hkept] at hvalue
        exact .inr ⟨v, n, hv, hn, hvalue, hvalue ▸ hranges option hoption⟩
    rw [hmeans, IntegerOption.kept, IntegerOption.fits, hv, Option.bind_some, hn]
    cases option.isSize with
    | true => simp
    | false => simpa using bmod_eq_self_iff

/-- A configuration with a port and a budget. -/
def portConfig (port : ℕ) : Json :=
  .object [(ascii "memory", .object [(ascii "tokenBudget", .unsigned 2048)]),
    (ascii "server", .object [(ascii "http", .object [(ascii "port", .unsigned port)])])]

theorem serverOptions_mean_portConfig :
    OptionsMean (portConfig 8123) { tokenBudget := 2048, http := { port := 8123 } } :=
  (serverOptions_mean_iff rfl rfl).mpr (by decide +kernel)

/-- A port that is too large by `2 ^ 32` is accepted as the port 8090. -/
theorem serverOptions_not_mean :
    ∃ opts, loadServerOptions (portConfig (2 ^ 32 + 8090)) = .ok opts ∧
      validateServerOptions opts true = .ok () ∧ opts.http.port = 8090 ∧
      ∃ option ∈ integerOptions, option.key = "port" ∧ option.inRange (2 ^ 32 + 8090) = false ∧
        ¬option.Means (portConfig (2 ^ 32 + 8090)) opts := by
  refine ⟨{ tokenBudget := 2048 }, rfl, rfl, rfl,
    ⟨["server", "http"], "port", (·.http.port), false, fun n => 1 ≤ n && n ≤ 65535⟩,
    by simp [integerOptions], rfl, by decide, ?_⟩
  rintro (⟨hnone, -⟩ | ⟨v, n, hv, hn, hvalue, -⟩)
  · cases hnone
  · cases hv
    cases hn
    cases hvalue

end AgentMemory
