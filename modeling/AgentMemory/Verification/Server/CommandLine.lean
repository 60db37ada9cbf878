import AgentMemory.Model.ServerMain
import AgentMemory.Verification.Server.Options

/-! # The command line of the server

An accepted command line is a list of options with their values. The last value of each option
overrides that of the configuration file, which overrides the default. -/

namespace AgentMemory

open Foundation

/-! ## Options with their values -/

inductive Setting where
  | config (path : Text)
  | host (value : Text)
  | port (value : Text)
  | data (path : Text)

namespace Setting

def name : Setting → Text
  | config _ => ascii "--config"
  | host _ => ascii "--host"
  | port _ => ascii "--port"
  | data _ => ascii "--data"

def value : Setting → Text
  | config path => path
  | host value => value
  | port value => value
  | data path => path

def words (setting : Setting) : List Text :=
  [setting.name, setting.value]

def path? : Setting → Option Text
  | config path => some path
  | _ => none

def host? : Setting → Option Text
  | host value => some value
  | _ => none

def port? : Setting → Option ℤ
  | port value => parsePort value
  | _ => none

def data? : Setting → Option Text
  | data path => some path
  | _ => none

/-- The value of a port is one that a server can listen on. -/
def Accepted : Setting → Prop
  | port value => (parsePort value).isSome = true
  | _ => True

def apply (options : ServerOptions) : Setting → ServerOptions
  | config _ => options
  | host value => { options with http.host := value }
  | port value => { options with http.port := (parsePort value).getD options.http.port }
  | data path => { options with dataPath := path }

end Setting

/-- The last value that is given, if any is. -/
def lastGiven {α : Type} (f : Setting → Option α) (settings : List Setting) (default : α) : α :=
  (settings.filterMap f).getLast?.getD default

section Given

variable {α : Type} {f : Setting → Option α}

@[simp] theorem lastGiven_nil (default : α) : lastGiven f [] default = default := rfl

@[simp] theorem lastGiven_cons (setting : Setting) (settings : List Setting) (default : α) :
    lastGiven f (setting :: settings) default =
      lastGiven f settings ((f setting).getD default) := by
  unfold lastGiven
  cases hvalue : f setting with
  | none => rw [List.filterMap_cons_none hvalue, Option.getD_none]
  | some a =>
      rw [List.filterMap_cons_some hvalue, List.getLast?_cons, Option.getD_some, Option.getD_some]

end Given

/-! ## The two readings -/

/-- A setting changes the options as the loop does. -/
theorem applyArguments_words {setting : Setting} (h : setting.Accepted) (options : ServerOptions)
    (args : List Text) :
    applyArguments options (setting.words ++ args) = applyArguments (setting.apply options) args := by
  cases setting with
  | config path => rfl
  | host value => rfl
  | data path => rfl
  | port value =>
      obtain ⟨port, hport⟩ := Option.isSome_iff_exists.mp h
      change applyArguments options (ascii "--port" :: value :: args) = _
      have hport' : (Setting.port value).apply options = { options with http.port := port } := by
        simp [Setting.apply, hport]
      rw [hport', applyArguments]
      simp +decide [hport]

theorem applyArguments_settings {settings : List Setting} (h : ∀ setting ∈ settings, setting.Accepted)
    (options : ServerOptions) :
    applyArguments options (settings.flatMap Setting.words) =
      .ok (settings.foldl Setting.apply options) := by
  induction settings generalizing options with
  | nil => rfl
  | cons setting settings ih =>
      obtain ⟨hsetting, hrest⟩ := List.forall_mem_cons.mp h
      rw [List.flatMap_cons, applyArguments_words hsetting, ih hrest, List.foldl_cons]

/-- The loop accepts a list of settings only. -/
theorem settings_of_applyArguments {args : List Text} {options options' : ServerOptions}
    (h : applyArguments options args = .ok options') :
    ∃ settings : List Setting, args = settings.flatMap Setting.words ∧
      ∀ setting ∈ settings, setting.Accepted := by
  have hprepend {setting : Setting} (hsetting : setting.Accepted) {rest : List Text}
      (hrest : ∃ settings : List Setting, rest = settings.flatMap Setting.words ∧
        ∀ setting ∈ settings, setting.Accepted) :
      ∃ settings : List Setting, setting.words ++ rest = settings.flatMap Setting.words ∧
        ∀ setting ∈ settings, setting.Accepted := by
    obtain ⟨settings, rfl, haccepted⟩ := hrest
    exact ⟨setting :: settings, rfl, List.forall_mem_cons.mpr ⟨hsetting, haccepted⟩⟩
  fun_induction applyArguments options args with
  | case1 => exact ⟨[], rfl, by simp⟩
  | case3 options value rest ih =>
      have hsetting : (Setting.config value).Accepted := trivial
      exact hprepend hsetting (ih h)
  | case5 options value rest _ ih =>
      have hsetting : (Setting.host value).Accepted := trivial
      exact hprepend hsetting (ih h)
  | case8 options value rest port hport _ _ ih =>
      have hsetting : (Setting.port value).Accepted := Option.isSome_iff_exists.mpr ⟨port, hport⟩
      exact hprepend hsetting (ih h)
  | case10 options value rest _ _ _ ih =>
      have hsetting : (Setting.data value).Accepted := trivial
      exact hprepend hsetting (ih h)
  | _ => cases h

/-! ## The configuration file -/

theorem findConfigPath_other {configPath name value : Text} {args : List Text}
    (hname : name ≠ ascii "--config") (hvalue : value ≠ ascii "--config") :
    findConfigPath configPath (name :: value :: args) = findConfigPath configPath args := by
  conv_lhs => rw [findConfigPath.eq_def]
  dsimp only
  rw [if_neg hname]
  conv_lhs => rw [findConfigPath.eq_def]
  dsimp only
  rw [if_neg hvalue]

theorem name_ne_config {setting : Setting} (h : setting.path? = none) :
    setting.name ≠ ascii "--config" := by
  cases setting with
  | config path => cases h
  | _ => simp +decide [Setting.name]

theorem findConfigPath_settings {settings : List Setting}
    (h : ∀ setting ∈ settings, setting.path? = none → setting.value ≠ ascii "--config")
    (configPath : Text) :
    findConfigPath configPath (settings.flatMap Setting.words) =
      .ok (lastGiven Setting.path? settings configPath) := by
  induction settings generalizing configPath with
  | nil => rfl
  | cons setting settings ih =>
      obtain ⟨hsetting, hrest⟩ := List.forall_mem_cons.mp h
      rw [List.flatMap_cons, lastGiven_cons, ← ih hrest]
      cases hpath : setting.path? with
      | none => exact findConfigPath_other (name_ne_config hpath) (hsetting hpath)
      | some path =>
          cases setting with
          | config path' =>
              cases hpath
              rfl
          | _ => cases hpath

/-- The value of an accepted setting is taken for an option by neither reading. -/
theorem values_ne_config {settings : List Setting}
    (haccepted : ∀ setting ∈ settings, setting.Accepted)
    (hhost : ¬[ascii "--host", ascii "--config"] <:+: settings.flatMap Setting.words)
    (hdata : ¬[ascii "--data", ascii "--config"] <:+: settings.flatMap Setting.words) :
    ∀ setting ∈ settings, setting.path? = none → setting.value ≠ ascii "--config" := by
  intro setting hmem hpath hvalue
  obtain ⟨before, after, hsplit⟩ := List.append_of_mem hmem
  have hwords : setting.words <:+: settings.flatMap Setting.words := by
    rw [hsplit, List.flatMap_append, List.flatMap_cons]
    exact ⟨before.flatMap Setting.words, after.flatMap Setting.words, by simp⟩
  cases setting with
  | config path => cases hpath
  | host value =>
      cases hvalue
      exact hhost hwords
  | data value =>
      cases hvalue
      exact hdata hwords
  | port value =>
      cases hvalue
      have hport : (parsePort (ascii "--config")).isSome = true := haccepted _ hmem
      exact absurd hport (by decide +kernel)

theorem foldl_apply (settings : List Setting) (options : ServerOptions) :
    settings.foldl Setting.apply options = { options with
      dataPath := lastGiven Setting.data? settings options.dataPath
      http := { options.http with
        host := lastGiven Setting.host? settings options.http.host
        port := lastGiven Setting.port? settings options.http.port } } := by
  induction settings generalizing options with
  | nil => rfl
  | cons setting settings ih =>
      rw [List.foldl_cons, ih]
      simp only [lastGiven_cons]
      cases setting <;> rfl

/-- Where both readings agree on what is an option, the server is to be set up with the last value
of each option that is given, the rest being as in the last configuration file that is named. No
other command line comes so far. -/
theorem run_serving_iff (host : StartupHost) {args : List Text} {options : ServerOptions}
    (hhost : ¬[ascii "--host", ascii "--config"] <:+: args)
    (hdata : ¬[ascii "--data", ascii "--config"] <:+: args) :
    host.run args = .ok (.serving options) ↔
      ascii "--help" ∉ args ∧ ∃ settings : List Setting,
        args = settings.flatMap Setting.words ∧ (∀ setting ∈ settings, setting.Accepted) ∧
        ∃ base, host.configured (lastGiven Setting.path? settings []) = .ok base ∧
          options = { base with
            dataPath := lastGiven Setting.data? settings base.dataPath
            http := { base.http with
              host := lastGiven Setting.host? settings base.http.host
              port := lastGiven Setting.port? settings base.http.port } } ∧
          validateServerOptions options true = .ok () := by
  constructor
  · intro h
    unfold StartupHost.run at h
    by_cases hhelp : hasHelpOption args = true
    · rw [if_pos hhelp] at h
      cases h
    rw [if_neg hhelp] at h
    cases hpath : findConfigPath [] args with
    | error message =>
        rw [hpath] at h
        cases h
    | ok configPath =>
        rw [hpath] at h
        obtain ⟨base, hbase, h⟩ := except_bind_eq_ok h
        cases happly : applyArguments base args with
        | error message =>
            rw [happly] at h
            cases h
        | ok options' =>
            rw [happly] at h
            obtain ⟨⟨⟩, hvalid, h⟩ := except_bind_eq_ok h
            cases h
            obtain ⟨settings, rfl, haccepted⟩ := settings_of_applyArguments happly
            rw [findConfigPath_settings (values_ne_config haccepted hhost hdata)] at hpath
            rw [applyArguments_settings haccepted, foldl_apply] at happly
            cases hpath
            cases happly
            exact ⟨by simpa [hasHelpOption] using hhelp, settings, rfl, haccepted, base, hbase, rfl,
              hvalid⟩
  · rintro ⟨hhelp, settings, rfl, haccepted, base, hbase, hoptions, hvalid⟩
    have hnone : hasHelpOption (settings.flatMap Setting.words) = false := by
      simpa [hasHelpOption] using hhelp
    have hpath := findConfigPath_settings (values_ne_config haccepted hhost hdata) []
    have happly := applyArguments_settings haccepted base
    rw [foldl_apply, ← hoptions] at happly
    have hbind (f : ServerOptions → Except Thrown Startup) : (Except.ok base >>= f) = f base := rfl
    unfold StartupHost.run
    rw [if_neg (by simp [hnone]), hpath]
    dsimp only
    rw [hbase, hbind, happly]
    simp [hvalid]

def portHost : StartupHost where
  readFile path := if path = ascii "c.json" then some (ascii "c") else none
  parseJson text := if text = ascii "c" then some (portConfig 8123) else none

/-- The port is given in the file and twice on the command line. -/
theorem run_serving_last_port :
    portHost.run [ascii "--config", ascii "c.json", ascii "--port", ascii "9000", ascii "--data",
        ascii "d", ascii "--port", ascii "9001"] =
      .ok (.serving { dataPath := ascii "d", tokenBudget := 2048, http := { port := 9001 } }) := by
  refine (run_serving_iff portHost (by decide +kernel) (by decide +kernel)).mpr
    ⟨by decide +kernel, [.config (ascii "c.json"), .port (ascii "9000"), .data (ascii "d"),
      .port (ascii "9001")], rfl, ?_, { tokenBudget := 2048, http := { port := 8123 } }, rfl, ?_, rfl⟩
  · simp only [List.forall_mem_cons, Setting.Accepted]
    exact ⟨trivial, by decide +kernel, trivial, by decide +kernel, by simp⟩
  · rfl

end AgentMemory
