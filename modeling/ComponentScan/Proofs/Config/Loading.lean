import ComponentScan.Config.Load
import ComponentScan.Proofs.Traversal

/-!
# What a loaded configuration is

In a loaded configuration a setting has the value of its variable, if the variable holds a value of
the setting's type, and else the value the file gives it (`value_override`). A configuration is
loaded exactly if it is in range twice, as the file has it and with the variables in place
(`load_eq_ok_iff`). So a value in the file that is out of range is refused even where a variable
takes its place (`load_refuses_replaced`), while one in range is forgotten.
-/

namespace ComponentScan

/-! ## The values of settings -/

/-- A value of a setting. -/
inductive SettingValue where
  | text (s : String)
  | flag (b : Bool)
  | size (n : Nat)
  deriving Repr, DecidableEq

namespace Setting

variable {env : Environment} {c c' : Config} {s t : Setting}

/-- The value of a setting in a configuration. -/
def value (c : Config) : Setting → SettingValue
  | logLevel => .text c.general.logLevel
  | logFormat => .text c.general.logFormat
  | enabled => .flag c.matcher.enabled
  | runDeferredPass => .flag c.matcher.runDeferredPass
  | expandInventories => .flag c.matcher.expandInventories
  | purgeAbsorbed => .flag c.matcher.purgeAbsorbed
  | rulesDir => .text c.matcher.rulesDir
  | maxScannedFiles => .size c.matcher.maxScannedFiles

/-- The value of a setting's type that a text stands for. -/
def read? (text : String) : Setting → Option SettingValue
  | logLevel | logFormat | rulesDir => some (.text text)
  | enabled | runDeferredPass | expandInventories | purgeAbsorbed => (readBool? text).map .flag
  | maxScannedFiles => (readSize? text).map .size

/-- The value that an environment gives a setting: that of its variable, if there is one of the
setting's type. -/
def valueIn? (env : Environment) (s : Setting) : Option SettingValue :=
  (env.lookup s.variableName).bind fun text => s.read? text

theorem mem_all (s : Setting) : s ∈ all := by
  cases s <;> decide

/-- A configuration is determined by the values of its settings. -/
theorem eq_of_value (h : ∀ s, value c s = value c' s) : c = c' := by
  obtain ⟨⟨level, format⟩, ⟨on, deferred, expand, purge, dir, size⟩⟩ := c
  obtain ⟨⟨level', format'⟩, ⟨on', deferred', expand', purge', dir', size'⟩⟩ := c'
  obtain rfl : level = level' := SettingValue.text.inj (h .logLevel)
  obtain rfl : format = format' := SettingValue.text.inj (h .logFormat)
  obtain rfl : on = on' := SettingValue.flag.inj (h .enabled)
  obtain rfl : deferred = deferred' := SettingValue.flag.inj (h .runDeferredPass)
  obtain rfl : expand = expand' := SettingValue.flag.inj (h .expandInventories)
  obtain rfl : purge = purge' := SettingValue.flag.inj (h .purgeAbsorbed)
  obtain rfl : dir = dir' := SettingValue.text.inj (h .rulesDir)
  obtain rfl : size = size' := SettingValue.size.inj (h .maxScannedFiles)
  rfl

/-! ## One variable -/

/-- Whether a text is a value of a setting does not depend on the configuration. -/
theorem isSome_set? (s : Setting) (text : String) (c : Config) :
    (s.set? text c).isSome = (s.read? text).isSome := by
  cases s <;> simp [set?, read?]

/-- A setting that is set has the value of the text. -/
theorem read?_of_set? {text : String} (h : s.set? text c = some c') :
    s.read? text = some (value c' s) := by
  cases s with
  | logLevel | logFormat | rulesDir =>
    obtain rfl := Option.some.inj h
    rfl
  | enabled | runDeferredPass | expandInventories | purgeAbsorbed | maxScannedFiles =>
    obtain ⟨x, hx, rfl⟩ := Option.map_eq_some_iff.1 h
    simp only [read?, hx, Option.map_some, value]

/-- No other setting changes. -/
theorem value_of_set? {text : String} (h : s.set? text c = some c') (hst : t ≠ s) :
    value c' t = value c t := by
  cases s with
  | logLevel | logFormat | rulesDir =>
    obtain rfl := Option.some.inj h
    cases t <;> first | rfl | contradiction
  | enabled | runDeferredPass | expandInventories | purgeAbsorbed | maxScannedFiles =>
    obtain ⟨x, -, rfl⟩ := Option.map_eq_some_iff.1 h
    cases t <;> first | rfl | contradiction

/-- Whether a variable is ignored does not depend on the configuration. -/
theorem overrideNotice?_eq (env : Environment) (c c' : Config) (s : Setting) :
    overrideNotice? env c s = overrideNotice? env c' s := by
  have hset (text : String) : (s.set? text c).isNone = (s.set? text c').isNone := by
    rw [← Option.not_isSome, ← Option.not_isSome, isSome_set?, isSome_set?]
  simp only [overrideNotice?, hset]

theorem override_of_none (h : s.valueIn? env = none) (c : Config) : override env c s = c := by
  unfold override
  cases htext : env.lookup s.variableName with
  | none => rfl
  | some text =>
    have hread : s.read? text = none := by simpa [valueIn?, htext] using h
    have hset : s.set? text c = none := by
      rw [← Option.not_isSome_iff_eq_none, isSome_set?, hread]
      exact Bool.false_ne_true
    simp only [hset, Option.getD_none]

theorem override_of_some {v : SettingValue} (h : s.valueIn? env = some v) (c : Config) :
    value (override env c s) s = v ∧ ∀ t, t ≠ s → value (override env c s) t = value c t := by
  obtain ⟨text, htext, hread⟩ := Option.bind_eq_some_iff.1 h
  obtain ⟨c', hset⟩ : ∃ c', s.set? text c = some c' := by
    rw [← Option.isSome_iff_exists, isSome_set?, hread]
    rfl
  have hc' : override env c s = c' := by simp only [override, htext, hset, Option.getD_some]
  rw [hc']
  exact ⟨Option.some.inj ((read?_of_set? hset).symm.trans hread), fun t => value_of_set? hset⟩

theorem value_override_self (env : Environment) (c : Config) (s : Setting) :
    value (override env c s) s = (s.valueIn? env).getD (value c s) := by
  cases h : s.valueIn? env with
  | none => rw [override_of_none h, Option.getD_none]
  | some v => rw [(override_of_some h c).1, Option.getD_some]

theorem value_override_of_ne (h : t ≠ s) (env : Environment) (c : Config) :
    value (override env c s) t = value c t := by
  cases hs : s.valueIn? env with
  | none => rw [override_of_none hs]
  | some v => exact (override_of_some hs c).2 t h

/-! ## All variables -/

theorem value_foldl (env : Environment) (c : Config) (settings : List Setting) (s : Setting) :
    value (settings.foldl (override env) c) s =
      if s ∈ settings then (s.valueIn? env).getD (value c s) else value c s := by
  induction settings generalizing c with
  | nil => rfl
  | cons t settings ih =>
    rw [List.foldl_cons, ih]
    by_cases hst : s = t
    · subst hst
      rw [value_override_self, if_pos List.mem_cons_self]
      cases s.valueIn? env <;> simp
    · rw [value_override_of_ne hst]
      simp [hst]

end Setting

namespace Config

variable {files files' : Files} {env : Environment} {path path' text text' : String}

/-- A setting has the value of its variable, if there is one of its type, and else its own. -/
theorem value_override (c : Config) (env : Environment) (s : Setting) :
    s.value (c.override env) = (s.valueIn? env).getD (s.value c) := by
  rw [override, Setting.value_foldl, if_pos s.mem_all]

/-- A value that is replaced is forgotten. -/
theorem override_congr {c c' : Config}
    (h : ∀ s : Setting, s.valueIn? env = none → s.value c = s.value c') :
    c.override env = c'.override env := by
  apply Setting.eq_of_value
  intro s
  rw [value_override, value_override]
  cases hs : s.valueIn? env with
  | none => exact h s hs
  | some v => rfl

theorem overrideJournal_eq (c c' : Config) (env : Environment) :
    c.overrideJournal env = c'.overrideJournal env := by
  unfold overrideJournal
  rw [funext fun s => Setting.overrideNotice?_eq env c c' s]

/-! ## Loading -/

theorem checked_eq_ok_iff {c d : Config} : c.checked = .ok d ↔ d = c ∧ c.validate = .ok () := by
  unfold checked
  cases c.validate with
  | ok => simp [eq_comm]
  | error e => simp

theorem checked_of_error {c : Config} {e : ConfigError} (h : c.validate = .error e) :
    c.checked = .error (.config e) := by
  rw [checked, h]

theorem ofFile_of_parse {written : Config} (h : files.readText path = .ok text)
    (hparse : parse text = .ok written) : ofFile files path = written.checked := by
  simp only [ofFile, h, hparse]

theorem ofFile_eq_ok_iff {c : Config} (h : files.readText path = .ok text) :
    ofFile files path = .ok c ↔ parse text = .ok c ∧ c.validate = .ok () := by
  cases hparse : parse text with
  | error e => simp [ofFile, h, hparse]
  | ok written =>
    rw [ofFile_of_parse h hparse, checked_eq_ok_iff, Except.ok.injEq, eq_comm]
    exact and_congr_right fun hc => by rw [hc]

theorem result_load (files : Files) (env : Environment) (path : String) :
    (load files env path).result = ofFile files path >>= fun c => (c.override env).checked := by
  rw [load, Reported.result_bind]
  rfl

theorem load_of_ofFile {c : Config} (h : ofFile files path = .ok c) :
    load files env path = c.withEnvironment env := by
  rw [load, h]
  rfl

/-- Two files that are in range are loaded alike if they agree on the settings whose variables do
not take their place. -/
theorem load_congr {written written' : Config} (h : ofFile files path = .ok written)
    (h' : ofFile files' path' = .ok written')
    (hagree : ∀ s, Setting.valueIn? env s = none → s.value written = s.value written') :
    load files env path = load files' env path' := by
  rw [load_of_ofFile h, load_of_ofFile h', withEnvironment, withEnvironment,
    override_congr hagree, overrideJournal_eq written written' env]

/-- A file is loaded exactly if its configuration is in range as it is written and again with the
variables of the environment in place, and the latter is what is loaded. A file that is out of range
as written is refused, with any variables. Beyond that, a value that a variable takes the place of
decides nothing. -/
theorem load_eq_ok_iff (files : Files) (env : Environment) (path text : String)
    (h : files.readText path = .ok text) :
    (∀ c, (load files env path).result = .ok c ↔
      ∃ written, parse text = .ok written ∧ written.validate = .ok () ∧
        c = written.override env ∧ c.validate = .ok ()) ∧
    ∀ written, parse text = .ok written →
      (∀ s : Setting, s.value (written.override env) =
        (s.valueIn? env).getD (s.value written)) ∧
      (∀ e, written.validate = .error e → (load files env path).result = .error (.config e)) ∧
      ∀ files' path' text' written', Files.readText files' path' = .ok text' →
        parse text' = .ok written' → written.validate = .ok () → written'.validate = .ok () →
        (∀ s : Setting, s.valueIn? env = none → s.value written = s.value written') →
        load files env path = load files' env path' := by
  refine ⟨fun c => ?_, fun written hparse => ⟨written.value_override env, fun e he => ?_, ?_⟩⟩
  · rw [result_load, bind_eq_ok_iff]
    simp only [ofFile_eq_ok_iff h, checked_eq_ok_iff, and_assoc]
    refine exists_congr fun written => and_congr_right fun _ => and_congr_right fun _ => ?_
    exact and_congr_right fun hc => by rw [hc]
  · rw [result_load, ofFile_of_parse h hparse, checked_of_error he]
    rfl
  · intro files' path' text' written' h' hparse' hvalid hvalid' hagree
    exact load_congr ((ofFile_eq_ok_iff h).2 ⟨hparse, hvalid⟩)
      ((ofFile_eq_ok_iff h').2 ⟨hparse', hvalid'⟩) hagree

/-- The variable of one setting takes its place, that of another one is not of its type. -/
theorem load_eq_ok_iff_limit :
    let text := "[matcher]\nrules_dir = \"rules\"\nmax_scanned_files = 5\n"
    let env := [("COMPSCAN_MATCHER_MAX_SCANNED_FILES", "+7"), ("COMPSCAN_MATCHER_ENABLED", "no")]
    let files : Files := fun path =>
      if path = "compscan.toml" then .ok (.file text.toUTF8) else .error .notFound
    files.readText "compscan.toml" = .ok text ∧
      (load files env "compscan.toml").result =
        .ok { matcher := { rulesDir := "rules", maxScannedFiles := 7 } } := by
  intro text env files
  have htext : files.readText "compscan.toml" = .ok text := by decide +kernel
  have hparse : parse text =
      .ok { matcher := { rulesDir := "rules", maxScannedFiles := 5 } } := by decide +kernel
  exact ⟨htext, ((load_eq_ok_iff files env _ text htext).1 _).2
    ⟨_, hparse, rfl, by decide +kernel, rfl⟩⟩

/-- A level that does not exist is refused, though a variable takes its place. -/
theorem load_refuses_replaced :
    let text := "[general]\nlog_level = \"loud\"\n"
    let env := [("COMPSCAN_GENERAL_LOG_LEVEL", "info")]
    let files : Files := fun path =>
      if path = "compscan.toml" then .ok (.file text.toUTF8) else .error .notFound
    files.readText "compscan.toml" = .ok text ∧
      (∃ written, parse text = .ok written ∧ written.override env = {} ∧
        (written.override env).validate = .ok ()) ∧
      (load files env "compscan.toml").result = .error (.config (.invalidValue "general.log_level"
        "must be one of: trace, debug, info, warn, error")) := by
  intro text env files
  have htext : files.readText "compscan.toml" = .ok text := by decide +kernel
  have hparse : parse text = .ok { general := { logLevel := "loud" } } := by decide +kernel
  refine ⟨htext, ⟨_, hparse, rfl, rfl⟩, ?_⟩
  rw [result_load, ofFile_of_parse htext hparse]
  rfl

end Config

end ComponentScan
