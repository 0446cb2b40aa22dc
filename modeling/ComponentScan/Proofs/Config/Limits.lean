import ComponentScan.Command.Scan
import ComponentScan.Proofs.Traversal

/-!
# Configurations that an engine accepts

The settings of an engine are checked twice: with the configuration they are read from, and on their
own when a scan builds its engine. The first check looks at them only if the engine is enabled; the
second one always does, and it knows upper limits that the first one does not. So a configuration in
range may still be refused by the engine, and `accepted_by_engine_iff` tells which ones are not.
-/

namespace ComponentScan

namespace EngineSettings

variable {s : EngineSettings}

/-- Settings that keep the upper limits of an engine. -/
structure WithinLimits (s : EngineSettings) : Prop where
  files : s.maxScannedFiles ≤ fileLimit
  inside : ".." ∉ Path.segments s.rulesDir
  short : s.rulesDir.utf8ByteSize ≤ pathLimit

theorem goesUp_iff {path : String} : goesUp path = true ↔ ".." ∈ Path.segments path := by
  simp only [goesUp, List.contains_iff_mem, Path.segments, List.mem_map, Path.names,
    List.mem_filter, decide_eq_true_eq]
  constructor
  · intro h
    exact ⟨['.', '.'], ⟨h, List.cons_ne_nil _ _⟩, rfl⟩
  · rintro ⟨name, ⟨hname, -⟩, hdots⟩
    rwa [← String.toList_ofList (l := name), hdots] at hname

theorem validate_eq_ok_iff : s.validate = .ok () ↔ 0 < s.maxScannedFiles ∧ s.WithinLimits := by
  unfold validate
  split
  · rename_i hfiles
    refine iff_of_false (by simp) fun ⟨hpos, h⟩ => ?_
    have hmax := h.files
    omega
  split
  · rename_i hup
    exact iff_of_false (by simp) fun h => h.2.inside (goesUp_iff.1 hup)
  split
  · rename_i hlong
    exact iff_of_false (by simp) fun h => Nat.not_lt.2 h.2.short hlong
  · rename_i hfiles hup hlong
    exact iff_of_true rfl ⟨by omega, by omega, fun h => hup (goesUp_iff.2 h), Nat.not_lt.1 hlong⟩

theorem exists_config_of_validate {e : EngineError} (h : s.validate = .error e) :
    ∃ field reason, e = .config field reason := by
  unfold validate at h
  split at h
  · exact ⟨_, _, (Except.error.inj h).symm⟩
  split at h
  · exact ⟨_, _, (Except.error.inj h).symm⟩
  split at h
  · exact ⟨_, _, (Except.error.inj h).symm⟩
  · cases h

end EngineSettings

namespace Config

variable {c : Config}

theorem checkWord_eq_ok_iff {field value : String} {words : List String} :
    checkWord field words value = .ok () ↔ value ∈ words := by
  unfold checkWord
  split <;> simp_all

theorem checkMatcher_eq_ok_iff {s : EngineSettings} :
    checkMatcher s = .ok () ↔ (s.enabled = true → 0 < s.maxScannedFiles ∧ s.rulesDir ≠ "") := by
  unfold checkMatcher
  split
  · simp_all
  split
  · simp_all
  split <;> simp_all [Nat.pos_iff_ne_zero]

/-- The engine settings of a configuration are looked at only if the engine is enabled. -/
theorem validate_eq_ok_iff :
    c.validate = .ok () ↔ c.general.logLevel ∈ logLevels ∧ c.general.logFormat ∈ logFormats ∧
      (c.matcher.enabled = true → 0 < c.matcher.maxScannedFiles ∧ c.matcher.rulesDir ≠ "") := by
  simp only [validate, bind_eq_ok_iff]
  constructor
  · rintro ⟨⟨⟩, hlevel, ⟨⟩, hformat, hmatcher⟩
    exact ⟨checkWord_eq_ok_iff.1 hlevel, checkWord_eq_ok_iff.1 hformat,
      checkMatcher_eq_ok_iff.1 hmatcher⟩
  · rintro ⟨hlevel, hformat, hmatcher⟩
    exact ⟨(), checkWord_eq_ok_iff.2 hlevel, (), checkWord_eq_ok_iff.2 hformat,
      checkMatcher_eq_ok_iff.2 hmatcher⟩

end Config

/-! ## The engine of a scan -/

theorem CommandError.ofEngine_eq_config_iff {e : EngineError} {text : String} :
    ofEngine e = .config text ↔ ∃ field reason, e = .config field reason ∧ e.message = text := by
  cases e <;> simp [ofEngine, EngineError.isDescriptorFault]

namespace Engine

variable {s : EngineSettings} {e : EngineError}

/-- A rule that is refused is no fault of the settings. -/
theorem exists_ruleLoad_of_forM {rules : List Rule}
    (h : (rules.forM fun r => Reported.ofExcept r.validate).result = .error e) :
    ∃ id reason, e = .ruleLoad id reason := by
  induction rules with
  | nil => cases h
  | cons r rules ih =>
    rw [List.forM_eq_forM, List.forM_cons, Reported.result_bind, bind_eq_error_iff] at h
    rcases h with h | ⟨⟨⟩, -, h⟩
    · rw [Reported.result_ofExcept, Rule.validate] at h
      split at h
      · cases h
      · exact ⟨_, _, (Except.error.inj h).symm⟩
    · exact ih h

/-- Building an engine fails for its settings exactly if they are refused. -/
theorem build_eq_config_iff {cs : List Contributor} {rules : List Rule} :
    (∃ field reason, (build s cs rules).result = .error (.config field reason)) ↔
      s.validate ≠ .ok () := by
  simp only [build, Reported.result_bind, Reported.result_ofExcept]
  cases h : s.validate with
  | error e =>
    obtain ⟨field, reason, rfl⟩ := EngineSettings.exists_config_of_validate h
    exact iff_of_true ⟨field, reason, rfl⟩ (by simp)
  | ok =>
    refine iff_of_false ?_ (by simp)
    rintro ⟨field, reason, hbuild⟩
    obtain hbuild | ⟨⟨⟩, -, hbuild⟩ := bind_eq_error_iff.1 hbuild
    · cases hbuild
    obtain hbuild | ⟨⟨⟩, -, hbuild⟩ := bind_eq_error_iff.1 hbuild
    · cases hbuild
    obtain hbuild | ⟨⟨⟩, -, hbuild⟩ := bind_eq_error_iff.1 hbuild
    · obtain ⟨id, reason, hrule⟩ := exists_ruleLoad_of_forM hbuild
      cases hrule
    · cases hbuild

end Engine

namespace ScanRequest

variable {r : ScanRequest} {files : Files} {c : Config} {rules : List Rule}

/-- Leaving the deferred pass out makes no difference to the limits. -/
theorem validate_settings (r : ScanRequest) (c : Config) :
    (r.settings c).validate = c.matcher.validate := by
  unfold settings
  split <;> rfl

theorem result_engine (h : (Rule.loadDirectory files (r.rulesDir c)).result = .ok rules) :
    (r.engine files c).result =
      (Engine.build (r.settings c) [] rules).result.mapError .ofEngine := by
  rw [engine, Reported.result_bind, Reported.mapError, h]
  rfl

theorem engine_eq_config_iff (h : (Rule.loadDirectory files (r.rulesDir c)).result = .ok rules) :
    (∃ text, (r.engine files c).result = .error (.config text)) ↔ c.matcher.validate ≠ .ok () := by
  rw [← validate_settings r, ← Engine.build_eq_config_iff, result_engine h]
  simp only [mapError_eq_error_iff, CommandError.ofEngine_eq_config_iff]
  constructor
  · rintro ⟨_, _, hbuild, field, reason, rfl, -⟩
    exact ⟨field, reason, hbuild⟩
  · rintro ⟨field, reason, hbuild⟩
    exact ⟨_, _, hbuild, field, reason, rfl, rfl⟩

end ScanRequest

namespace Config

/-- An engine accepts the settings of a configuration in range exactly if they keep its upper limits
and allow a file even where the engine is not enabled. A scan that has loaded its rules is refused
as misconfigured for these settings alone, whatever else it asks for. -/
theorem accepted_by_engine_iff (c : Config) (h : c.validate = .ok ()) :
    (c.matcher.validate = .ok () ↔ c.matcher.WithinLimits ∧
      (c.matcher.enabled = false → 0 < c.matcher.maxScannedFiles)) ∧
    ∀ (r : ScanRequest) (files : Files) (rules : List Rule),
      (Rule.loadDirectory files (r.rulesDir c)).result = .ok rules →
      ((∃ text, (r.engine files c).result = .error (.config text)) ↔
        c.matcher.validate ≠ .ok ()) := by
  refine ⟨?_, fun r files rules hrules => ScanRequest.engine_eq_config_iff hrules⟩
  obtain ⟨-, -, henabled⟩ := validate_eq_ok_iff.1 h
  rw [EngineSettings.validate_eq_ok_iff, and_comm]
  refine and_congr_right fun _ => ⟨fun hpos _ => hpos, fun hpos => ?_⟩
  cases hon : c.matcher.enabled with
  | false => exact hpos hon
  | true => exact (henabled hon).1

/-- An engine that is not enabled, with the greatest limit on the number of files. -/
theorem accepted_by_engine_iff_disabled :
    let c : Config :=
      { matcher := { enabled := false, rulesDir := "rules", maxScannedFiles := 50000000 } }
    let files : Files := fun path =>
      if path = "rules" then .ok (.directory []) else .error .notFound
    let r : ScanRequest := { inventory := "scan.json" }
    c.validate = .ok () ∧ c.matcher.validate = .ok () ∧
      (Rule.loadDirectory files (r.rulesDir c)).result = .ok [] ∧
      ∀ text, (r.engine files c).result ≠ .error (.config text) := by
  intro c files r
  obtain ⟨haccepted, hrefused⟩ := accepted_by_engine_iff c rfl
  have hrules : (Rule.loadDirectory files (r.rulesDir c)).result = .ok [] := by decide +kernel
  have hok : c.matcher.validate = .ok () :=
    haccepted.2 ⟨⟨Nat.le_refl _, by decide +kernel, by decide +kernel⟩, fun _ => by decide⟩
  refine ⟨rfl, hok, hrules, fun text htext => ?_⟩
  exact (hrefused r files [] hrules).1 ⟨text, htext⟩ hok

/-- Configurations in range with which no scan gets an engine: one that allows too many files, one
whose rules lie upwards, and one that is not enabled and allows no file. -/
theorem refused_by_engine :
    let many : Config := { matcher := { maxScannedFiles := 50000001 } }
    let upwards : Config := { matcher := { rulesDir := "rules/../more" } }
    let off : Config := { matcher := { enabled := false, maxScannedFiles := 0 } }
    let files : Files := fun path =>
      if path = "rules" then .ok (.directory []) else .error .notFound
    let r : ScanRequest := { inventory := "scan.json", rules := some "rules" }
    ∀ c ∈ [many, upwards, off], c.validate = .ok () ∧ c.matcher.validate ≠ .ok () ∧
      ∃ text, (r.engine files c).result = .error (.config text) := by
  intro many upwards off files r
  have hboth : ∀ c ∈ [many, upwards, off],
      c.validate = .ok () ∧ c.matcher.validate ≠ .ok () := by decide +kernel
  have hrules : (Rule.loadDirectory files "rules").result = .ok [] := by decide +kernel
  intro c hc
  obtain ⟨hvalid, hrefused⟩ := hboth c hc
  exact ⟨hvalid, hrefused, (ScanRequest.engine_eq_config_iff hrules).2 hrefused⟩

end Config

end ComponentScan
