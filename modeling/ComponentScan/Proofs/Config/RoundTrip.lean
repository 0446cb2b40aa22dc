import ComponentScan.Command.Run
import ComponentScan.Proofs.Config.Loading
import ComponentScan.Proofs.Toml.Documents

/-!
# Configurations are read back

A configuration that is written as text is read back as it was, whatever its texts hold
(`parse_render`). Loading gives no other configurations than those that can be written: the number
of files has 64 bits in a file and in a variable. A configuration that is shown stands under a
heading, with which it cannot be read (`parse_heading`). Without the heading it can be put into a
file of its own and be loaded again (`render_reads_back`).
-/

namespace ComponentScan

open ComponentScan.Toml

/-! ## Decoding what is written -/

namespace GeneralSettings

theorem decode_entries (s : GeneralSettings) :
    decode .tables (.object (s.entries.map fun e => (e.1, e.2.toJson))) = some s := by
  rfl

theorem isWritable (s : GeneralSettings) : IsWritable ("general", s.entries) := by
  have hkeys : s.entries.map Prod.fst = ["log_level", "log_format"] := rfl
  refine ⟨by show IsBare "general"; decide +kernel, ?_, ?_, ?_⟩
  · rw [hkeys]
    decide +kernel
  · rw [hkeys]
    decide +kernel
  · simp [entries, Plain.Fits]

end GeneralSettings

namespace EngineSettings

theorem decodePartial_entries {s : EngineSettings} (h : s.maxScannedFiles < Nat.pow 2 64) :
    decodePartial .tables (.object (s.entries.map fun e => (e.1, e.2.toJson))) = some s := by
  have hsize : s.maxScannedFiles ≤ 0xFFFFFFFFFFFFFFFF := Nat.le_of_lt_succ h
  show (if s.maxScannedFiles ≤ 0xFFFFFFFFFFFFFFFF then some s.maxScannedFiles else none).bind
    (fun n => some { s with maxScannedFiles := n }) = some s
  rw [if_pos hsize, Option.bind_some]

theorem isWritable {s : EngineSettings} (h : s.maxScannedFiles < Nat.pow 2 64) :
    IsWritable ("matcher", s.entries) := by
  have hkeys : s.entries.map Prod.fst = fieldNames := rfl
  refine ⟨by show IsBare "matcher"; decide +kernel, ?_, ?_, ?_⟩
  · rw [hkeys]
    decide +kernel
  · rw [hkeys]
    decide +kernel
  · have hfits : s.maxScannedFiles < Nat.pow 2 128 := Nat.lt_trans h (by decide)
    simpa [entries, Plain.Fits] using hfits

end EngineSettings

namespace Config

/-- Each group of settings is decoded from its table. -/
theorem decode_tables (general matcher : Json) :
    decode .tables (.object [("general", general), ("matcher", matcher)]) =
      (GeneralSettings.decode .tables general).bind fun g =>
        (EngineSettings.decodePartial .tables matcher).bind fun m => some ⟨g, m⟩ := by
  rfl

/-- A configuration is read back from its text. -/
theorem parse_render {c : Config} (h : c.matcher.maxScannedFiles < Nat.pow 2 64) :
    parse c.render = .ok c := by
  have hread : Toml.parse? c.render = some (.object
      [("general", .object (c.general.entries.map fun e => (e.1, e.2.toJson))),
        ("matcher", .object (c.matcher.entries.map fun e => (e.1, e.2.toJson)))]) := by
    refine parse?_writeTables ?_ ?_
    · show ["general", "matcher"].Nodup
      decide
    · simp [GeneralSettings.isWritable, EngineSettings.isWritable h]
  rw [parse, hread, Option.bind_some, decode_tables, GeneralSettings.decode_entries,
    Option.bind_some, EngineSettings.decodePartial_entries h, Option.bind_some]

end Config

/-! ## Numbers of files -/

theorem Decoder.Fields.getD_eq_some {α : Type} {f : Decoder.Fields} {name : String}
    {decode : Decoder α} {default a : α} (h : f.getD name decode default = some a) :
    a = default ∨ ∃ v, decode f.dialect v = some a := by
  rw [getD] at h
  split at h
  · exact .inl (Option.some.inj h).symm
  · exact .inr ⟨_, h⟩

theorem Decoder.size_lt {d : Dialect} {v : Json} {n : Nat} (h : Decoder.size d v = some n) :
    n < Nat.pow 2 64 := by
  unfold Decoder.size Decoder.upTo at h
  split at h
  · split at h
    · rename_i hle
      cases h
      exact Nat.lt_succ_of_le hle
    · cases h
  · cases h

theorem EngineSettings.maxScannedFiles_lt {d : Dialect} {v : Json} {s : EngineSettings}
    (h : decodePartial d v = some s) : s.maxScannedFiles < Nat.pow 2 64 := by
  simp only [decodePartial, Option.bind_eq_bind, Option.bind_eq_some_iff] at h
  obtain ⟨f, -, _, -, _, -, _, -, _, -, _, -, n, hn, h⟩ := h
  obtain rfl := Option.some.inj h
  rcases Decoder.Fields.getD_eq_some hn with rfl | ⟨v, hv⟩
  · show ({} : EngineSettings).maxScannedFiles < Nat.pow 2 64
    decide
  · exact Decoder.size_lt hv

theorem Setting.readSize?_lt {text : String} {n : Nat} (h : Setting.readSize? text = some n) :
    n < Nat.pow 2 64 := by
  simp only [Setting.readSize?, Option.ite_none_left_eq_some, Option.ite_none_right_eq_some,
    Option.some.injEq] at h
  obtain ⟨-, hlt, rfl⟩ := h
  exact hlt

namespace Config

variable {files : Files} {env : Environment} {path text : String} {c : Config}

theorem maxScannedFiles_lt_of_parse (h : parse text = .ok c) :
    c.matcher.maxScannedFiles < Nat.pow 2 64 := by
  rw [parse] at h
  split at h
  · rename_i hdecode
    cases h
    obtain ⟨v, -, hdecode⟩ := Option.bind_eq_some_iff.1 hdecode
    simp only [decode, Option.bind_eq_bind, Option.bind_eq_some_iff] at hdecode
    obtain ⟨f, -, _, -, matcher, hmatcher, hdecode⟩ := hdecode
    obtain rfl := Option.some.inj hdecode
    rcases Decoder.Fields.getD_eq_some hmatcher with rfl | ⟨v, hv⟩
    · show ({} : EngineSettings).maxScannedFiles < Nat.pow 2 64
      decide
    · exact EngineSettings.maxScannedFiles_lt hv
  · cases h

theorem maxScannedFiles_override (h : c.matcher.maxScannedFiles < Nat.pow 2 64)
    (env : Environment) : (c.override env).matcher.maxScannedFiles < Nat.pow 2 64 := by
  have hvalue := c.value_override env .maxScannedFiles
  cases hset : Setting.valueIn? env .maxScannedFiles with
  | none =>
    rw [hset] at hvalue
    obtain hsame := SettingValue.size.inj hvalue
    rwa [hsame]
  | some v =>
    rw [hset] at hvalue
    obtain ⟨text, -, hread⟩ := Option.bind_eq_some_iff.1 hset
    obtain ⟨n, hn, rfl⟩ := Option.map_eq_some_iff.1 hread
    obtain hsame := SettingValue.size.inj hvalue
    rw [hsame]
    exact Setting.readSize?_lt hn

/-- Variables that have taken the place of settings change nothing when they do so again. -/
theorem override_override (c : Config) (env : Environment) :
    (c.override env).override env = c.override env := by
  refine Setting.eq_of_value fun s => ?_
  rw [value_override, value_override]
  cases s.valueIn? env <;> rfl

/-! ## Showing and loading again -/

theorem exists_parse_of_ofFile (h : ofFile files path = .ok c) : ∃ text, parse text = .ok c := by
  unfold ofFile at h
  split at h
  · cases h
  · cases h
  · split at h
    · cases h
    · rename_i written hparse
      obtain ⟨rfl, -⟩ := checked_eq_ok_iff.1 h
      exact ⟨_, hparse⟩

/-- A configuration that was loaded has its variables in place and is in range. -/
theorem of_load (h : (load files env path).result = .ok c) :
    c.matcher.maxScannedFiles < Nat.pow 2 64 ∧ c.override env = c ∧ c.validate = .ok () := by
  rw [result_load] at h
  obtain ⟨written, hwritten, h⟩ := bind_eq_ok_iff.1 h
  obtain ⟨rfl, hvalid⟩ := checked_eq_ok_iff.1 h
  obtain ⟨text, hparse⟩ := exists_parse_of_ofFile hwritten
  exact ⟨maxScannedFiles_override (maxScannedFiles_lt_of_parse hparse) env,
    written.override_override env, hvalid⟩

theorem exists_load_of_view {s : Surroundings} {v : ConfigView}
    (h : (s.view path none).result = .ok v) :
    ∃ c, (s.configIn path).result = .ok c ∧ v = .ofConfig path none c := by
  rw [Surroundings.view, Reported.result_bind] at h
  obtain ⟨c, hc, h⟩ := bind_eq_ok_iff.1 h
  cases h
  exact ⟨c, mapError_eq_ok_iff.1 hc, rfl⟩

/-- A whole configuration is shown under a heading, with an empty line between. -/
theorem text_ofConfig (path : String) (c : Config) (colors : Bool) :
    (ConfigView.ofConfig path none c).text colors =
      "Configuration (source: " ++ (Style.bold.apply colors path ++ ")\n\n" ++ c.render) := by
  simp [ConfigView.text, ConfigView.ofConfig, Report.line, String.join, String.append_assoc]

/-- What begins with the heading is no document: its parenthesis belongs to no unit. -/
theorem parse_heading (rest : String) :
    parse ("Configuration (source: " ++ rest) = .error (.parseFailed "TOML parse error") := by
  -- the lexer is lost at the parenthesis, whatever follows
  have hlost : "Configuration (source: ".toList.foldl Lexer.step {} =
      ⟨[.fault, .gap true, .word "Configuration".toList], .lost⟩ :=
    rfl
  have hlex : lex ("Configuration (source: " ++ rest).toList =
      [.word "Configuration".toList, .gap true, .fault] := by
    rw [String.toList_append]
    exact Lexer.lex_of_lost hlost (by decide) rest.toList
  rw [parse, Toml.parse?, hlex]
  rfl

theorem parse_text_of_view {s : Surroundings} {v : ConfigView}
    (h : (s.view path none).result = .ok v) (colors : Bool) :
    parse (v.text colors) = .error (.parseFailed "TOML parse error") := by
  obtain ⟨c, -, rfl⟩ := exists_load_of_view h
  rw [text_ofConfig]
  exact parse_heading _

theorem load_of_parse_error {e : ConfigError} (hfile : files.readText path = .ok text)
    (h : parse text = .error e) : (load files env path).result = .error (.config e) := by
  have hofFile : ofFile files path = .error (.config e) := by
    simp only [ofFile, hfile, h]
  rw [load, hofFile]
  rfl

theorem output_showConfig {s : Surroundings} {v : ConfigView}
    (h : (s.view path none).result = .ok v) :
    (s.run { config := path, command := .showConfig none }).output = v.text s.colors := by
  show (s.printReported .text ConfigView.toReport (s.view path none)).output = _
  rw [Surroundings.printReported, h]
  rfl

/-- A configuration with any texts and any number of files of 64 bits is read back from its text as
it was. Where a whole configuration is shown, a heading and an empty line are printed in front of
this text, and with them it is no document. Without them it can be put into a file and loaded again,
with the variables of the environment or without them, and gives the configuration that was
shown. -/
theorem render_reads_back :
    (∀ c : Config, c.matcher.maxScannedFiles < Nat.pow 2 64 → parse c.render = .ok c) ∧
    ∀ (s : Surroundings) (path : String) (v : ConfigView), (s.view path none).result = .ok v →
      (s.run { config := path, command := .showConfig none }).output = v.text s.colors ∧
      (∀ colors, v.text colors =
          "Configuration (source: " ++ Style.bold.apply colors path ++ ")\n\n" ++ v.body ∧
        parse (v.text colors) = .error (.parseFailed "TOML parse error")) ∧
      ∃ c, (s.configIn path).result = .ok c ∧ v.body = c.render ∧
        ∀ (files : Files) (copy : String), files.readText copy = .ok v.body →
          ofFile files copy = .ok c ∧ (load files s.env copy).result = .ok c := by
  refine ⟨fun c => parse_render, fun s path v hview => ⟨output_showConfig hview, ?_⟩⟩
  have hparse := parse_text_of_view hview
  obtain ⟨c, hload, rfl⟩ := exists_load_of_view hview
  refine ⟨fun colors => ⟨?_, hparse colors⟩, c, hload, rfl, fun files copy hcopy => ?_⟩
  · rw [text_ofConfig, String.append_assoc, String.append_assoc]
    rfl
  · obtain ⟨hlt, hvariables, hvalid⟩ := of_load hload
    have hfile : ofFile files copy = .ok c :=
      (ofFile_eq_ok_iff hcopy).2 ⟨parse_render hlt, hvalid⟩
    refine ⟨hfile, ?_⟩
    rw [load_of_ofFile hfile, withEnvironment, hvariables]
    exact checked_eq_ok_iff.2 ⟨rfl, hvalid⟩

/-- Texts with quotation marks, line ends, a backslash and control characters, and a configuration
that is shown with a variable in the place of a setting. -/
theorem render_reads_back_marks :
    let c : Config := {
      general := { logLevel := "\"\"\"\r\n\\", logFormat := "'''\t\x00\u00e9\x7f" }
      matcher := { rulesDir := "a\"b'c\n", maxScannedFiles := 18446744073709551615 } }
    let shown : Config := { matcher := { rulesDir := "\"\t'\u00e9", maxScannedFiles := 7 } }
    let text := "[matcher]\nrules_dir = \"\\\"\\t'\\u00e9\"\n"
    let s : Surroundings := {
      files := fun path => if path = "c.toml" then .ok (.file text.toUTF8) else .error .notFound
      env := [("COMPSCAN_MATCHER_MAX_SCANNED_FILES", "7")]
      scanId := "" }
    parse c.render = .ok c ∧ ∃ v, (s.view "c.toml" none).result = .ok v ∧
      v.text false = "Configuration (source: c.toml)\n\n" ++ v.body ∧
      parse (v.text false) = .error (.parseFailed "TOML parse error") ∧
      ∀ (files : Files) (copy : String), files.readText copy = .ok v.body →
        (load files s.env copy).result = .ok shown := by
  intro c shown text s
  obtain ⟨hparse, hview⟩ := render_reads_back
  have hshown : (s.configIn "c.toml").result.toOption = some shown := by decide +kernel
  have hbody : (s.view "c.toml" none).result.toOption.map (·.body) = some shown.render := by
    decide +kernel
  obtain ⟨v, hv, -⟩ := toOption_map_eq_some_iff.1 hbody
  obtain ⟨-, htext, d, hd, -, hcopies⟩ := hview s "c.toml" v hv
  obtain rfl : d = shown := by
    rw [hd] at hshown
    exact Option.some.inj hshown
  exact ⟨hparse c (by decide), v, hv, (htext false).1, (htext false).2,
    fun files copy hcopy => (hcopies files copy hcopy).2⟩

/-- The default configuration is loaded from an empty file, but not from what is printed of it. -/
theorem printed_config_not_loaded :
    let s : Surroundings := {
      files := fun path => if path = "c.toml" then .ok (.file "".toUTF8) else .error .notFound
      env := []
      scanId := "" }
    let text := "Configuration (source: c.toml)\n\n" ++
      "[general]\nlog_level = \"info\"\nlog_format = \"json\"\n\n" ++
      "[matcher]\nenabled = true\nrun_deferred_pass = true\nexpand_inventories = true\n" ++
      "purge_absorbed = true\nrules_dir = \"/etc/compscan/contributors\"\n" ++
      "max_scanned_files = 1000000\n"
    (s.configIn "c.toml").result = .ok {} ∧
      (s.run { config := "c.toml", command := .showConfig none }).output = text ∧
      parse text = .error (.parseFailed "TOML parse error") ∧
      ∀ (files : Files) (copy : String), files.readText copy = .ok text →
        (load files s.env copy).result = .error (.config (.parseFailed "TOML parse error")) := by
  intro s text
  have hview : (s.view "c.toml" none).result.toOption.map (·.text false) = some text := by
    decide +kernel
  obtain ⟨v, hv, htext⟩ := toOption_map_eq_some_iff.1 hview
  have hparse : parse text = .error (.parseFailed "TOML parse error") :=
    htext ▸ parse_text_of_view hv false
  exact ⟨by decide +kernel, (output_showConfig hv).trans htext, hparse,
    fun files copy hcopy => load_of_parse_error hcopy hparse⟩

end Config

end ComponentScan
