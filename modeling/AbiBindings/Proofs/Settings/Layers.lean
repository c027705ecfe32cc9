import AbiBindings.Proofs.Settings.Overrides
import AbiBindings.Proofs.Settings.Sections

/-!
# Layers of a configuration

A file stands for a layer of settings, and so does an environment. A configuration that is loaded is
the layer of the environment over that of the file over the defaults.

* `Layer.HasProvider`, `Layer.HasLogging`, `Layer.HasCodegen`: the values that sections give to
  settings.
* `Setting.States`: the layer that a document stands for.
* `Holds`: the document of a file.

Results:
* `ofSetting?_eq_some_iff`: a document is read as its layer over the defaults.
* `ofText_eq_ok_iff`: the configurations of files.
* `load_eq_ok_iff`: the configurations that are loaded.
* `layers_compose`: when loading succeeds, what is loaded, and what does not matter.
-/

namespace AbiBindings

variable {d : Dialect} {s : Setting} {l : Layer} {said : String → Option Setting}
  {path content : String} {files : Files.Tree} {env env' : Environment} {c : Config}

/-! ## Sections of a document -/

namespace Layer

/-- Whether a layer has the values of a section for the node connection. -/
structure HasProvider (l : Layer) (said : String → Option Setting) : Prop where
  rpcUrl : Option.Rel (fun s v => s.text? = some v) (said "rpc_url") l.rpcUrl
  useWebsocket : Option.Rel (fun s v => s.bool? = some v) (said "use_websocket") l.useWebsocket
  chainId : Option.Rel (fun s v => s.optionalNatural? = some v) (said "chain_id") l.chainId
  pollIntervalMs :
    Option.Rel (fun s v => s.natural? = some v) (said "poll_interval_ms") l.pollIntervalMs

/-- Whether a layer has the values of a section for the log. -/
structure HasLogging (d : Dialect) (l : Layer) (said : String → Option Setting) : Prop where
  level : Option.Rel (fun s v => s.text? = some v) (said "level") l.level
  format : Option.Rel (fun s v => s.choice? d = some v.word) (said "format") l.format

/-- Whether a layer has the value of a section for the generator. -/
structure HasCodegen (l : Layer) (said : String → Option Setting) : Prop where
  outputDir : Option.Rel (fun s v => s.text? = some v) (said "output_dir") l.outputDir

end Layer

/-- The keys of the section for the node connection, in their order. -/
def providerKeys : List String := ["rpc_url", "use_websocket", "chain_id", "poll_interval_ms"]

/-- The keys of the section for the log. -/
def loggingKeys : List String := ["level", "format"]

/-- The key of the section for the generator. -/
def codegenKeys : List String := ["output_dir"]

/-- The keys of the sections of a document. -/
def sectionKeys : List String := ["provider", "logging", "codegen"]

open Setting

theorem rel_none_iff {α β : Type} {r : α → β → Prop} {y : Option β} :
    Option.Rel r none y ↔ y = none := by
  constructor
  · rintro ⟨⟩
    rfl
  · rintro rfl
    exact .none

theorem provider_ofSetting?_eq_some_iff {p : Provider} :
    Provider.ofSetting? d s = some p ↔ ∃ said, Section d providerKeys s said ∧
      ∃ l : Layer, l.HasProvider said ∧ p = (l.onto .default).provider := by
  simp only [Provider.ofSetting?, Option.bind_eq_bind, Option.bind_eq_some_iff, fieldOr_eq_some_iff]
  constructor
  · rintro ⟨fields, hfields, _, ⟨rpcUrl, hrpcUrl, rfl⟩, _, ⟨useWebsocket, huseWebsocket, rfl⟩,
      _, ⟨chainId, hchainId, rfl⟩, _, ⟨pollIntervalMs, hpollIntervalMs, rfl⟩, h⟩
    exact ⟨_, (section_iff (by decide)).mpr ⟨fields, hfields, rfl⟩,
      { rpcUrl, useWebsocket, chainId, pollIntervalMs },
      ⟨hrpcUrl, huseWebsocket, hchainId, hpollIntervalMs⟩, (Option.some.inj h).symm⟩
  · rintro ⟨said, hsection, l, h, rfl⟩
    obtain ⟨fields, hfields, rfl⟩ := (section_iff (by decide)).mp hsection
    exact ⟨fields, hfields, _, ⟨_, h.rpcUrl, rfl⟩, _, ⟨_, h.useWebsocket, rfl⟩, _,
      ⟨_, h.chainId, rfl⟩, _, ⟨_, h.pollIntervalMs, rfl⟩, rfl⟩

theorem provider_fieldOr_eq_some_iff {fields : List (String × Setting)} {p : Provider} :
    fieldOr fields "provider" (Provider.ofSetting? d) .default = some p ↔
      ∃ said, Part d providerKeys (fields.lookup "provider") said ∧
        ∃ l : Layer, l.HasProvider said ∧ p = (l.onto .default).provider := by
  refine fieldOr_part_iff (fun s p => provider_ofSetting?_eq_some_iff) fun p => ?_
  constructor
  · rintro ⟨l, ⟨hrpcUrl, huseWebsocket, hchainId, hpollIntervalMs⟩, rfl⟩
    simp only [Layer.onto, rel_none_iff.mp hrpcUrl, rel_none_iff.mp huseWebsocket,
      rel_none_iff.mp hchainId, rel_none_iff.mp hpollIntervalMs]
    rfl
  · rintro rfl
    exact ⟨{}, ⟨.none, .none, .none, .none⟩, rfl⟩

theorem logging_ofSetting?_eq_some_iff {g : Logging} :
    Logging.ofSetting? d s = some g ↔ ∃ said, Section d loggingKeys s said ∧
      ∃ l : Layer, l.HasLogging d said ∧ g = (l.onto .default).logging := by
  simp only [Logging.ofSetting?, Option.bind_eq_bind, Option.bind_eq_some_iff,
    fieldOr_eq_some_iff, LogFormat.ofWord?_eq_some_iff, exists_eq_right]
  constructor
  · rintro ⟨fields, hfields, _, ⟨level, hlevel, rfl⟩, _, ⟨format, hformat, rfl⟩, h⟩
    exact ⟨_, (section_iff (by decide)).mpr ⟨fields, hfields, rfl⟩, { level, format },
      ⟨hlevel, hformat⟩, (Option.some.inj h).symm⟩
  · rintro ⟨said, hsection, l, h, rfl⟩
    obtain ⟨fields, hfields, rfl⟩ := (section_iff (by decide)).mp hsection
    exact ⟨fields, hfields, _, ⟨_, h.level, rfl⟩, _, ⟨_, h.format, rfl⟩, rfl⟩

theorem logging_fieldOr_eq_some_iff {fields : List (String × Setting)} {g : Logging} :
    fieldOr fields "logging" (Logging.ofSetting? d) .default = some g ↔
      ∃ said, Part d loggingKeys (fields.lookup "logging") said ∧
        ∃ l : Layer, l.HasLogging d said ∧ g = (l.onto .default).logging := by
  refine fieldOr_part_iff (fun s g => logging_ofSetting?_eq_some_iff) fun g => ?_
  constructor
  · rintro ⟨l, ⟨hlevel, hformat⟩, rfl⟩
    simp only [Layer.onto, rel_none_iff.mp hlevel, rel_none_iff.mp hformat]
    rfl
  · rintro rfl
    exact ⟨{}, ⟨.none, .none⟩, rfl⟩

theorem codegen_ofSetting?_eq_some_iff {g : Codegen} :
    Codegen.ofSetting? d s = some g ↔ ∃ said, Section d codegenKeys s said ∧
      ∃ l : Layer, l.HasCodegen said ∧ g = (l.onto .default).codegen := by
  simp only [Codegen.ofSetting?, Option.bind_eq_bind, Option.bind_eq_some_iff, fieldOr_eq_some_iff]
  constructor
  · rintro ⟨fields, hfields, _, ⟨outputDir, houtputDir, rfl⟩, h⟩
    exact ⟨_, (section_iff (by decide)).mpr ⟨fields, hfields, rfl⟩, { outputDir },
      ⟨houtputDir⟩, (Option.some.inj h).symm⟩
  · rintro ⟨said, hsection, l, h, rfl⟩
    obtain ⟨fields, hfields, rfl⟩ := (section_iff (by decide)).mp hsection
    exact ⟨fields, hfields, _, ⟨_, h.outputDir, rfl⟩, rfl⟩

theorem codegen_fieldOr_eq_some_iff {fields : List (String × Setting)} {g : Codegen} :
    fieldOr fields "codegen" (Codegen.ofSetting? d) .default = some g ↔
      ∃ said, Part d codegenKeys (fields.lookup "codegen") said ∧
        ∃ l : Layer, l.HasCodegen said ∧ g = (l.onto .default).codegen := by
  refine fieldOr_part_iff (fun s g => codegen_ofSetting?_eq_some_iff) fun g => ?_
  constructor
  · rintro ⟨l, ⟨houtputDir⟩, rfl⟩
    simp only [Layer.onto, rel_none_iff.mp houtputDir]
    rfl
  · rintro rfl
    exact ⟨{}, ⟨.none⟩, rfl⟩

/-! ## Documents -/

/-- Whether a document stands for a layer: the sections that it has stand for the values of their
settings, and the settings of the others have none. -/
inductive Setting.States (d : Dialect) (s : Setting) (l : Layer) : Prop
  | mk {said provider logging codegen : String → Option Setting}
      (hsaid : Section d sectionKeys s said)
      (hprovider : Part d providerKeys (said "provider") provider)
      (hasProvider : l.HasProvider provider)
      (hlogging : Part d loggingKeys (said "logging") logging)
      (hasLogging : l.HasLogging d logging)
      (hcodegen : Part d codegenKeys (said "codegen") codegen)
      (hasCodegen : l.HasCodegen codegen)

/-- A document is read as its layer over the defaults. -/
theorem ofSetting?_eq_some_iff :
    Config.ofSetting? d s = some c ↔ ∃ l, s.States d l ∧ c = l.onto .default := by
  simp only [Config.ofSetting?, Option.bind_eq_bind, Option.bind_eq_some_iff,
    provider_fieldOr_eq_some_iff, logging_fieldOr_eq_some_iff, codegen_fieldOr_eq_some_iff]
  constructor
  · rintro ⟨fields, hfields, _, ⟨provider, hprovider, l, hasProvider, rfl⟩, _,
      ⟨logging, hlogging, l', hasLogging, rfl⟩, _, ⟨codegen, hcodegen, l'', hasCodegen, rfl⟩, h⟩
    obtain rfl := Option.some.inj h
    -- Every section has settings of its own.
    refine ⟨{ l with level := l'.level, format := l'.format, outputDir := l''.outputDir }, ?_, rfl⟩
    exact .mk ((section_iff (by decide)).mpr ⟨fields, hfields, rfl⟩) hprovider
      ⟨hasProvider.rpcUrl, hasProvider.useWebsocket, hasProvider.chainId,
        hasProvider.pollIntervalMs⟩ hlogging ⟨hasLogging.level, hasLogging.format⟩ hcodegen
      ⟨hasCodegen.outputDir⟩
  · rintro ⟨l, ⟨hsaid, hprovider, hasProvider, hlogging, hasLogging, hcodegen, hasCodegen⟩, rfl⟩
    obtain ⟨fields, hfields, rfl⟩ := (section_iff (by decide)).mp hsaid
    exact ⟨fields, hfields, _, ⟨_, hprovider, l, hasProvider, rfl⟩, _,
      ⟨_, hlogging, l, hasLogging, rfl⟩, _, ⟨_, hcodegen, l, hasCodegen, rfl⟩, rfl⟩

/-! ## Files -/

/-- The document of a file. Its format is told by the path. -/
inductive Holds (path content : String) : Dialect → Setting → Prop
  | toml {s : Setting} (hpath : Files.Path.extension? path = some "toml")
      (hcontent : Setting.ofTomlText? content = some s) : Holds path content .toml s
  | json {s : Setting} (hpath : Files.Path.extension? path = some "json")
      (hcontent : Setting.ofJsonText? content = some s) : Holds path content .json s

/-- What a document that was read describes is its layer over the defaults. -/
theorem read_eq_ok_iff {doc? : Option Setting} {e : ConfigError} :
    (match doc?.bind (Config.ofSetting? d) with
      | some c => Except.ok c
      | none => .error e) = .ok c ↔
      ∃ s, doc? = some s ∧ ∃ l, s.States d l ∧ c = l.onto .default := by
  simp only [← ofSetting?_eq_some_iff, ← Option.bind_eq_some_iff]
  cases doc?.bind (Config.ofSetting? d) <;> simp

/-- What a file describes is its layer over the defaults. -/
theorem ofText_eq_ok_iff :
    Config.ofText path content = .ok c ↔
      ∃ d s l, Holds path content d s ∧ s.States d l ∧ c = l.onto .default := by
  constructor
  · intro h
    unfold Config.ofText at h
    split at h
    case h_1 hpath =>
      obtain ⟨s, hcontent, l, hl, rfl⟩ := read_eq_ok_iff.mp h
      exact ⟨.toml, s, l, .toml hpath hcontent, hl, rfl⟩
    case h_2 hpath =>
      obtain ⟨s, hcontent, l, hl, rfl⟩ := read_eq_ok_iff.mp h
      exact ⟨.json, s, l, .json hpath hcontent, hl, rfl⟩
    case h_3 => cases h
  · rintro ⟨d, s, l, hholds, hl, rfl⟩
    have hs := ofSetting?_eq_some_iff.mpr ⟨l, hl, rfl⟩
    cases hholds with
    | toml hpath hcontent => simp [Config.ofText, hpath, hcontent, hs]
    | json hpath hcontent => simp [Config.ofText, hpath, hcontent, hs]

/-- What is loaded is the layer of the environment over that of the file over the defaults. -/
theorem load_eq_ok_iff :
    Config.load files path env = .ok c ↔
      ∃ content d s file layer, files.readText path = .ok content ∧ Holds path content d s ∧
        s.States d file ∧ env.States layer ∧ c = layer.onto (file.onto .default) := by
  have hsteps : Config.load files path env = .ok c ↔ ∃ content, files.readText path = .ok content ∧
      ∃ below, Config.ofText path content = .ok below ∧ below.override env = (c, none) := by
    rw [Config.load]
    cases files.readText path with
    | error cause => simp
    | ok content =>
      cases htext : Config.ofText path content with
      | error e => simp [htext]
      | ok below => rcases hchange : below.override env with ⟨c', _ | e⟩ <;> simp [htext, hchange]
  rw [hsteps]
  simp only [ofText_eq_ok_iff, override_eq_ok_iff]
  constructor
  · rintro ⟨content, hread, _, ⟨d, s, file, hholds, hfile, rfl⟩, layer, hlayer, rfl⟩
    exact ⟨content, d, s, file, layer, hread, hholds, hfile, hlayer, rfl⟩
  · rintro ⟨content, d, s, file, layer, hread, hholds, hfile, hlayer, rfl⟩
    exact ⟨content, hread, _, ⟨d, s, file, hholds, hfile, rfl⟩, layer, hlayer, rfl⟩

/-- Another file that stands for the same layer is loaded in the same way. -/
theorem load_eq_of_states {files' : Files.Tree} {path' content' : String} {d' : Dialect}
    {s' : Setting} {file : Layer} (hread : files.readText path = .ok content)
    (hholds : Holds path content d s) (hfile : s.States d file)
    (hread' : files'.readText path' = .ok content') (hholds' : Holds path' content' d' s')
    (hfile' : s'.States d' file) : Config.load files' path' env = Config.load files path env := by
  have htext := ofText_eq_ok_iff.mpr ⟨d, s, file, hholds, hfile, rfl⟩
  have htext' := ofText_eq_ok_iff.mpr ⟨d', s', file, hholds', hfile', rfl⟩
  simp only [Config.load, hread, htext, hread', htext']

/-- Only the values of the four variables matter. -/
theorem load_congr (h : ∀ key ∈ overrideKeys, env key = env' key) :
    Config.load files path env = Config.load files path env' := by
  simp only [Config.load, override_congr h]

/-- A configuration is loaded exactly if the file stands for a layer and no value of a variable is
refused, and is then the layer of the environment over that of the file over the defaults. The order
of keys, keys that are not known and variables that are not looked at make no difference. A change
of any configuration by an environment ends as the layers of its variables say, and so does a second
one, which changes nothing more. -/
theorem layers_compose :
    (∀ (files : Files.Tree) (path : String) (env : Environment) (c : Config),
      Config.load files path env = .ok c ↔
        ∃ content d s file layer, files.readText path = .ok content ∧ Holds path content d s ∧
          s.States d file ∧ env.States layer ∧ c = layer.onto (file.onto .default)) ∧
    (∀ {files : Files.Tree} {path content : String} {d : Dialect} {s : Setting} {file : Layer},
      files.readText path = .ok content → Holds path content d s → s.States d file →
        ∀ env : Environment,
          ((∃ c, Config.load files path env = .ok c) ↔ env.Accepted) ∧
          (∀ env' : Environment, (∀ key ∈ overrideKeys, env key = env' key) →
            Config.load files path env = Config.load files path env') ∧
          ∀ {files' : Files.Tree} {path' content' : String} {d' : Dialect} {s' : Setting},
            files'.readText path' = .ok content' → Holds path' content' d' s' →
              s'.States d' file → Config.load files' path' env = Config.load files path env) ∧
    (∀ {d : Dialect} {keys : List String} {members members' : List (String × Setting)}
      {said : String → Option Setting},
      (members.filter fun m => keys.contains m.1).Perm
        (members'.filter fun m => keys.contains m.1) →
        (Section d keys (.table members) said ↔ Section d keys (.table members') said)) ∧
    ∀ (env : Environment) (c : Config),
      ((c.override env).2 = none ↔ env.Accepted) ∧ Config.Overridden env c (c.override env) ∧
        (c.override env).1.override env = c.override env := by
  refine ⟨fun files path env c => load_eq_ok_iff, ?_, section_congr, fun env c => ?_⟩
  · intro files path content d s file hread hholds hfile env
    refine ⟨?_, fun env' h => load_congr h, load_eq_of_states hread hholds hfile⟩
    rw [← Environment.exists_states_iff]
    constructor
    · rintro ⟨c, h⟩
      obtain ⟨-, -, -, -, layer, -, -, -, hlayer, -⟩ := load_eq_ok_iff.mp h
      exact ⟨layer, hlayer⟩
    · rintro ⟨layer, hlayer⟩
      exact ⟨_, load_eq_ok_iff.mpr ⟨content, d, s, file, layer, hread, hholds, hfile, hlayer, rfl⟩⟩
  · exact ⟨override_eq_none_iff, overridden_override env c, override_override env c⟩

/-- Settings of a log and of a chain, with a key that is not known. -/
def sampleText : String :=
  "[logging]\nlevel = \"warn\"\nformat = \"json\"\n[provider]\nretries = 3\nchain_id = 5\n"

/-- These settings in place of the defaults. -/
def sampleConfig : Config :=
  ⟨{ Provider.default with chainId := some 5 }, ⟨"warn", .json⟩, .default⟩

theorem ofText_sampleText : Config.ofText "settings.toml" sampleText = .ok sampleConfig := by
  have heval : (Config.ofText "settings.toml" sampleText).toOption = some sampleConfig := by
    decide +kernel
  cases h : Config.ofText "settings.toml" sampleText with
  | error e => simp [h, Except.toOption] at heval
  | ok c => simpa [h, Except.toOption] using heval

/-- A file with these settings. -/
def sampleFiles : Files.Tree := ⟨[(["settings.toml"], .file (utf8 sampleText))]⟩

/-- An environment with two of the variables. -/
def sampleEnvironment (format : String) : Environment
  | "BINDINGS_USE_WEBSOCKET" => some "Yes"
  | "BINDINGS_LOG_FORMAT" => some format
  | _ => none

/-- The words of the environment replace those of the file, and a word that is not known is
refused. -/
theorem sample_loaded :
    Config.load sampleFiles "settings.toml" (sampleEnvironment "PRETTY") =
        .ok ⟨⟨"http://localhost:8545", true, some 5, 1000⟩, ⟨"warn", .pretty⟩, ⟨"./generated"⟩⟩ ∧
      ¬ ∃ c, Config.load sampleFiles "settings.toml" (sampleEnvironment "xml") = .ok c := by
  have hread : sampleFiles.readText "settings.toml" = .ok sampleText := rfl
  obtain ⟨d, s, file, hholds, hfile, heq⟩ := ofText_eq_ok_iff.mp ofText_sampleText
  have hlayer : (sampleEnvironment "PRETTY").States
      { useWebsocket := some true, format := some .pretty } :=
    ⟨rfl, .some ⟨"yes", by decide, rfl⟩, rfl, rfl, rfl, .some rfl, rfl⟩
  constructor
  · refine (layers_compose.1 _ _ _ _).mpr ⟨_, d, s, file, _, hread, hholds, hfile, hlayer, ?_⟩
    rw [← heq]
    rfl
  · rw [(layers_compose.2.1 hread hholds hfile _).1]
    rintro ⟨-, h⟩
    obtain ⟨f, hf⟩ := h "xml" rfl
    have hword : ∀ f : LogFormat, ¬ IsWord "xml" f.word := by
      rintro (_ | _) <;> decide
    exact hword f hf

end AbiBindings
