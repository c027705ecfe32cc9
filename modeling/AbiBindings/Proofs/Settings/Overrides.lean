import AbiBindings.Config
import AbiBindings.Proofs.Settings.Sections
import AbiBindings.Proofs.Text.Lower

/-!
# Settings from the environment

The variables that are set change a configuration one after the other, up to the first one whose
value is refused. Each stands for a value of one setting, whatever the configuration was before. So
changing a configuration again by the same environment changes nothing.

* `Layer`: values for some of the settings; `Layer.onto` puts them in place of those of a
  configuration.
* `IsSwitch`, `IsFormat`: the texts that are read as a truth value or as a form of log lines.
* `Environment.States`: the layer that an environment stands for.
* `Environment.only`: an environment with some of its variables alone.

Results:
* `switch?_eq_some_iff`, `logFormat?_eq_some_iff`: which texts are read, and what as.
* `Layer.onto_onto`: a layer over another.
* `override_eq`: one layer stands for the effect on every configuration.
* `states_iff`: the layer of the variables one after the other is the one that the environment
  stands for.
* `override_eq_none_iff`: when a change is made completely.
* `overridden_override`: the configuration after a change, and after a change that failed.
* `override_override`, `override_congr`: a second change, and other variables.
-/

namespace AbiBindings

variable {s key value : String} {env env' : Environment} {keys front back : List String}

/-! ## Words in any case -/

/-- Whether a text is a word up to the case of the letters `A` to `Z`. -/
def IsWord (s word : String) : Prop := s.toList.map Text.lowerAscii = word.toList

instance (s word : String) : Decidable (IsWord s word) := inferInstanceAs (Decidable (_ = _))

/-- The words of a truth value. -/
def switchWords : Bool → List String
  | true => ["1", "true", "yes"]
  | false => ["0", "false", "no"]

/-- The word of a form of log lines. -/
def LogFormat.word : LogFormat → String
  | .pretty => "pretty"
  | .json => "json"

/-- Whether a text stands for a truth value. -/
def IsSwitch (s : String) (b : Bool) : Prop := ∃ word ∈ switchWords b, IsWord s word

/-- Whether a text stands for a form of log lines. -/
def IsFormat (s : String) (f : LogFormat) : Prop := IsWord s f.word

theorem lower_eq_iff {word : String} (h : Text.IsSimpleWord word.toList) :
    Text.lower s = word ↔ IsWord s word := by
  rw [IsWord, ← Text.lowerChars_eq_iff h, Text.lower]
  constructor
  · rintro rfl
    rw [String.toList_ofList]
  · intro heq
    rw [heq, String.ofList_toList]

theorem switch?_eq_some_iff {b : Bool} : switch? s = some b ↔ IsSwitch s b := by
  have hwords : ∀ b, ∀ word ∈ switchWords b, Text.IsSimpleWord word.toList := by decide
  have hlower : IsSwitch s b ↔ Text.lower s ∈ switchWords b := by
    constructor
    · rintro ⟨word, hword, h⟩
      rwa [(lower_eq_iff (hwords b word hword)).mpr h]
    · intro h
      exact ⟨_, h, (lower_eq_iff (hwords b _ h)).mp rfl⟩
  rw [hlower, switch?]
  generalize Text.lower s = word
  split <;> cases b <;> simp_all [switchWords]

theorem LogFormat.ofWord?_eq_some_iff {word : String} {f : LogFormat} :
    LogFormat.ofWord? word = some f ↔ word = f.word := by
  unfold LogFormat.ofWord?
  split <;> cases f <;> simp_all [LogFormat.word]

theorem logFormat?_eq_some_iff {f : LogFormat} : logFormat? s = some f ↔ IsFormat s f := by
  have hword : Text.IsSimpleWord f.word.toList := by
    cases f <;> decide
  rw [logFormat?, LogFormat.ofWord?_eq_some_iff, lower_eq_iff hword, IsFormat]

/-! ## Layers -/

/-- Values for some of the settings. -/
structure Layer where
  rpcUrl : Option String := none
  useWebsocket : Option Bool := none
  chainId : Option (Option Nat) := none
  pollIntervalMs : Option Nat := none
  level : Option String := none
  format : Option LogFormat := none
  outputDir : Option String := none

namespace Layer

/-- A configuration with the values of a layer in place of its own. -/
def onto (l : Layer) (c : Config) : Config where
  provider := {
    rpcUrl := l.rpcUrl.getD c.provider.rpcUrl
    useWebsocket := l.useWebsocket.getD c.provider.useWebsocket
    chainId := l.chainId.getD c.provider.chainId
    pollIntervalMs := l.pollIntervalMs.getD c.provider.pollIntervalMs }
  logging := {
    level := l.level.getD c.logging.level
    format := l.format.getD c.logging.format }
  codegen := { outputDir := l.outputDir.getD c.codegen.outputDir }

/-- The values of a layer, and where it has none those of a layer below. -/
def merge (upper lower : Layer) : Layer where
  rpcUrl := upper.rpcUrl.or lower.rpcUrl
  useWebsocket := upper.useWebsocket.or lower.useWebsocket
  chainId := upper.chainId.or lower.chainId
  pollIntervalMs := upper.pollIntervalMs.or lower.pollIntervalMs
  level := upper.level.or lower.level
  format := upper.format.or lower.format
  outputDir := upper.outputDir.or lower.outputDir

theorem onto_onto (upper lower : Layer) (c : Config) :
    upper.onto (lower.onto c) = (upper.merge lower).onto c := by
  simp [onto, merge]

theorem merge_empty (l : Layer) : l.merge {} = l := by
  simp [merge]

theorem merge_self (l : Layer) : l.merge l = l := by
  simp [merge]

/-- The layer that the value of a variable stands for, none if the value is refused. -/
def ofVariable? (key value : String) : Option Layer :=
  match key with
  | "BINDINGS_RPC_URL" => some { rpcUrl := some value }
  | "BINDINGS_USE_WEBSOCKET" => (switch? value).map fun b => { useWebsocket := some b }
  | "BINDINGS_LOG_LEVEL" => some { level := some value }
  | "BINDINGS_LOG_FORMAT" => (logFormat? value).map fun f => { format := some f }
  | _ => some {}

/-- The layer that the variable of a name stands for. -/
def ofKey? (env : Environment) (key : String) : Option Layer :=
  (env key).elim (some {}) (ofVariable? key)

/-- The layer that the variables of some names stand for, none if the value of one is refused. -/
def ofVariables? (env : Environment) : List String → Option Layer
  | [] => some {}
  | key :: rest => do
    let lower ← ofKey? env key
    let upper ← ofVariables? env rest
    some (upper.merge lower)

end Layer

/-- Every change puts the layer of its variable over the configuration. -/
theorem change?_eq {o : Override} (h : o ∈ overrides) (value : String) (c : Config) :
    o.change? value c = (Layer.ofVariable? o.key value).map (·.onto c) := by
  simp only [overrides, List.mem_cons, List.not_mem_nil, or_false] at h
  rcases h with rfl | rfl | rfl | rfl
  · rfl
  · simp only [Layer.ofVariable?, Option.map_map]
    rfl
  · rfl
  · simp only [Layer.ofVariable?, Option.map_map]
    rfl

/-! ## One variable after the other -/

/-- What the variables of some names do, in their order: the layer that they put over a
configuration, and the error at the first one whose value is refused. -/
inductive Changes (env : Environment) (keys : List String) : Layer → Option ConfigError → Prop
  | accepted {l : Layer} (h : Layer.ofVariables? env keys = some l) : Changes env keys l none
  | refused {front back : List String} {key value : String} {l : Layer}
      (hkeys : keys = front ++ key :: back) (hfront : Layer.ofVariables? env front = some l)
      (hvalue : env key = some value) (hrefused : Layer.ofVariable? key value = none) :
      Changes env keys l (some (.invalidOverride key value))

namespace Changes

variable {l v : Layer} {e : Option ConfigError}

theorem cons (h : Changes env keys l e) (hv : Layer.ofKey? env key = some v) :
    Changes env (key :: keys) (l.merge v) e := by
  cases h with
  | accepted h => exact .accepted (by simp [Layer.ofVariables?, hv, h])
  | @refused front back first _ _ hkeys hfront hvalue hrefused =>
    have hsplit : key :: keys = (key :: front) ++ first :: back := congrArg (key :: ·) hkeys
    have hcons : Layer.ofVariables? env (key :: front) = some (l.merge v) := by
      simp [Layer.ofVariables?, hv, hfront]
    exact .refused hsplit hcons hvalue hrefused

end Changes

/-- The effect of some changes is the same on every configuration. -/
theorem overrideBy_eq {os : List Override} (hos : ∀ o ∈ os, o ∈ overrides) :
    ∃ l e, Changes env (os.map (·.key)) l e ∧ ∀ c, Config.overrideBy env os c = (l.onto c, e) := by
  induction os with
  | nil => exact ⟨{}, none, .accepted rfl, fun c => rfl⟩
  | cons o rest ih =>
    obtain ⟨ho, hrest⟩ := List.forall_mem_cons.mp hos
    obtain ⟨l, e, hchanges, heq⟩ := ih hrest
    cases hkey : env o.key with
    | none =>
      have hv : Layer.ofKey? env o.key = some {} := by rw [Layer.ofKey?, hkey, Option.elim_none]
      refine ⟨l.merge {}, e, hchanges.cons hv, fun c => ?_⟩
      rw [Config.overrideBy, hkey, Layer.merge_empty]
      exact heq c
    | some value =>
      cases hv : Layer.ofVariable? o.key value with
      | none =>
        have hfirst : Layer.ofVariables? env [] = some {} := rfl
        refine ⟨{}, _, .refused rfl hfirst hkey hv, fun c => ?_⟩
        simp only [Config.overrideBy, hkey, change?_eq ho, hv, Option.map_none]
        rfl
      | some v =>
        have hv' : Layer.ofKey? env o.key = some v := by
          rw [Layer.ofKey?, hkey, Option.elim_some, hv]
        refine ⟨l.merge v, e, hchanges.cons hv', fun c => ?_⟩
        simp only [Config.overrideBy, hkey, change?_eq ho, hv, Option.map_some]
        rw [heq, Layer.onto_onto]

/-- The names of the variables in the order in which they are looked at. -/
def overrideKeys : List String := overrides.map (·.key)

/-- One layer stands for the effect of an environment on every configuration. -/
theorem override_eq (env : Environment) :
    ∃ l e, Changes env overrideKeys l e ∧ ∀ c, Config.override env c = (l.onto c, e) :=
  overrideBy_eq fun _ ho => ho

/-- Changing a configuration again by the same environment changes nothing, and ends as before. -/
theorem override_override (env : Environment) (c : Config) :
    (c.override env).1.override env = c.override env := by
  obtain ⟨l, e, -, heq⟩ := override_eq env
  rw [heq, heq, Layer.onto_onto, Layer.merge_self]

/-! ## The layer of an environment -/

theorem Layer.ofVariables?_congr (h : ∀ key ∈ keys, env key = env' key) :
    ofVariables? env keys = ofVariables? env' keys := by
  induction keys with
  | nil => rfl
  | cons key rest ih =>
    obtain ⟨hkey, hrest⟩ := List.forall_mem_cons.mp h
    rw [ofVariables?, ofVariables?, ofKey?, ofKey?, hkey, ih hrest]

theorem Layer.ofVariables?_eq_none (hmem : key ∈ keys) (h : ofKey? env key = none) :
    ofVariables? env keys = none := by
  induction keys with
  | nil => cases hmem
  | cons first rest ih =>
    rw [ofVariables?]
    rcases List.mem_cons.mp hmem with rfl | hmem
    · rw [h, Option.bind_eq_bind, Option.bind_none]
    · rw [ih hmem]
      cases ofKey? env first <;> rfl

theorem Layer.ofVariables?_of_unset (h : ∀ key ∈ keys, env key = none) :
    ofVariables? env keys = some {} := by
  induction keys with
  | nil => rfl
  | cons key rest ih =>
    obtain ⟨hkey, hrest⟩ := List.forall_mem_cons.mp h
    rw [ofVariables?, ofKey?, hkey, ih hrest]
    rfl

theorem Layer.ofVariables?_append (h : ofVariables? env back = some {}) :
    ofVariables? env (front ++ back) = ofVariables? env front := by
  induction front with
  | nil => exact h
  | cons key rest ih => rw [List.cons_append, ofVariables?, ofVariables?, ih]

namespace Environment

/-- An environment with the variables of some names alone. -/
def only (env : Environment) (keys : List String) : Environment :=
  fun key => if key ∈ keys then env key else none

/-- Whether an environment stands for a layer: every variable for its setting, and no variable for
any other. -/
structure States (env : Environment) (l : Layer) : Prop where
  rpcUrl : l.rpcUrl = env "BINDINGS_RPC_URL"
  useWebsocket : Option.Rel IsSwitch (env "BINDINGS_USE_WEBSOCKET") l.useWebsocket
  chainId : l.chainId = none
  pollIntervalMs : l.pollIntervalMs = none
  level : l.level = env "BINDINGS_LOG_LEVEL"
  format : Option.Rel IsFormat (env "BINDINGS_LOG_FORMAT") l.format
  outputDir : l.outputDir = none

/-- Whether the variables that have one of few values have one of these if they are set. -/
def Accepted (env : Environment) : Prop :=
  (∀ value ∈ env "BINDINGS_USE_WEBSOCKET", ∃ b, IsSwitch value b) ∧
    ∀ value ∈ env "BINDINGS_LOG_FORMAT", ∃ f, IsFormat value f

/-- Whether a value is none that a variable can have. -/
def Refuses (key value : String) : Prop :=
  (key = "BINDINGS_USE_WEBSOCKET" ∧ ∀ b, ¬ IsSwitch value b) ∨
    (key = "BINDINGS_LOG_FORMAT" ∧ ∀ f, ¬ IsFormat value f)

theorem ofKey?_rpcUrl :
    Layer.ofKey? env "BINDINGS_RPC_URL" = some { rpcUrl := env "BINDINGS_RPC_URL" } := by
  rw [Layer.ofKey?]
  cases env "BINDINGS_RPC_URL" <;> rfl

theorem ofKey?_level :
    Layer.ofKey? env "BINDINGS_LOG_LEVEL" = some { level := env "BINDINGS_LOG_LEVEL" } := by
  rw [Layer.ofKey?]
  cases env "BINDINGS_LOG_LEVEL" <;> rfl

theorem ofKey?_useWebsocket {v : Layer} :
    Layer.ofKey? env "BINDINGS_USE_WEBSOCKET" = some v ↔
      ∃ b, Option.Rel IsSwitch (env "BINDINGS_USE_WEBSOCKET") b ∧ v = { useWebsocket := b } := by
  refine Setting.elim_eq_some_iff (fun b => ({ useWebsocket := b } : Layer)) fun value v => ?_
  simp only [Layer.ofVariable?, Option.map_eq_some_iff, switch?_eq_some_iff, @eq_comm _ v]

theorem ofKey?_format {v : Layer} :
    Layer.ofKey? env "BINDINGS_LOG_FORMAT" = some v ↔
      ∃ f, Option.Rel IsFormat (env "BINDINGS_LOG_FORMAT") f ∧ v = { format := f } := by
  refine Setting.elim_eq_some_iff (fun f => ({ format := f } : Layer)) fun value v => ?_
  simp only [Layer.ofVariable?, Option.map_eq_some_iff, logFormat?_eq_some_iff, @eq_comm _ v]

theorem states_iff {l : Layer} : env.States l ↔ Layer.ofVariables? env overrideKeys = some l := by
  have hkeys : overrideKeys = ["BINDINGS_RPC_URL", "BINDINGS_USE_WEBSOCKET",
    "BINDINGS_LOG_LEVEL", "BINDINGS_LOG_FORMAT"] := rfl
  have hlayers : Layer.ofVariables? env overrideKeys = some l ↔
      ∃ b, Option.Rel IsSwitch (env "BINDINGS_USE_WEBSOCKET") b ∧
        ∃ f, Option.Rel IsFormat (env "BINDINGS_LOG_FORMAT") f ∧
        l = { rpcUrl := env "BINDINGS_RPC_URL", useWebsocket := b
              level := env "BINDINGS_LOG_LEVEL", format := f } := by
    simp only [hkeys, Layer.ofVariables?, Option.bind_eq_bind, Option.bind_eq_some_iff,
      ofKey?_rpcUrl, ofKey?_level, ofKey?_useWebsocket, ofKey?_format]
    simp [Layer.merge, and_assoc, eq_comm]
  rw [hlayers]
  constructor
  · intro h
    refine ⟨l.useWebsocket, h.useWebsocket, l.format, h.format, ?_⟩
    rw [← h.rpcUrl, ← h.level]
    obtain ⟨-, -, hchainId, hpollIntervalMs, -, -, houtputDir⟩ := h
    cases l
    simp_all
  · rintro ⟨b, hb, f, hf, rfl⟩
    exact ⟨rfl, hb, rfl, rfl, rfl, hf, rfl⟩

theorem exists_rel_iff {α β : Type} {r : α → β → Prop} {x : Option α} :
    (∃ y, Option.Rel r x y) ↔ ∀ a ∈ x, ∃ b, r a b := by
  cases x with
  | none => exact iff_of_true ⟨none, .none⟩ (by simp)
  | some a =>
    constructor
    · rintro ⟨_, ⟨h⟩⟩ _ ⟨⟩
      exact ⟨_, h⟩
    · intro h
      obtain ⟨b, hb⟩ := h a rfl
      exact ⟨some b, .some hb⟩

theorem exists_states_iff : (∃ l, env.States l) ↔ env.Accepted := by
  rw [Accepted, ← exists_rel_iff, ← exists_rel_iff]
  constructor
  · rintro ⟨l, h⟩
    exact ⟨⟨_, h.useWebsocket⟩, ⟨_, h.format⟩⟩
  · rintro ⟨⟨b, hb⟩, ⟨f, hf⟩⟩
    exact ⟨{ rpcUrl := env "BINDINGS_RPC_URL", useWebsocket := b,
             level := env "BINDINGS_LOG_LEVEL", format := f }, rfl, hb, rfl, rfl, rfl, hf, rfl⟩

/-- The layer of the variables before one is that of the environment with these alone. -/
theorem states_only_iff {l : Layer} (h : overrideKeys = front ++ back) :
    (env.only front).States l ↔ Layer.ofVariables? env front = some l := by
  have hnodup : (front ++ back).Nodup := h ▸ by decide
  have hunset : ∀ key ∈ back, env.only front key = none := fun key hkey =>
    if_neg fun hmem => List.disjoint_of_nodup_append hnodup hmem hkey
  have hsame : ∀ key ∈ front, env.only front key = env key := fun key hkey => if_pos hkey
  rw [states_iff, h, Layer.ofVariables?_append (Layer.ofVariables?_of_unset hunset),
    Layer.ofVariables?_congr hsame]

end Environment

theorem Layer.ofVariable?_eq_none_iff :
    Layer.ofVariable? key value = none ↔ Environment.Refuses key value := by
  have hswitch : switch? value = none ↔ ∀ b, ¬ IsSwitch value b := by
    simp [Option.eq_none_iff_forall_ne_some, switch?_eq_some_iff]
  have hformat : logFormat? value = none ↔ ∀ f, ¬ IsFormat value f := by
    simp [Option.eq_none_iff_forall_ne_some, logFormat?_eq_some_iff]
  rw [Environment.Refuses, ← hswitch, ← hformat]
  unfold Layer.ofVariable?
  split <;> simp_all

/-- How a change of a configuration by an environment ends. -/
inductive Config.Overridden (env : Environment) (c : Config) : Config × Option ConfigError → Prop
  | accepted {l : Layer} (h : env.States l) : Overridden env c (l.onto c, none)
  | refused {front back : List String} {key value : String} {l : Layer}
      (hkeys : overrideKeys = front ++ key :: back) (hfront : (env.only front).States l)
      (hvalue : env key = some value) (hrefused : Environment.Refuses key value) :
      Overridden env c (l.onto c, some (.invalidOverride key value))

/-- A change does what the layers of the variables say. -/
theorem overridden_override (env : Environment) (c : Config) :
    Config.Overridden env c (c.override env) := by
  obtain ⟨l, e, hchanges, heq⟩ := override_eq env
  rw [heq]
  cases hchanges with
  | accepted h => exact .accepted (Environment.states_iff.mpr h)
  | refused hkeys hfront hvalue hrefused =>
    exact .refused hkeys ((Environment.states_only_iff hkeys).mpr hfront) hvalue
      (Layer.ofVariable?_eq_none_iff.mp hrefused)

theorem Changes.layer_eq {l l' : Layer} {e : Option ConfigError} (h : Changes env keys l e)
    (hl' : Layer.ofVariables? env keys = some l') : l = l' ∧ e = none := by
  cases h with
  | accepted h => exact ⟨Option.some.inj (h.symm.trans hl'), rfl⟩
  | @refused front back key value _ hkeys hfront hvalue hrefused =>
    have hkey : Layer.ofKey? env key = none := by
      rw [Layer.ofKey?, hvalue, Option.elim_some, hrefused]
    have hmem : key ∈ keys := hkeys ▸ List.mem_append_right _ List.mem_cons_self
    rw [Layer.ofVariables?_eq_none hmem hkey] at hl'
    cases hl'

/-- A change is made completely exactly if the environment stands for a layer. -/
theorem override_eq_ok_iff {c c' : Config} :
    c.override env = (c', none) ↔ ∃ l, env.States l ∧ c' = l.onto c := by
  obtain ⟨l, e, hchanges, heq⟩ := override_eq env
  rw [heq]
  constructor
  · intro h
    obtain ⟨rfl, rfl⟩ := Prod.mk.inj h
    cases hchanges with
    | accepted h => exact ⟨l, Environment.states_iff.mpr h, rfl⟩
  · rintro ⟨l', h, rfl⟩
    obtain ⟨rfl, rfl⟩ := hchanges.layer_eq (Environment.states_iff.mp h)
    rfl

theorem override_eq_none_iff {c : Config} : (c.override env).2 = none ↔ env.Accepted := by
  rw [← Environment.exists_states_iff]
  constructor
  · intro h
    obtain ⟨l, hl, -⟩ := override_eq_ok_iff.mp (Prod.ext (Eq.refl (c.override env).1) h)
    exact ⟨l, hl⟩
  · rintro ⟨l, hl⟩
    rw [override_eq_ok_iff.mpr ⟨l, hl, rfl⟩]

theorem overrideBy_congr {os : List Override} (h : ∀ o ∈ os, env o.key = env' o.key)
    (c : Config) : c.overrideBy env os = c.overrideBy env' os := by
  induction os generalizing c with
  | nil => rfl
  | cons o rest ih =>
    obtain ⟨hkey, hrest⟩ := List.forall_mem_cons.mp h
    simp only [Config.overrideBy, hkey, ih hrest]

/-- Only the values of the four variables matter. -/
theorem override_congr (h : ∀ key ∈ overrideKeys, env key = env' key) (c : Config) :
    c.override env = c.override env' :=
  overrideBy_congr (fun _ ho => h _ (List.mem_map_of_mem ho)) c

end AbiBindings
