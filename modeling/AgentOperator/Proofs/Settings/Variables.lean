import AgentOperator.Proofs.Text.Numeral
import AgentOperator.Settings
import Mathlib.Data.List.Basic

/-!
# Settings and their variables

Each setting comes from a variable of its own. It is the value of the variable, if that is a text or
a numeral of the required width, and its default if the variable is unset or has any other value
(`ComesFrom`). So there are settings for all bytes that the variables may have, each setting depends
on its own variable only, and without any of the variables the settings are the default ones
(`settings_follow_variables`).
-/

namespace AgentOperator

namespace ProcessVariables

variable {process : ProcessVariables} {name : String}

/-- A variable is set to a text: its bytes are those of the text. -/
def Holds (process : ProcessVariables) (name text : String) : Prop :=
  process name = some text.toUTF8

/-- A variable is set to a numeral of a number. -/
def HoldsNumber (process : ProcessVariables) (name : String) (n : Nat) : Prop :=
  ∃ text, process.Holds name text ∧ Numeral.Denotes text n

/-- A variable has a text if and only if its bytes are those of the text. -/
theorem text?_eq_some_iff {text : String} :
    process.text? name = some text ↔ process.Holds name text := by
  rw [text?, Option.bind_eq_some_iff, Holds]
  constructor
  · rintro ⟨bytes, hbytes, htext⟩
    rw [String.fromUTF8?] at htext
    split at htext
    · rw [hbytes, ← Option.some.inj htext]
      rfl
    · cases htext
  · intro hset
    refine ⟨_, hset, ?_⟩
    rw [String.fromUTF8?, String.toUTF8_eq_toByteArray, dif_pos text.isValidUTF8]
    rfl

/-- A variable holds one text only. -/
theorem Holds.eq {text other : String} (h : process.Holds name text)
    (hother : process.Holds name other) : text = other := by
  rw [← text?_eq_some_iff] at h hother
  exact Option.some.inj (h.symm.trans hother)

/-- A variable whose bytes are no text holds none. -/
theorem not_holds_of_not_valid {bytes : ByteArray} (hset : process name = some bytes)
    (hbytes : ¬ bytes.IsValidUTF8) (text : String) : ¬ process.Holds name text := by
  rw [Holds, hset, Option.some_inj]
  rintro rfl
  exact hbytes text.isValidUTF8

/-- The value of a variable is a number below a bound if and only if the variable is set to a
numeral of it. -/
theorem number_below?_eq_some_iff {bound n : Nat} :
    process.numberBelow? bound name = some n ↔ process.HoldsNumber name n ∧ n < bound := by
  rw [numberBelow?, Option.bind_eq_some_iff, HoldsNumber, exists_and_right.symm]
  simp only [text?_eq_some_iff, Numeral.read_below?_eq_some_iff, and_assoc]

/-- The proxy settings are the proxy variables that are set to texts. -/
theorem mem_proxy_settings_iff {value : String} :
    (name, value) ∈ process.proxySettings ↔ name ∈ proxyNames ∧ process.Holds name value := by
  simp only [proxySettings, List.mem_filterMap, Option.map_eq_some_iff, Prod.mk.injEq,
    text?_eq_some_iff]
  constructor
  · rintro ⟨proxy, hproxy, text, hset, rfl, rfl⟩
    exact ⟨hproxy, hset⟩
  · rintro ⟨hproxy, hset⟩
    exact ⟨name, hproxy, value, hset, rfl, rfl⟩

/-- The proxy settings stand in the order of the names of their variables. -/
theorem map_fst_proxy_settings_sublist (process : ProcessVariables) :
    (process.proxySettings.map Prod.fst).Sublist proxyNames := by
  have hnames : process.proxySettings.map Prod.fst =
      proxyNames.filter fun name => (process.text? name).isSome := by
    unfold proxySettings
    rw [List.map_filterMap, ← List.filterMap_eq_filter]
    congr
    funext name
    cases hvalue : process.text? name with
    | none => simp [Option.guard, hvalue]
    | some value => simp [Option.guard, hvalue]
  rw [hnames]
  exact List.filter_sublist

end ProcessVariables

/-- A setting is what it was given, or its default if it was given nothing. -/
structure ComesFrom {α : Type} (Given : α → Prop) (default setting : α) : Prop where
  given : ∀ value, Given value → setting = value
  unset : (∀ value, ¬ Given value) → setting = default

/-- A setting that is the value that is found or the default comes from it. -/
theorem comes_from_getd {α : Type} {Given : α → Prop} {found : Option α} (default : α)
    (h : ∀ value, found = some value ↔ Given value) :
    ComesFrom Given default (found.getD default) where
  given value hvalue := by
    rw [(h value).2 hvalue]
    rfl
  unset hnone := by
    have hfound : found = none := Option.eq_none_iff_forall_ne_some.2 fun value hvalue =>
      hnone value ((h value).1 hvalue)
    rw [hfound]
    rfl

/-- Settings with the same given values and the same default are equal. -/
theorem ComesFrom.eq {α : Type} {Given Given' : α → Prop} {default setting setting' : α}
    (h : ComesFrom Given default setting) (h' : ComesFrom Given' default setting')
    (hsame : ∀ value, Given value ↔ Given' value) : setting = setting' := by
  by_cases hgiven : ∃ value, Given value
  · obtain ⟨value, hvalue⟩ := hgiven
    rw [h.given value hvalue, h'.given value ((hsame value).1 hvalue)]
  · have hnone : ∀ value, ¬ Given value := fun value hvalue => hgiven ⟨value, hvalue⟩
    rw [h.unset hnone, h'.unset fun value hvalue => hnone value ((hsame value).2 hvalue)]

section Single

variable (process : ProcessVariables) (name : String)

/-- A text setting is the text that its variable holds. -/
theorem comes_from_text_or (default : String) :
    ComesFrom (process.Holds name) default (process.textOr name default) :=
  comes_from_getd default fun _ => ProcessVariables.text?_eq_some_iff

/-- A number of some width is found if and only if the variable holds a numeral of it. -/
theorem map_number_below?_eq_some_iff {α : Type} {bound : Nat} {ofNat : Nat → α} {toNat : α → Nat}
    (hlt : ∀ value, toNat value < bound) (hofNat : ∀ value, ofNat (toNat value) = value)
    (htoNat : ∀ n < bound, toNat (ofNat n) = n) (value : α) :
    (process.numberBelow? bound name).map ofNat = some value ↔
      process.HoldsNumber name (toNat value) := by
  simp only [Option.map_eq_some_iff, ProcessVariables.number_below?_eq_some_iff]
  constructor
  · rintro ⟨n, ⟨hset, hn⟩, rfl⟩
    rwa [htoNat n hn]
  · exact fun hset => ⟨toNat value, ⟨hset, hlt value⟩, hofNat value⟩

/-- A 64-bit setting is the number that its variable holds a numeral of. -/
theorem comes_from_uint64_or (default : UInt64) :
    ComesFrom (fun value => process.HoldsNumber name value.toNat) default
      (process.uint64Or name default) :=
  comes_from_getd default <| map_number_below?_eq_some_iff process name UInt64.toNat_lt_size
    (fun _ => UInt64.ofNat_toNat) fun _ => UInt64.toNat_ofNat_of_lt

/-- A 16-bit setting is the number that its variable holds a numeral of. -/
theorem comes_from_uint16_or (default : UInt16) :
    ComesFrom (fun value => process.HoldsNumber name value.toNat) default
      (process.uint16Or name default) :=
  comes_from_getd default <| map_number_below?_eq_some_iff process name UInt16.toNat_lt_size
    (fun _ => UInt16.ofNat_toNat) fun _ => UInt16.toNat_ofNat_of_lt

end Single

/-- The settings of the operator are what the variables of a process make them. The proxy settings
are the proxy variables that are set to texts, in the order of these and none of them twice. -/
structure Settings.Follow (process : ProcessVariables) (settings : Settings) : Prop where
  agentImage : ComesFrom (process.Holds "AGENT_IMAGE") ({} : Settings).agentImage
    settings.agentImage
  configMapEntry : ComesFrom (process.Holds "CONFIG_MAP_ENTRY") ({} : Settings).configMapEntry
    settings.configMapEntry
  errorRequeueSeconds :
    ComesFrom (fun value => process.HoldsNumber "RECONCILIATION_ERROR_REQUEUE_SECS" value.toNat)
      ({} : Settings).errorRequeueSeconds settings.errorRequeueSeconds
  maxConcurrent :
    ComesFrom (fun value => process.HoldsNumber "MAX_CONCURRENT_RECONCILIATIONS" value.toNat)
      ({} : Settings).maxConcurrent settings.maxConcurrent
  logLevel : ComesFrom (process.Holds "LOG_LEVEL") ({} : Settings).logLevel settings.logLevel
  logFormat : ComesFrom (process.Holds "LOG_FORMAT") ({} : Settings).logFormat settings.logFormat
  proxies : ∀ name value, (name, value) ∈ settings.proxySettings ↔
    name ∈ proxyNames ∧ process.Holds name value
  order : (settings.proxySettings.map Prod.fst).Sublist proxyNames

/-- The settings of the server are what the variables of a process make them. -/
structure ServerSettings.Follow (process : ProcessVariables) (settings : ServerSettings) :
    Prop where
  metricsPort : ComesFrom (fun value => process.HoldsNumber "METRICS_PORT" value.toNat)
    ({} : ServerSettings).metricsPort settings.metricsPort

/-- The settings of the operator follow the variables of its process. -/
theorem Settings.follow_from_variables (process : ProcessVariables) :
    (Settings.fromVariables process).Follow process where
  agentImage := comes_from_text_or process _ _
  configMapEntry := comes_from_text_or process _ _
  errorRequeueSeconds := comes_from_uint64_or process _ _
  maxConcurrent := comes_from_uint16_or process _ _
  logLevel := comes_from_text_or process _ _
  logFormat := comes_from_text_or process _ _
  proxies _ _ := ProcessVariables.mem_proxy_settings_iff
  order := process.map_fst_proxy_settings_sublist

/-- The settings of the server follow the variables of its process. -/
theorem ServerSettings.follow_from_variables (process : ProcessVariables) :
    (ServerSettings.fromVariables process).Follow process where
  metricsPort := comes_from_uint16_or process _ _

/-- A setting is the same in all processes that agree on some variables. -/
def DependsOn {α : Type} (names : List String) (setting : ProcessVariables → α) : Prop :=
  ∀ process other : ProcessVariables, (∀ name ∈ names, process name = other name) →
    setting process = setting other

/-- Every setting is the same in all processes that agree on its own variables. -/
structure SettingsApart : Prop where
  agentImage : DependsOn ["AGENT_IMAGE"] fun process => (Settings.fromVariables process).agentImage
  configMapEntry :
    DependsOn ["CONFIG_MAP_ENTRY"] fun process => (Settings.fromVariables process).configMapEntry
  errorRequeueSeconds : DependsOn ["RECONCILIATION_ERROR_REQUEUE_SECS"] fun process =>
    (Settings.fromVariables process).errorRequeueSeconds
  maxConcurrent : DependsOn ["MAX_CONCURRENT_RECONCILIATIONS"] fun process =>
    (Settings.fromVariables process).maxConcurrent
  logLevel : DependsOn ["LOG_LEVEL"] fun process => (Settings.fromVariables process).logLevel
  logFormat : DependsOn ["LOG_FORMAT"] fun process => (Settings.fromVariables process).logFormat
  proxySettings : DependsOn proxyNames fun process => (Settings.fromVariables process).proxySettings
  metricsPort :
    DependsOn ["METRICS_PORT"] fun process => (ServerSettings.fromVariables process).metricsPort

/-- A text setting depends on its variable only. -/
theorem depends_on_of_text {name default : String} {setting : ProcessVariables → String}
    (h : ∀ process, ComesFrom (process.Holds name) default (setting process)) :
    DependsOn [name] setting := by
  intro process other hagree
  refine (h process).eq (h other) fun value => ?_
  rw [ProcessVariables.Holds, ProcessVariables.Holds, hagree name List.mem_cons_self]

/-- A numeric setting depends on its variable only. -/
theorem depends_on_of_number {α : Type} {name : String} {toNat : α → Nat} {default : α}
    {setting : ProcessVariables → α}
    (h : ∀ process, ComesFrom (fun value => process.HoldsNumber name (toNat value)) default
      (setting process)) :
    DependsOn [name] setting := by
  intro process other hagree
  refine (h process).eq (h other) fun value => ?_
  unfold ProcessVariables.HoldsNumber ProcessVariables.Holds
  rw [hagree name List.mem_cons_self]

/-- The proxy settings depend on the proxy variables only. -/
theorem depends_on_proxy_names : DependsOn proxyNames ProcessVariables.proxySettings := by
  intro process other hagree
  refine List.filterMap_congr fun name hname => ?_
  unfold ProcessVariables.text?
  rw [hagree name hname]

/-- Every setting depends on its own variables only. -/
theorem settings_apart : SettingsApart where
  agentImage :=
    depends_on_of_text fun process => (Settings.follow_from_variables process).agentImage
  configMapEntry :=
    depends_on_of_text fun process => (Settings.follow_from_variables process).configMapEntry
  errorRequeueSeconds :=
    depends_on_of_number fun process => (Settings.follow_from_variables process).errorRequeueSeconds
  maxConcurrent :=
    depends_on_of_number fun process => (Settings.follow_from_variables process).maxConcurrent
  logLevel := depends_on_of_text fun process => (Settings.follow_from_variables process).logLevel
  logFormat := depends_on_of_text fun process => (Settings.follow_from_variables process).logFormat
  proxySettings := depends_on_proxy_names
  metricsPort :=
    depends_on_of_number fun process => (ServerSettings.follow_from_variables process).metricsPort

/-- The names of the variables that settings come from. -/
def settingNames : List String :=
  ["AGENT_IMAGE", "CONFIG_MAP_ENTRY", "RECONCILIATION_ERROR_REQUEUE_SECS",
    "MAX_CONCURRENT_RECONCILIATIONS", "LOG_LEVEL", "LOG_FORMAT", "METRICS_PORT"] ++ proxyNames

section Unset

variable {process : ProcessVariables} {name : String}

/-- A variable that is unset holds no text. -/
theorem ProcessVariables.not_holds (h : process name = none) (text : String) :
    ¬ process.Holds name text := by
  rw [Holds, h]
  nofun

/-- A variable that is unset holds no numeral. -/
theorem ProcessVariables.not_holds_number (h : process name = none) (n : Nat) :
    ¬ process.HoldsNumber name n := by
  rintro ⟨text, hset, -⟩
  exact not_holds h text hset

/-- Settings that follow unset variables are the default ones. -/
theorem Settings.Follow.eq_default {settings : Settings} (h : settings.Follow process)
    (hunset : ∀ name ∈ settingNames, process name = none) : settings = {} := by
  have htext (name : String) (hname : name ∈ settingNames) (text : String) :
      ¬ process.Holds name text := ProcessVariables.not_holds (hunset name hname) text
  have hnumber (name : String) (hname : name ∈ settingNames) (n : Nat) :
      ¬ process.HoldsNumber name n := ProcessVariables.not_holds_number (hunset name hname) n
  have hproxies : settings.proxySettings = [] := by
    refine List.eq_nil_iff_forall_not_mem.2 fun ⟨name, value⟩ hmem => ?_
    obtain ⟨hname, hset⟩ := (h.proxies name value).1 hmem
    exact htext name (List.mem_append_right _ hname) value hset
  cases settings
  congr
  · exact h.agentImage.unset (htext _ (by decide))
  · exact h.configMapEntry.unset (htext _ (by decide))
  · exact h.errorRequeueSeconds.unset fun _ => hnumber _ (by decide) _
  · exact h.maxConcurrent.unset fun _ => hnumber _ (by decide) _
  · exact h.logLevel.unset (htext _ (by decide))
  · exact h.logFormat.unset (htext _ (by decide))

/-- Settings of the server that follow an unset variable are the default ones. -/
theorem ServerSettings.Follow.eq_default {settings : ServerSettings} (h : settings.Follow process)
    (hunset : process "METRICS_PORT" = none) : settings = {} := by
  cases settings
  congr
  exact h.metricsPort.unset fun _ => ProcessVariables.not_holds_number hunset _

end Unset

/-- The settings of operator and server follow the variables of the process, for all bytes that
these may have. Each setting depends on its own variables only, and without any of the variables
both are the default settings. -/
theorem settings_follow_variables :
    (∀ process, (Settings.fromVariables process).Follow process ∧
      (ServerSettings.fromVariables process).Follow process) ∧
    SettingsApart ∧
    ∀ process : ProcessVariables, (∀ name ∈ settingNames, process name = none) →
      Settings.fromVariables process = {} ∧ ServerSettings.fromVariables process = {} := by
  refine ⟨fun process => ?_, settings_apart, fun process hunset => ?_⟩
  · exact ⟨Settings.follow_from_variables process, ServerSettings.follow_from_variables process⟩
  · exact ⟨(Settings.follow_from_variables process).eq_default hunset,
      (ServerSettings.follow_from_variables process).eq_default (hunset _ (by decide))⟩

/-- Variables with an empty text, bytes that are no text, the greatest numeral of 64 bits with a
sign and zeros in front, and a numeral of one bit too many. -/
def oddVariables : ProcessVariables := fun name =>
  [("AGENT_IMAGE", "".toUTF8), ("CONFIG_MAP_ENTRY", ⟨#[0xC3, 0x28]⟩),
    ("RECONCILIATION_ERROR_REQUEUE_SECS", "+0018446744073709551615".toUTF8),
    ("MAX_CONCURRENT_RECONCILIATIONS", "65536".toUTF8), ("NO_PROXY", "".toUTF8)].lookup name

/-- Odd variables have settings, and setting one more variable changes none of the settings of other
ones. -/
theorem odd_variables_followed :
    let settings := Settings.fromVariables oddVariables
    let others := Function.update oddVariables "LOG_LEVEL" (some "".toUTF8)
    settings.agentImage = "" ∧ settings.configMapEntry = "cwagentconfig.json" ∧
      settings.errorRequeueSeconds = 18446744073709551615 ∧ settings.maxConcurrent = 10 ∧
      ("NO_PROXY", "") ∈ settings.proxySettings ∧
      settings.errorRequeueSeconds = (Settings.fromVariables others).errorRequeueSeconds ∧
      Settings.fromVariables (fun _ => none) = {} := by
  intro settings others
  obtain ⟨hfollow, hapart, hunset⟩ := settings_follow_variables
  obtain ⟨h, -⟩ := hfollow oddVariables
  refine ⟨h.agentImage.given "" rfl,
    h.configMapEntry.unset (ProcessVariables.not_holds_of_not_valid rfl (by decide)),
    h.errorRequeueSeconds.given _ ⟨"+0018446744073709551615", rfl, by decide⟩,
    h.maxConcurrent.unset fun n hset => ?_, (h.proxies _ _).2 ⟨by decide, rfl⟩,
    hapart.errorRequeueSeconds _ _ fun name hname => ?_, (hunset _ fun _ _ => rfl).1⟩
  · obtain ⟨text, hset, hnumber⟩ := hset
    have htext : text = "65536" := hset.eq (by rfl)
    have hn : n.toNat = 65536 := hnumber.eq (htext ▸ by decide)
    exact absurd n.toNat_lt_size (by rw [hn]; decide)
  · rw [List.mem_singleton.1 hname]
    exact (Function.update_of_ne (by decide) _ _).symm

end AgentOperator
