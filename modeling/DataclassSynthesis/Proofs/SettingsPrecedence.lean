import DataclassSynthesis.Proofs.SettingsText
import Mathlib.Data.List.Basic

/-!
# What settings mean

Settings describe a configuration unless they mention a name that no warning has. For each code, the
list of promoted warnings decides over the list of dropped ones, this one over the list of reported
ones, and what no list mentions is as the settings are strict or not. The order of the names and
their repetitions do not matter (`DataclassSynthesis.Settings.resolve_decided`).
-/

namespace DataclassSynthesis

namespace WarningCode

/-- A code is found under its own name. -/
theorem ofConfigName?_configName (code : WarningCode) :
    ofConfigName? code.configName = some code := by
  cases code <;> decide

/-- No two codes have the same name. -/
theorem configName_injective : Function.Injective configName := by
  intro first second same
  have found := ofConfigName?_configName first
  rw [same, ofConfigName?_configName] at found
  exact (Option.some.inj found).symm

/-- A name is that of a warning. -/
def IsName (name : String) : Prop := ∃ code : WarningCode, code.configName = name

/-- A name is found exactly if it is that of a warning. -/
theorem isSome_ofConfigName?_iff {name : String} :
    (ofConfigName? name).isSome = true ↔ IsName name := by
  constructor
  · intro found
    obtain ⟨code, named⟩ := Option.isSome_iff_exists.mp found
    have passed := List.find?_some named
    exact ⟨code, beq_iff_eq.mp passed⟩
  · rintro ⟨code, rfl⟩
    rw [ofConfigName?_configName, Option.isSome_some]

/-- The warnings that have to be asked for are two. -/
theorem isOptIn_iff {code : WarningCode} :
    code.isOptIn = true ↔ code = annotatedTwice ∨ code = requiredAfterDefault := by
  cases code <;> decide

end WarningCode

namespace WarningConfig

variable {α : Type} (act : WarningConfig → WarningCode → WarningConfig)

/-- What the treatment of every code leaves alone is as before. -/
theorem view_foldl_of_ignores (view : WarningConfig → α)
    (ignores : ∀ config code, view (act config code) = view config) (codes : List WarningCode)
    (config : WarningConfig) : view (codes.foldl act config) = view config := by
  induction codes generalizing config with
  | nil => rfl
  | cons code rest ih => rw [List.foldl_cons, ih, ignores]

/-- What the treatment of one code fixes, and that of the others leaves alone, depends on whether
the code is treated at all. -/
theorem view_foldl (view : WarningConfig → α) (code : WarningCode) {value : α}
    (fixes : ∀ config, view (act config code) = value)
    (ignores : ∀ config other, code ≠ other → view (act config other) = view config)
    (codes : List WarningCode) (config : WarningConfig) :
    view (codes.foldl act config) = if code ∈ codes then value else view config := by
  induction codes generalizing config with
  | nil => rfl
  | cons first rest ih =>
    rw [List.foldl_cons, ih]
    by_cases same : code = first
    · subst same
      simp [fixes]
    · rw [ignores config first same]
      simp [same]

theorem eq_of_fields {left right : WarningConfig} (disabled : left.disabled = right.disabled)
    (denied : left.denied = right.denied) (strict : left.strict = right.strict) : left = right := by
  cases left
  cases right
  cases disabled
  cases denied
  cases strict
  rfl

variable (reported dropped promoted : List WarningCode) (config : WarningConfig)

/-- A code is dropped according to the last of the three lists in which it is. -/
theorem disabled_treated (code : WarningCode) :
    (promoted.foldl Settings.denyCode
      (dropped.foldl disable (reported.foldl enable config))).disabled code =
        if code ∈ promoted then false else if code ∈ dropped then true
        else if code ∈ reported then false else config.disabled code := by
  let view (config : WarningConfig) := config.disabled code
  have promotes : ∀ config, view (promoted.foldl Settings.denyCode config) =
      if code ∈ promoted then false else view config :=
    view_foldl _ view code (fun config => by simp [view, Settings.denyCode, enable, promote])
      (fun config other differ => by simp [view, Settings.denyCode, enable, promote, differ])
      promoted
  have drops : ∀ config, view (dropped.foldl disable config) =
      if code ∈ dropped then true else view config :=
    view_foldl _ view code (fun config => by simp [view, disable])
      (fun config other differ => by simp [view, disable, differ]) dropped
  have reports : ∀ config, view (reported.foldl enable config) =
      if code ∈ reported then false else view config :=
    view_foldl _ view code (fun config => by simp [view, enable])
      (fun config other differ => by simp [view, enable, differ]) reported
  change view _ = _
  rw [promotes, drops, reports]

/-- A code is promoted if it is in the last of the three lists. -/
theorem denied_treated (code : WarningCode) :
    (promoted.foldl Settings.denyCode
      (dropped.foldl disable (reported.foldl enable config))).denied code =
        if code ∈ promoted then true else config.denied code := by
  let view (config : WarningConfig) := config.denied code
  have promotes : ∀ config, view (promoted.foldl Settings.denyCode config) =
      if code ∈ promoted then true else view config :=
    view_foldl _ view code (fun config => by simp [view, Settings.denyCode, promote])
      (fun config other differ => by simp [view, Settings.denyCode, enable, promote, differ])
      promoted
  change view _ = _
  rw [promotes, view_foldl_of_ignores disable view fun _ _ => rfl,
    view_foldl_of_ignores enable view fun _ _ => rfl]

theorem strict_treated :
    (promoted.foldl Settings.denyCode
      (dropped.foldl disable (reported.foldl enable config))).strict = config.strict := by
  rw [view_foldl_of_ignores Settings.denyCode strict fun _ _ => rfl,
    view_foldl_of_ignores disable strict fun _ _ => rfl,
    view_foldl_of_ignores enable strict fun _ _ => rfl]

end WarningConfig

namespace Settings

/-- The configuration from which settings start. -/
def base (settings : Settings) : WarningConfig :=
  if settings.strict then .strictest else .standard

/-- The names that settings mention, in the order in which they are looked up. -/
def names (settings : Settings) : List String :=
  settings.enable ++ settings.disable ++ settings.deny

/-- The first of some names that no warning has. -/
def firstUnknown? (names : List String) : Option String :=
  names.find? fun name => (WarningCode.ofConfigName? name).isNone

theorem firstUnknown?_append (first second : List String) :
    firstUnknown? (first ++ second) = (firstUnknown? first).or (firstUnknown? second) :=
  List.find?_append

/-- The first unknown name comes after names of warnings only. -/
theorem firstUnknown?_eq_some_iff {names : List String} {name : String} :
    firstUnknown? names = some name ↔ ∃ before after, names = before ++ name :: after ∧
      (∀ earlier ∈ before, WarningCode.IsName earlier) ∧ ¬ WarningCode.IsName name := by
  rw [firstUnknown?, List.find?_eq_some_iff_append]
  simp only [← WarningCode.isSome_ofConfigName?_iff]
  constructor
  · rintro ⟨unknown, before, after, rfl, known⟩
    exact ⟨before, after, rfl, by simpa using known, by simpa using unknown⟩
  · rintro ⟨before, after, rfl, known, unknown⟩
    exact ⟨by simpa using unknown, before, after, rfl, by simpa using known⟩

/-- No name is unknown if all are names of warnings. -/
theorem firstUnknown?_eq_none_iff {names : List String} :
    firstUnknown? names = none ↔ ∀ name ∈ names, WarningCode.IsName name := by
  simp only [firstUnknown?, List.find?_eq_none, Bool.not_eq_true, Option.isNone_eq_false_iff,
    WarningCode.isSome_ofConfigName?_iff]

/-- Some name is the first unknown one exactly if there is an unknown one. -/
theorem exists_firstUnknown?_iff {names : List String} :
    (∃ name, firstUnknown? names = some name) ↔ ∃ name ∈ names, ¬ WarningCode.IsName name := by
  rw [← Option.isSome_iff_exists, firstUnknown?, List.find?_isSome]
  simp only [← WarningCode.isSome_ofConfigName?_iff, Option.isNone_iff_eq_none,
    Option.not_isSome_iff_eq_none]

/-- Names are looked up in order, up to the first one that no warning has. -/
theorem codes_cases (names : List String) :
    (∃ found, codes names = .ok found ∧ firstUnknown? names = none) ∨
      ∃ name, codes names = .error (.unknownWarning name) ∧ firstUnknown? names = some name := by
  induction names with
  | nil => exact .inl ⟨[], rfl, rfl⟩
  | cons name rest ih =>
    rw [codes, firstUnknown?, List.find?_cons]
    cases WarningCode.ofConfigName? name with
    | none => exact .inr ⟨name, rfl, rfl⟩
    | some code =>
      rcases ih with ⟨found, looked, known⟩ | ⟨unknown, looked, isFirst⟩
      · exact .inl ⟨code :: found, by rw [looked]; rfl, known⟩
      · exact .inr ⟨unknown, by rw [looked]; rfl, isFirst⟩

/-- A code belongs to one of the names in a list. -/
def Mentions (names : List String) (code : WarningCode) : Prop := code.configName ∈ names

instance (names : List String) (code : WarningCode) : Decidable (Mentions names code) :=
  inferInstanceAs (Decidable (code.configName ∈ names))

/-- The codes of some names are those that the names mention. -/
theorem mem_codes_iff {names : List String} {found : List WarningCode}
    (isFound : codes names = .ok found) {code : WarningCode} :
    code ∈ found ↔ Mentions names code := by
  rw [Mentions, ← map_configName_of_codes isFound,
    List.mem_map_of_injective WarningCode.configName_injective]

/-- The configuration that settings with known names describe. -/
def config (settings : Settings) : WarningConfig where
  disabled code :=
    if Mentions settings.deny code then false else if Mentions settings.disable code then true
    else if Mentions settings.enable code then false else !settings.strict && code.isOptIn
  denied code := decide (Mentions settings.deny code)
  strict := settings.strict

/-- Treating the codes of the three lists one list after the other gives the configuration. -/
theorem treated_eq_config {settings : Settings} {reported dropped promoted : List WarningCode}
    (enabled : codes settings.enable = .ok reported)
    (disabled : codes settings.disable = .ok dropped)
    (denied : codes settings.deny = .ok promoted) :
    promoted.foldl denyCode (dropped.foldl .disable (reported.foldl .enable settings.base)) =
      settings.config := by
  refine WarningConfig.eq_of_fields (funext fun code => ?_) (funext fun code => ?_) ?_
  · rw [WarningConfig.disabled_treated]
    simp only [mem_codes_iff enabled, mem_codes_iff disabled, mem_codes_iff denied, config, base]
    cases settings.strict <;> rfl
  · rw [WarningConfig.denied_treated]
    simp only [mem_codes_iff denied, config, base]
    cases settings.strict <;> simp [WarningConfig.strictest, WarningConfig.standard,
      WarningConfig.everything]
  · rw [WarningConfig.strict_treated]
    cases strict : settings.strict <;> simp [config, base, strict] <;> rfl

/-- The effect of a name on a configuration, unless no warning has it. -/
def applyName (act : WarningConfig → WarningCode → WarningConfig) (config : WarningConfig)
    (name : String) : Except SettingsError WarningConfig :=
  match WarningCode.ofConfigName? name with
  | none => .error (.unknownWarning name)
  | some code => .ok (act config code)

/-- Treating names one at a time is looking all of them up first. -/
theorem foldlM_applyName (act : WarningConfig → WarningCode → WarningConfig) (names : List String)
    (config : WarningConfig) :
    names.foldlM (applyName act) config =
      (codes names).map fun found => found.foldl act config := by
  induction names generalizing config with
  | nil => rfl
  | cons name rest ih =>
    rw [List.foldlM_cons, codes, applyName]
    cases WarningCode.ofConfigName? name with
    | none => rfl
    | some code =>
      change rest.foldlM (applyName act) (act config code) = _
      rw [ih]
      cases codes rest <;> rfl

/-- Names may as well be looked up one at a time, each as it takes effect. -/
theorem resolve_eq_foldlM (settings : Settings) : settings.resolve = (do
    let reported ← settings.enable.foldlM (applyName .enable) settings.base
    let dropped ← settings.disable.foldlM (applyName .disable) reported
    settings.deny.foldlM (applyName denyCode) dropped) := by
  simp only [foldlM_applyName]
  rw [resolve]
  cases codes settings.enable with
  | error error => rfl
  | ok reported =>
    cases codes settings.disable with
    | error error => rfl
    | ok dropped => cases codes settings.deny <;> rfl

/-- Treating names one at a time treats the codes of all of them, or fails at the first one that no
warning has. -/
theorem foldlM_cases (act : WarningConfig → WarningCode → WarningConfig) (names : List String)
    (config : WarningConfig) :
    (∃ found, codes names = .ok found ∧
        names.foldlM (applyName act) config = .ok (found.foldl act config) ∧
        firstUnknown? names = none) ∨
      ∃ name, names.foldlM (applyName act) config = .error (.unknownWarning name) ∧
        firstUnknown? names = some name := by
  rw [foldlM_applyName]
  rcases codes_cases names with ⟨found, looked, known⟩ | ⟨name, failed, first⟩
  · exact .inl ⟨found, looked, by rw [looked]; rfl, known⟩
  · exact .inr ⟨name, by rw [failed]; rfl, first⟩

/-- Settings describe their configuration, or mention a name that no warning has. -/
theorem resolve_cases (settings : Settings) :
    (settings.resolve = .ok settings.config ∧ firstUnknown? settings.names = none) ∨
      ∃ name, settings.resolve = .error (.unknownWarning name) ∧
        firstUnknown? settings.names = some name := by
  rw [resolve_eq_foldlM, names, firstUnknown?_append, firstUnknown?_append]
  have goesOn : ∀ config (next : WarningConfig → Except SettingsError WarningConfig),
      (Except.ok config >>= next) = next config := fun _ _ => rfl
  rcases foldlM_cases .enable settings.enable settings.base with
    ⟨reported, enabled, treated, known⟩ | ⟨name, failed, first⟩
  · rw [treated, known, goesOn]
    rcases foldlM_cases .disable settings.disable (reported.foldl .enable settings.base) with
      ⟨dropped, disabled, treated, known⟩ | ⟨name, failed, first⟩
    · rw [treated, known, goesOn]
      rcases foldlM_cases denyCode settings.deny
          (dropped.foldl .disable (reported.foldl .enable settings.base)) with
        ⟨promoted, denied, treated, known⟩ | ⟨name, failed, first⟩
      · rw [treated, known, treated_eq_config enabled disabled denied]
        exact .inl ⟨rfl, rfl⟩
      · rw [failed, first]
        exact .inr ⟨name, rfl, rfl⟩
    · rw [failed, first]
      exact .inr ⟨name, rfl, rfl⟩
  · rw [failed, first]
    exact .inr ⟨name, rfl, rfl⟩

/-- Settings do not resolve exactly because of the first unknown name. -/
theorem resolve_eq_error_iff {settings : Settings} {error : SettingsError} :
    settings.resolve = .error error ↔
      ∃ name, firstUnknown? settings.names = some name ∧ error = .unknownWarning name := by
  rcases settings.resolve_cases with ⟨resolved, known⟩ | ⟨name, failed, first⟩
  · simp [resolved, known]
  · simp [failed, first, eq_comm]

/-- Settings without an unknown name resolve to the configuration that they describe. -/
theorem resolve_eq_ok_iff {settings : Settings} {config : WarningConfig} :
    settings.resolve = .ok config ↔
      firstUnknown? settings.names = none ∧ config = settings.config := by
  rcases settings.resolve_cases with ⟨resolved, known⟩ | ⟨name, failed, first⟩
  · simp [resolved, known, eq_comm]
  · simp [failed, first]

/-- A code is dropped by settings that do not promote it, and either drop it, or neither report it
nor are strict while it is only reported on request. -/
theorem config_disabled_iff (settings : Settings) (code : WarningCode) :
    settings.config.disabled code = true ↔ ¬ Mentions settings.deny code ∧
      (Mentions settings.disable code ∨ ¬ Mentions settings.enable code ∧
        settings.strict = false ∧ code.isOptIn = true) := by
  by_cases promoted : Mentions settings.deny code
  · simp [config, promoted]
  · by_cases dropped : Mentions settings.disable code
    · simp [config, promoted, dropped]
    · by_cases reported : Mentions settings.enable code
      · simp [config, promoted, dropped, reported]
      · simp [config, promoted, dropped, reported]

/-- A code is denied if the settings are strict or deny it. -/
theorem config_isDenied_iff (settings : Settings) (code : WarningCode) :
    settings.config.isDenied code = true ↔
      settings.strict = true ∨ Mentions settings.deny code := by
  simp [WarningConfig.isDenied, config]

/-- Settings that mention the same names, in whatever order and however often, describe the same
configuration. -/
theorem config_congr {settings other : Settings} (strict : other.strict = settings.strict)
    (enable : ∀ name, name ∈ other.enable ↔ name ∈ settings.enable)
    (disable : ∀ name, name ∈ other.disable ↔ name ∈ settings.disable)
    (deny : ∀ name, name ∈ other.deny ↔ name ∈ settings.deny) : other.config = settings.config := by
  refine WarningConfig.eq_of_fields (funext fun code => ?_) (funext fun code => ?_) strict
  · rw [Bool.eq_iff_iff, config_disabled_iff, config_disabled_iff]
    simp only [Mentions, strict, enable, disable, deny]
  · exact decide_eq_decide.mpr (deny code.configName)

/-- Settings that mention the same names have the same unknown names. -/
theorem firstUnknown?_names_congr {settings other : Settings}
    (enable : ∀ name, name ∈ other.enable ↔ name ∈ settings.enable)
    (disable : ∀ name, name ∈ other.disable ↔ name ∈ settings.disable)
    (deny : ∀ name, name ∈ other.deny ↔ name ∈ settings.deny)
    (known : firstUnknown? settings.names = none) : firstUnknown? other.names = none := by
  rw [firstUnknown?_eq_none_iff] at known ⊢
  intro name mentioned
  apply known
  simpa only [names, List.mem_append, enable, disable, deny] using mentioned

/-- Settings describe no configuration exactly when they mention a name that no warning has, and the
first such name is reported, from the names to report over those to drop to those to promote.
Otherwise a code is dropped exactly when it is not to be promoted, and is to be dropped, or is
reported on request only, is not to be reported, and the settings are not strict. It is promoted
exactly when it is to be promoted or the settings are strict, so what is to be promoted is never
dropped. Only the sets of names matter for that, not their order or how often they occur. -/
theorem resolve_decided (settings : Settings) :
    ((∃ error, settings.resolve = .error error) ↔
      ∃ name ∈ settings.enable ++ settings.disable ++ settings.deny, ¬ WarningCode.IsName name) ∧
    (∀ error, settings.resolve = .error error ↔ ∃ before name after,
      settings.enable ++ settings.disable ++ settings.deny = before ++ name :: after ∧
      (∀ earlier ∈ before, WarningCode.IsName earlier) ∧ ¬ WarningCode.IsName name ∧
      error = .unknownWarning name) ∧
    ∀ config, settings.resolve = .ok config →
      (∀ code, config.disabled code = true ↔ code.configName ∉ settings.deny ∧
        (code.configName ∈ settings.disable ∨ code.configName ∉ settings.enable ∧
          settings.strict = false ∧ (code = .annotatedTwice ∨ code = .requiredAfterDefault))) ∧
      (∀ code, config.isDenied code = true ↔
        settings.strict = true ∨ code.configName ∈ settings.deny) ∧
      (∀ code, code.configName ∈ settings.deny → config.isEnabled code = true) ∧
      ∀ other : Settings, other.strict = settings.strict →
        (∀ name, name ∈ other.enable ↔ name ∈ settings.enable) →
        (∀ name, name ∈ other.disable ↔ name ∈ settings.disable) →
        (∀ name, name ∈ other.deny ↔ name ∈ settings.deny) → other.resolve = .ok config := by
  refine ⟨?_, fun error => ?_, fun config resolved => ?_⟩
  · simp only [resolve_eq_error_iff]
    constructor
    · rintro ⟨_, name, first, -⟩
      exact exists_firstUnknown?_iff.mp ⟨name, first⟩
    · intro mentioned
      obtain ⟨name, first⟩ := exists_firstUnknown?_iff.mpr mentioned
      exact ⟨_, name, first, rfl⟩
  · simp only [resolve_eq_error_iff, firstUnknown?_eq_some_iff]
    constructor
    · rintro ⟨name, ⟨before, after, split, known, unknown⟩, rfl⟩
      exact ⟨before, name, after, split, known, unknown, rfl⟩
    · rintro ⟨before, name, after, split, known, unknown, rfl⟩
      exact ⟨name, ⟨before, after, split, known, unknown⟩, rfl⟩
  · obtain ⟨known, rfl⟩ := resolve_eq_ok_iff.mp resolved
    refine ⟨fun code => ?_, settings.config_isDenied_iff, fun code promoted => ?_,
      fun other strict enable disable deny => ?_⟩
    · rw [config_disabled_iff, WarningCode.isOptIn_iff]
      rfl
    · have kept : ¬ settings.config.disabled code = true := by
        rw [config_disabled_iff]
        exact fun dropped => dropped.1 promoted
      rw [WarningConfig.isEnabled, Bool.eq_false_iff.mpr kept, Bool.not_false]
    · exact resolve_eq_ok_iff.mpr ⟨firstUnknown?_names_congr enable disable deny known,
        (config_congr strict enable disable deny).symm⟩

end Settings

namespace Sample

/-- Settings that drop every warning, drop one of them twice, report two and promote one. -/
def overlapping : Settings where
  disable := WarningCode.all.map WarningCode.configName ++ ["duplicate-annotation"]
  enable := ["duplicate-annotation", "required-after-default"]
  deny := ["duplicate-annotation"]

theorem resolve_overlapping : overlapping.resolve = .ok overlapping.config :=
  Settings.resolve_eq_ok_iff.mpr ⟨by decide, rfl⟩

/-- What is promoted is reported, although it is dropped twice, and what is reported is dropped. -/
theorem overlapping_decided :
    overlapping.config.isDenied .annotatedTwice = true ∧
      overlapping.config.isEnabled .annotatedTwice = true ∧
      overlapping.config.disabled .requiredAfterDefault = true ∧
      ({ overlapping with disable := overlapping.disable.reverse } : Settings).resolve =
        .ok overlapping.config := by
  obtain ⟨-, -, known⟩ := overlapping.resolve_decided
  obtain ⟨dropped, promoted, kept, asSets⟩ := known _ resolve_overlapping
  exact ⟨(promoted _).mpr (by decide), kept _ (by decide), (dropped _).mpr (by decide),
    asSets _ rfl (fun _ => .rfl) (fun _ => List.mem_reverse) (fun _ => .rfl)⟩

end Sample

end DataclassSynthesis
