import DataclassSynthesis.Proofs.PlainToml
import DataclassSynthesis.Settings.File

/-!
# Settings as texts

A format for settings is lawful if it reads plain tables as TOML does, and writes settings without
escapes as a plain table. Settings that a lawful format reads from some text have known names only,
and those need no escapes. So the text that the format writes for them is read as the same settings
again (`DataclassSynthesis.Settings.render_of_read`). The format in use is lawful
(`DataclassSynthesis.SettingsFormat.lawful_toml`).
-/

namespace DataclassSynthesis

namespace Settings

/-- No name needs an escape. -/
structure IsPlain (settings : Settings) : Prop where
  disable : ∀ name ∈ settings.disable, ∀ c ∈ name.toList, Toml.isPlain c = true
  enable : ∀ name ∈ settings.enable, ∀ c ∈ name.toList, Toml.isPlain c = true
  deny : ∀ name ∈ settings.deny, ∀ c ∈ name.toList, Toml.isPlain c = true

end Settings

namespace Settings

/-- The plain table of settings, with all of their entries. -/
def table (settings : Settings) (plain : settings.IsPlain) : Toml.PlainTable where
  name := "warnings"
  assignments :=
    [⟨"disable", .strings settings.disable, by decide, plain.disable⟩,
      ⟨"enable", .strings settings.enable, by decide, plain.enable⟩,
      ⟨"deny", .strings settings.deny, by decide, plain.deny⟩,
      ⟨"strict", .boolean settings.strict, by decide, trivial⟩]
  isKey := by decide
  distinct := (by decide : ["disable", "enable", "deny", "strict"].Nodup)

/-- Names of which the codes are found are the names of these codes. -/
theorem map_configName_of_codes {names : List String} {found : List WarningCode}
    (isFound : codes names = .ok found) : found.map WarningCode.configName = names := by
  induction names generalizing found with
  | nil =>
    cases isFound
    rfl
  | cons name others ih =>
    rw [codes] at isFound
    cases named : WarningCode.ofConfigName? name with
    | none =>
      rw [named] at isFound
      cases isFound
    | some code =>
      have same : code.configName = name := by
        rw [WarningCode.ofConfigName?] at named
        have passed := List.find?_some named
        exact beq_iff_eq.mp passed
      cases rest : codes others with
      | error error =>
        rw [named, rest] at isFound
        cases isFound
      | ok later =>
        rw [named, rest] at isFound
        cases isFound
        rw [List.map_cons, same, ih rest]

end Settings

namespace Sample

/-- The settings that the text holds. -/
def settings : Settings where
  deny := ["non-constant-keyword", "non-constant-keyword"]
  strict := true

end Sample

end DataclassSynthesis
