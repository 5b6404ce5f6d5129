import DataclassSynthesis.Warning

/-!
# Warning settings

Settings name the warnings to drop, to report and to promote to errors. They are applied to the
standard configuration, or to the strictest one, so that promoting a warning also reports it and
dropping it wins over asking for it.
-/

namespace DataclassSynthesis

/-- Why a settings file cannot be opened or read as text. -/
inductive FileError where
  | notFound
  | notUtf8
deriving DecidableEq

/-- Why settings cannot be used. -/
inductive SettingsError where
  /-- The file is missing or is no text. -/
  | file (error : FileError)
  /-- The text is no document, or the document does not hold settings. -/
  | malformed
  | unknownWarning (name : String)
deriving DecidableEq

/-- The wording of a file error. -/
def FileError.message : FileError → String
  | notFound => "No such file or directory (os error 2)"
  | notUtf8 => "stream did not contain valid UTF-8"

/-- The wording of a settings error. -/
def SettingsError.message : SettingsError → String
  | file error => "Failed to read config file: " ++ error.message
  | malformed => "Failed to parse config"
  | unknownWarning name => s!"Unknown warning '{name}'"

/-- What the settings say about warnings, by configuration name. -/
structure Settings where
  disable : List String := []
  enable : List String := []
  deny : List String := []
  strict : Bool := false
deriving DecidableEq

namespace Settings

/-- The codes of configuration names, or the first name that has none. -/
def codes : List String → Except SettingsError (List WarningCode)
  | [] => .ok []
  | name :: rest =>
    match WarningCode.ofConfigName? name with
    | none => .error (.unknownWarning name)
    | some code => do
      let others ← codes rest
      pure (code :: others)

/-- Promote a code to an error, reporting it even if it was to be dropped. -/
def denyCode (config : WarningConfig) (code : WarningCode) : WarningConfig :=
  (config.enable code).promote code

/-- The configuration that the settings describe. -/
def resolve (settings : Settings) : Except SettingsError WarningConfig := do
  let enabled ← codes settings.enable
  let disabled ← codes settings.disable
  let denied ← codes settings.deny
  let base := if settings.strict then WarningConfig.strictest else WarningConfig.standard
  let reported := enabled.foldl WarningConfig.enable base
  let dropped := disabled.foldl WarningConfig.disable reported
  pure (denied.foldl denyCode dropped)

end Settings

end DataclassSynthesis
