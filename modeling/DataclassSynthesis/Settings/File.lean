import DataclassSynthesis.Settings.Basic
import DataclassSynthesis.Text.Utf8
import DataclassSynthesis.Toml.Document

/-!
# Settings files

How settings are stored as texts is up to a format. Whatever the format, settings are read only if
they name known warnings. The format in use is TOML: settings are the table `warnings` of a
document. Entries that are not known are ignored and missing ones are empty. In place of a table
there may be an array that lists the settings by position.
-/

namespace DataclassSynthesis

/-- How settings are stored: what a text holds, and the text that settings are written as. -/
structure SettingsFormat where
  read? : String → Option Settings
  write : Settings → String

namespace Settings

/-- Read settings from a text of a format. All names of warnings must be known. -/
def readIn (format : SettingsFormat) (text : String) : Except SettingsError Settings := do
  match format.read? text with
  | none => throw .malformed
  | some settings =>
    let _ ← settings.resolve
    pure settings

/-- The texts of an array of texts. -/
def texts? : Toml.Value → Option (List String)
  | .array items => items.mapM fun item =>
    match item with
    | .string text => some text
    | _ => none
  | _ => none

/-- A list of names, which is empty when it is missing. -/
def names? : Option Toml.Value → Option (List String)
  | none => some []
  | some value => texts? value

/-- A switch, which is off when it is missing. -/
def switch? : Option Toml.Value → Option Bool
  | none => some false
  | some (.boolean value) => some value
  | some _ => none

/-- The settings with the given entries. -/
def ofEntries? (disable enable deny strict : Option Toml.Value) : Option Settings := do
  let disable ← names? disable
  let enable ← names? enable
  let deny ← names? deny
  let strict ← switch? strict
  pure ⟨disable, enable, deny, strict⟩

/-- The settings that a value describes: a table by name, an array by position. A date or a time
is a record without known entries. -/
def ofValue? : Toml.Value → Option Settings
  | .table _ entries =>
    let entry := Toml.Entries.valueOf? entries
    ofEntries? (entry "disable") (entry "enable") (entry "deny") (entry "strict")
  | .array items => ofEntries? items[0]? items[1]? items[2]? items[3]?
  | .moment _ => some {}
  | _ => none

/-- The settings of a document. -/
def ofDocument? (document : Toml.Entries) : Option Settings :=
  match document.valueOf? "warnings" with
  | none => some {}
  | some value => ofValue? value

/-- An array of names; names of warnings need no escapes. -/
def arrayText (names : List String) : String :=
  "[" ++ ", ".intercalate (names.map fun name => "\"" ++ name ++ "\"") ++ "]"

/-- The text of the settings as a document. -/
def render (settings : Settings) : String :=
  "[warnings]\ndisable = " ++ arrayText settings.disable ++
    "\nenable = " ++ arrayText settings.enable ++
    "\ndeny = " ++ arrayText settings.deny ++
    "\nstrict = " ++ (if settings.strict then "true" else "false") ++ "\n"

end Settings

/-- Settings in TOML documents. -/
def SettingsFormat.toml : SettingsFormat where
  read? text := (Toml.read? text).bind Settings.ofDocument?
  write := Settings.render

namespace Settings

/-- Read settings from a text. -/
def read (text : String) : Except SettingsError Settings := readIn .toml text

/-- Read settings from the contents of a file, if there is one. -/
def ofFile : Option (List UInt8) → Except SettingsError Settings
  | none => .error (.file .notFound)
  | some bytes =>
    match Text.decode? bytes with
    | none => .error (.file .notUtf8)
    | some text => read text

end Settings

end DataclassSynthesis
