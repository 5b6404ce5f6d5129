import DataclassSynthesis.Error

/-!
# Diagnostics

A diagnostic presents an error or a warning: a message with a code, labelled places in source
files, and notes.
-/

namespace DataclassSynthesis

/-- How serious a diagnostic is. -/
inductive Severity where
  | error
  | warning
  | note
  | help
  | bug
deriving DecidableEq

/-- The written form of a severity. -/
def Severity.name : Severity → String
  | error => "error"
  | warning => "warning"
  | note => "note"
  | help => "help"
  | bug => "bug"

/-- Whether a label marks the main place or a related one. -/
inductive LabelStyle where
  | primary
  | secondary
deriving DecidableEq

/-- The written form of a label style. -/
def LabelStyle.name : LabelStyle → String
  | primary => "primary"
  | secondary => "secondary"

/-- A labelled byte range of a source file. -/
structure Label where
  style : LabelStyle
  file : Nat
  start : Nat
  stop : Nat
  message : String
deriving DecidableEq

/-- A source file; files are identified by their position in a list. -/
structure SourceFile where
  name : String
  source : String
deriving DecidableEq

/-- A message about source files. -/
structure Diagnostic where
  severity : Severity
  code : Option String
  message : String
  labels : List Label
  notes : List String
deriving DecidableEq

namespace Diagnostic

/-- A message without a code, labels and notes. -/
def plain (severity : Severity) (message : String) : Diagnostic :=
  ⟨severity, none, message, [], []⟩

/-- Set the code. -/
def withCode (diagnostic : Diagnostic) (code : String) : Diagnostic :=
  { diagnostic with code := some code }

/-- Add a label. -/
def withLabel (diagnostic : Diagnostic) (style : LabelStyle) (file : Nat) (span : Span)
    (message : String) : Diagnostic :=
  { diagnostic with
    labels := diagnostic.labels ++ [⟨style, file, span.start.toNat, span.stop.toNat, message⟩] }

/-- Add a note. -/
def withNote (diagnostic : Diagnostic) (text : String) : Diagnostic :=
  { diagnostic with notes := diagnostic.notes ++ [text] }

/-- Add a note that suggests what to do. -/
def withHelp (diagnostic : Diagnostic) (text : String) : Diagnostic :=
  diagnostic.withNote ("help: " ++ text)

/-- Present a recorded error about a file. -/
def ofCheckError (file : Nat) (error : CheckError) : Diagnostic :=
  let diagnostic := (plain .error error.message).withCode error.code
  match error with
  | .mismatch name declared assigned value span =>
    ((diagnostic.withLabel .primary file span s!"'{name}' is declared as '{declared}'").withNote
      s!"Annotation: {declared}").withNote s!"Assignment: {assigned} (value {value})"
  | .denied _ _ span => diagnostic.withLabel .primary file span "warning denied by configuration"

/-- Present a warning about a file. -/
def ofWarning (file : Nat) (warning : Warning) : Diagnostic :=
  let diagnostic := (plain .warning warning.message).withCode warning.code.display
  match warning with
  | .annotatedTwice _ first second =>
    (diagnostic.withLabel .primary file second "annotated again here").withLabel .secondary file
      first "first annotation here"
  | .requiredAfterDefault _ _ span =>
    (diagnostic.withLabel .primary file span "in this class").withHelp
      "give the parameter a default or move it before defaulted attributes"
  | .nonConstantKeyword _ _ span =>
    diagnostic.withLabel .primary file span "expected True or False"

/-- What the label of a decoration error says. -/
def decorateLabel? : DecorateError → Option String
  | .duplicateKeyword .. => some "conflicting keyword arguments"
  | .unknownKeywords .. => some "unexpected keyword argument"
  | .argumentCount .. => some "incorrect number of arguments"
  | .notCallable .. => some "cannot be called"
  | .nonConstantKeyword .. => some "expected a constant"
  | .unknownClass .. | .type .. => none

/-- Present a decoration error about a file. -/
def ofDecorateError (file : Nat) (error : DecorateError) : Diagnostic :=
  let diagnostic := (plain .error error.message).withCode error.code
  match decorateLabel? error, error.span? with
  | some text, some span => diagnostic.withLabel .primary file span text
  | _, _ => diagnostic

end Diagnostic

end DataclassSynthesis
