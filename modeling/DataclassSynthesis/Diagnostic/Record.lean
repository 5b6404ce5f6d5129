import DataclassSynthesis.Diagnostic.Basic
import DataclassSynthesis.Json.Writer
import DataclassSynthesis.Text.Lines

/-!
# Diagnostics as JSON

The record of a diagnostic gives its labels by file name, line and column. A label in a file that
is not known is left out.
-/

namespace DataclassSynthesis

/-- The bytes of a source file. -/
def SourceFile.bytes (file : SourceFile) : Text.Bytes := file.source.toUTF8.toList

/-- The record of a label. -/
def Label.toJson? (files : List SourceFile) (label : Label) : Option (Json String) := do
  let file ← files[label.file]?
  let start := Text.position file.bytes label.start
  let stop := Text.position file.bytes label.stop
  pure (.object [("file", .string file.name),
    ("start_line", .natural start.line), ("start_column", .natural start.column),
    ("end_line", .natural stop.line), ("end_column", .natural stop.column),
    ("message", .string label.message), ("style", .string label.style.name)])

/-- The record of a diagnostic. -/
def Diagnostic.toJson (files : List SourceFile) (diagnostic : Diagnostic) : Json String :=
  .object [("code", match diagnostic.code with
      | some code => .string code
      | none => .null),
    ("severity", .string diagnostic.severity.name),
    ("message", .string diagnostic.message),
    ("labels", .array (diagnostic.labels.filterMap (Label.toJson? files))),
    ("notes", .array (diagnostic.notes.map .string))]

/-- The indented JSON text of a diagnostic. -/
def Diagnostic.jsonText (files : List SourceFile) (diagnostic : Diagnostic) : String :=
  (diagnostic.toJson files).indented 0

end DataclassSynthesis
