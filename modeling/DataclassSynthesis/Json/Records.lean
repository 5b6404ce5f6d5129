import DataclassSynthesis.Dataclass.Attribute
import DataclassSynthesis.Json.Reading
import DataclassSynthesis.Json.Writer
import DataclassSynthesis.Span

/-!
# Spans and attribute summaries as JSON

Both are records. Reading accepts an object with at least the fields of the record, or an array of
exactly these fields; numbers must be whole and in range.
-/

namespace DataclassSynthesis

/-- The record of a span. -/
def Span.toJson (span : Span) : Json String :=
  .object [("start", .natural span.start.toNat), ("end", .natural span.stop.toNat),
    ("line", .natural span.line.toNat), ("column", .natural span.column.toNat)]

/-- A number below a bound. -/
def Json.naturalBelow? (bound : Nat) (value : Json (Option String)) : Option Nat := do
  let number ← value.natural?
  guard (number < bound)
  pure number

/-- Read the record of a span. -/
def Span.ofJson? (text : String) : Option Span := do
  match ← Json.recordFields? ["start", "end", "line", "column"] (← Json.read? text) with
  | [some start, some stop, some line, some column] =>
    let start ← start.naturalBelow? UInt64.size
    let stop ← stop.naturalBelow? UInt64.size
    let line ← line.naturalBelow? UInt32.size
    let column ← column.naturalBelow? UInt32.size
    pure ⟨.ofNat start, .ofNat stop, .ofNat line, .ofNat column⟩
  | _ => none

/-- The record of an attribute summary; a missing default is left out. -/
def AttributeSummary.toJson (summary : AttributeSummary) : Json String :=
  .object ([("name", .string summary.name), ("type", .string summary.type),
    ("init", .bool summary.init)] ++
    (summary.default.map fun text => ("default", Json.string text)).toList)

/-- A text that may be missing or null. -/
def Json.optionalString? : Option (Json (Option String)) → Option (Option String)
  | none | some .null => some none
  | some value => value.string?.map some

/-- Read the record of an attribute summary. -/
def AttributeSummary.ofJson? (text : String) : Option AttributeSummary := do
  match ← Json.recordFields? ["name", "type", "init", "default"] (← Json.read? text) with
  | [some name, some type, some init, default] =>
    let name ← name.string?
    let type ← type.string?
    let init ← init.bool?
    let default ← Json.optionalString? default
    pure ⟨name, type, init, default⟩
  | _ => none

end DataclassSynthesis
