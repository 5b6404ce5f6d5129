import DataclassSynthesis.Diagnostic.Record
import DataclassSynthesis.Text.Utf8

/-!
# Diagnostics as text

The text of a diagnostic shows the labelled lines of each source file with carets below them. Every
label is taken to lie within one line, and columns are counted in bytes.
-/

namespace DataclassSynthesis

/-- A diagnostic refers to a file that is not known. -/
inductive RenderError where
  | missingFile
deriving DecidableEq

/-- The wording of a render error. -/
def RenderError.message : RenderError → String
  | missingFile => "file missing"

namespace Snippet

/-- A labelled place: the line that holds it and the columns that it covers. -/
structure Mark where
  label : Label
  line : Text.Line
  first : Nat
  last : Nat

/-- Place a label in the lines of its file. An empty range covers one column. -/
def Mark.of (source : Text.Bytes) (label : Label) : Mark :=
  let line := Text.lineAt source label.start
  let first := label.start - line.start
  ⟨label, line, first, max (label.stop - line.start) (first + 1)⟩

/-- The labels of one source file. -/
structure FileMarks where
  file : SourceFile
  marks : List Mark

/-- A number of blanks. -/
def blanks (count : Nat) : String := String.ofList (List.replicate count ' ')

/-- Whether a byte is left out at the end of a line: a newline, a carriage return or a null. -/
def isLineEnd (byte : UInt8) : Bool := byte == Text.newline || byte == 13 || byte == 0

/-- The text of a line without the line ending. -/
def lineText (bytes : Text.Bytes) : String :=
  Text.decodeLenient (bytes.reverse.dropWhile isLineEnd).reverse

/-- The place that is named for a file: the first of its primary labels, or of all its labels when
none is primary, by offset. -/
def chosenLabel (labels : List Label) : Option Label :=
  let primary := labels.filter fun label => label.style == .primary
  let candidates := if primary.isEmpty then labels else primary
  candidates.foldl (fun best label =>
    match best with
    | none => some label
    | some other => if label.start < other.start then some label else best) none

/-- The layout of the text: the number of columns for line numbers. -/
structure Layout where
  width : Nat

namespace Layout

/-- The blanks that stand in place of a line number. -/
def gutter (layout : Layout) : String := blanks (layout.width + 1)

/-- A source line with its number. -/
def sourceLine (layout : Layout) (number : Nat) (bytes : Text.Bytes) : String :=
  let shown := toString (number + 1)
  blanks (layout.width - shown.length) ++ shown ++ " │ " ++ lineText bytes ++ "\n"

/-- The character below one column of a labelled line. -/
def caret (mark : Mark) (column : Nat) : List Char :=
  if mark.first ≤ column ∧ column < mark.last then
    [if mark.label.style == .primary then '^' else '-']
  else if column < mark.last then [' ']
  else []

/-- The carets and the message of a label, below its line. -/
def caretLine (layout : Layout) (mark : Mark) : String :=
  let columns := List.range ((lineText mark.line.bytes).utf8ByteSize + 1)
  let message := if mark.label.message.isEmpty then "" else " " ++ mark.label.message
  layout.gutter ++ "│ " ++ String.ofList (columns.flatMap (caret mark)) ++ message ++ "\n"

/-- What stands between two labelled lines. -/
def between (layout : Layout) (lines : List Text.Bytes) (previous next : Nat) : String :=
  if next ≤ previous + 1 then ""
  else if next = previous + 2 then layout.sourceLine (previous + 1) (lines.getD (previous + 1) [])
  else layout.gutter ++ "·\n"

/-- The labelled lines of a file in order. -/
def markedLines (layout : Layout) (lines : List Text.Bytes) : Option Nat → List Mark → String
  | _, [] => ""
  | previous, mark :: rest =>
    let gap := previous.elim "" fun number => layout.between lines number mark.line.number
    let repeated := previous == some mark.line.number
    let shown := if repeated then "" else layout.sourceLine mark.line.number mark.line.bytes
    gap ++ shown ++ layout.caretLine mark ++
      layout.markedLines lines (some mark.line.number) rest

/-- Insert a mark before the marks of later lines. -/
def insertMark (mark : Mark) : List Mark → List Mark
  | [] => [mark]
  | head :: tail =>
    if mark.line.number < head.line.number then mark :: head :: tail
    else head :: insertMark mark tail

/-- The labelled lines of a file under the name of the file. -/
def fileText (layout : Layout) (entry : FileMarks) : String :=
  let source := entry.file.bytes
  let place := match chosenLabel (entry.marks.map Mark.label) with
    | some label => Text.position source label.start
    | none => ⟨1, 1⟩
  let header := entry.file.name ++ s!":{place.line}:{place.column}"
  let ordered := entry.marks.foldl (fun marks mark => insertMark mark marks) []
  layout.gutter ++ "┌─ " ++ header ++ "\n" ++ layout.gutter ++ "│\n" ++
    layout.markedLines (Text.lines source) none ordered

/-- The labelled lines of all files, each followed by a rule when something comes after it. -/
def filesText (layout : Layout) (followed : Bool) : List FileMarks → String
  | [] => ""
  | entry :: rest =>
    let rule := if followed || !rest.isEmpty then layout.gutter ++ "│\n" else ""
    layout.fileText entry ++ rule ++ layout.filesText followed rest

/-- A note; its further lines are indented. -/
def noteText (layout : Layout) : List String → String
  | [] => ""
  | first :: rest =>
    layout.gutter ++ "= " ++ first ++ "\n" ++
      String.join (rest.map fun line => layout.gutter ++ "  " ++ line ++ "\n")

end Layout

/-- The lines of a text. A line ends at a newline, with a carriage return before it if there is
one; the text after the last newline is a line when it is not empty. -/
def textLines : List Char → List Char → List String
  | [], [] => []
  | current, [] => [String.ofList current.reverse]
  | current, '\n' :: rest =>
    let content := match current with
      | '\r' :: before => before
      | other => other
    String.ofList content.reverse :: textLines [] rest
  | current, c :: rest => textLines (c :: current) rest

/-- The files of the labels, in the order of their first labels. -/
def fileOrder (labels : List Label) : List Nat := (labels.map Label.file).eraseDups

end Snippet

namespace Diagnostic

open Snippet

/-- The labels of a diagnostic by file. Every file must be known. -/
def fileMarks (files : List SourceFile) (diagnostic : Diagnostic) :
    Except RenderError (List FileMarks) :=
  (fileOrder diagnostic.labels).mapM fun id =>
    match files[id]? with
    | none => .error .missingFile
    | some file =>
      .ok ⟨file, (diagnostic.labels.filter fun label => label.file == id).map
        (Mark.of file.bytes)⟩

/-- The text of a diagnostic. -/
def text (files : List SourceFile) (diagnostic : Diagnostic) : Except RenderError String := do
  let entries ← diagnostic.fileMarks files
  let numbers := entries.flatMap fun entry => entry.marks.map fun mark => mark.line.number + 1
  let layout : Layout :=
    ⟨if numbers.isEmpty then 0 else (toString (numbers.foldl max 0)).length⟩
  let code := match diagnostic.code with
    | some code => if code.isEmpty then "" else "[" ++ code ++ "]"
    | none => ""
  pure (diagnostic.severity.name ++ code ++ ": " ++ diagnostic.message ++ "\n" ++
    layout.filesText (!diagnostic.notes.isEmpty) entries ++
    String.join (diagnostic.notes.map fun note => layout.noteText (textLines [] note.toList)) ++
    "\n")

end Diagnostic

end DataclassSynthesis
