import DataclassSynthesis.Toml.Scalar
import DataclassSynthesis.Toml.Text

/-!
# TOML expressions

A document is a list of expressions, one per line: pairs of a key and a value, headers of tables,
and headers of repeated tables. Values and keys are nested fewer than eighty deep.
-/

namespace DataclassSynthesis.Toml

/-- The depth that nested values and the parts of a key do not reach. -/
def depthLimit : Nat := 80

/-- One line of a document. -/
inductive Expression where
  | pair (key : Entries.Key) (value : Value)
  | header (key : Entries.Key)
  | repeatedHeader (key : Entries.Key)

/-- Whether a character may stand in a key without quotes. -/
def isBare (c : Char) : Bool := c.isAlphanum || c == '-' || c == '_'

/-- Read one part of a key. -/
def keyPart : Reader String := do
  match ← Reader.peek with
  | some '\x22' => do
    Reader.char '\x22'
    basicRest
  | some '\x27' => do
    Reader.char '\x27'
    literalRest
  | _ => do
    let chars ← Reader.takeWhile1 isBare
    pure (String.ofList chars)

/-- Read a dot and one more part of a key, with blanks around the part. -/
def dottedPart : Reader (Option String) := do
  if ← Reader.startsWith ['.'] then
    blanks
    let part ← keyPart
    blanks
    pure (some part)
  else pure none

/-- Read a key of one or more parts, with blanks around each. -/
def key : Reader Entries.Key := do
  blanks
  let first ← keyPart
  blanks
  let rest ← Reader.many dottedPart
  let parts := first :: rest
  guard (parts.length < depthLimit)
  pure ⟨parts.dropLast, parts.getLastD first⟩

/-- Whether a character may stand in a literal without quotes. -/
def isLiteralChar (c : Char) : Bool :=
  c.isAlphanum || c == '+' || c == '-' || c == '_' || c == '.' || c == ':'

/-- Whether a blank and a time of day come next. -/
def timeFollows : List Char → Bool
  | ' ' :: tens :: ones :: ':' :: _ => tens.isDigit && ones.isDigit
  | _ => false

/-- Read a literal without quotes. One blank may separate a date from a time. -/
def literal : Reader (List Char) := do
  let chars ← Reader.takeWhile1 isLiteralChar
  let rest ← get
  if isDate chars && timeFollows rest then
    Reader.char ' '
    let time ← Reader.takeWhile isLiteralChar
    pure (chars ++ ' ' :: time)
  else pure chars

/-- Read an item of an array with the comma after it, which the last item need not have. -/
def arrayItem (item : Reader Value) : Reader (Option Value) := do
  if (← Reader.peek) == some ']' then pure none
  else
    let value ← item
    trivia
    if ← Reader.startsWith [','] then trivia
    else guard ((← Reader.peek) == some ']')
    pure (some value)

/-- Read the rest of an array after its opening bracket. -/
def arrayRest (item : Reader Value) : Reader (List Value) := do
  trivia
  let items ← Reader.many (arrayItem item)
  Reader.char ']'
  pure items

/-- Read a key and a value with an equals sign between them. -/
def pair (value : Reader Value) : Reader (Entries.Key × Value) := do
  let key ← key
  Reader.char '='
  blanks
  let value ← value
  pure (key, value)

/-- Read the rest of an inline table after its opening brace. -/
def inlineRest (value : Reader Value) : Reader Entries := do
  blanks
  if ← Reader.startsWith ['\x7d'] then pure []
  else
    let first ← pair value
    blanks
    let rest ← Reader.many do
      if ← Reader.startsWith [','] then
        let next ← pair value
        blanks
        pure (some next)
      else pure none
    Reader.char '\x7d'
    Entries.ofPairs? (first :: rest)

/-- Read a value that contains fewer than the given number of nested values. -/
def valueWithin : Nat → Reader Value
  | 0 => failure
  | depth + 1 => do
    match ← Reader.peek with
    | some '\x22' | some '\x27' => do
      let text ← quoted
      pure (.string text)
    | some '[' => do
      guard (0 < depth)
      Reader.char '['
      let items ← arrayRest (valueWithin depth)
      pure (.array items)
    | some '\x7b' => do
      guard (0 < depth)
      Reader.char '\x7b'
      let entries ← inlineRest (valueWithin depth)
      pure (.table .inline entries)
    | _ => do
      let chars ← literal
      scalar? chars

/-- Read a value. -/
def value : Reader Value := valueWithin depthLimit

/-- Read a header; two brackets mark a repeated one. -/
def headerLine : Reader Expression := do
  if ← Reader.startsWith ['[', '['] then
    let key ← key
    Reader.exactly [']', ']']
    pure (.repeatedHeader key)
  else
    Reader.char '['
    let key ← key
    Reader.char ']'
    pure (.header key)

/-- Read one line; an empty line holds no expression. -/
def line : Reader (Option Expression) := do
  blanks
  match ← Reader.peek with
  | none | some '#' | some '\n' | some '\r' => pure none
  | some '[' => do
    let header ← headerLine
    pure (some header)
  | _ => do
    let (key, value) ← pair value
    pure (some (.pair key value))

/-- Read one line with its end, unless the text is over. -/
def completeLine : Reader (Option (Option Expression)) := do
  if (← Reader.peek).isNone then pure none
  else
    let expression ← line
    lineEnd
    pure (some expression)

/-- Read all lines. -/
def expressions : Reader (List Expression) := do
  let lines ← Reader.many completeLine
  pure (lines.filterMap id)

end DataclassSynthesis.Toml
