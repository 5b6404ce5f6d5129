import DataclassSynthesis.Text.Digits
import DataclassSynthesis.Text.Reader

/-!
# TOML texts

Blanks, comments and line ends, and the four kinds of quoted strings. Control characters other
than the tab stand nowhere, and a carriage return stands only before a newline. In strings of
several lines every line end counts as a newline.
-/

namespace DataclassSynthesis.Toml

/-- Whether a character is a blank within a line. -/
def isBlank (c : Char) : Bool := c == ' ' || c == '\t'

/-- Whether a character may stand in a comment or a string. -/
def isPrintable (c : Char) : Bool := c == '\t' || (decide (0x20 ≤ c.toNat) && c != '\x7f')

/-- Skip blanks. -/
def blanks : Reader Unit := do
  let _ ← Reader.takeWhile isBlank

/-- Skip a line end, if there is one, and tell whether there was. -/
def lineBreak : Reader Bool := do
  if ← Reader.startsWith ['\n'] then pure true
  else Reader.startsWith ['\r', '\n']

/-- Skip a comment, if there is one, and tell whether there was. -/
def comment : Reader Bool := do
  if ← Reader.startsWith ['#'] then
    let _ ← Reader.takeWhile isPrintable
    pure true
  else pure false

/-- Skip the rest of a line that holds nothing more than a comment. -/
def lineEnd : Reader Unit := do
  blanks
  let _ ← comment
  unless ← lineBreak do Reader.atEnd

/-- Skip blanks, a comment and a line end, in this order, unless none of them comes next. -/
def triviaPart : Reader (Option Unit) := do
  let blank ← Reader.takeWhile isBlank
  let commented ← comment
  let broken ← lineBreak
  pure (if !blank.isEmpty || commented || broken then some () else none)

/-- Skip blanks, comments and line ends. -/
def trivia : Reader Unit := do
  let _ ← Reader.many triviaPart

/-- Read a number of hexadecimal digits as a character. -/
def codePoint (count : Nat) : Reader Char := fun input => do
  let digits := input.take count
  guard (digits.length == count)
  let c ← Text.scalar? (← Text.number? 16 digits)
  pure (c, input.drop count)

/-- Read what follows a backslash. -/
def escape : Reader Char := do
  match ← Reader.satisfy fun _ => true with
  | 'b' => pure '\x08'
  | 't' => pure '\t'
  | 'n' => pure '\n'
  | 'f' => pure '\x0c'
  | 'r' => pure '\r'
  | '\x22' => pure '\x22'
  | '\\' => pure '\\'
  | 'u' => codePoint 4
  | 'U' => codePoint 8
  | _ => failure

/-- The next character of a string on one line, up to its closing quote. -/
def basicChar : Reader (Option Char) := do
  match ← Reader.peek with
  | some '\x22' => pure none
  | some '\\' => do
    Reader.char '\\'
    let c ← escape
    pure (some c)
  | _ => do
    let c ← Reader.satisfy isPrintable
    pure (some c)

/-- The rest of a string on one line with escapes. -/
def basicRest : Reader String := do
  let chars ← Reader.many basicChar
  Reader.char '\x22'
  pure (String.ofList chars)

/-- The rest of a string on one line without escapes. -/
def literalRest : Reader String := do
  let chars ← Reader.takeWhile fun c => isPrintable c && c != '\x27'
  Reader.char '\x27'
  pure (String.ofList chars)

/-- Three of a quote. -/
def tripled (quote : Char) : List Char := [quote, quote, quote]

/-- What follows a backslash in a string of several lines: an escape, or the end of the line with
all blanks and line ends after it, which count for nothing. -/
def multilineEscape : Reader (List Char) := do
  let blank ← Reader.takeWhile isBlank
  if ← lineBreak then
    let _ ← Reader.many (α := Unit) do
      let blank ← Reader.takeWhile isBlank
      let broken ← lineBreak
      pure (if !blank.isEmpty || broken then some () else none)
    pure []
  else
    guard blank.isEmpty
    let c ← escape
    pure [c]

/-- The next part of a string of several lines, up to three closing quotes. Escapes are read when
`escapes` holds. -/
def multilinePart (quote : Char) (escapes : Bool) : Reader (Option (List Char)) := fun input => do
  if (tripled quote).isPrefixOf input then some (none, input)
  else (do
    if ← lineBreak then pure (some ['\n'])
    else
      let c ← Reader.satisfy isPrintable
      if escapes && c == '\\' then
        let chars ← multilineEscape
        pure (some chars)
      else pure (some [c]) : Reader (Option (List Char))) input

/-- The rest of a string of several lines. A line end right after the opening quotes is dropped,
and up to two quotes before the closing ones belong to the string. -/
def multilineRest (quote : Char) (escapes : Bool) : Reader String := do
  let _ ← lineBreak
  let parts ← Reader.many (multilinePart quote escapes)
  Reader.exactly (tripled quote)
  let first ← Reader.startsWith [quote]
  let second ← if first then Reader.startsWith [quote] else pure false
  let extra := List.replicate (first.toNat + second.toNat) quote
  pure (String.ofList (parts.flatten ++ extra))

/-- Read a string of any kind. -/
def quoted : Reader String := do
  if ← Reader.startsWith (tripled '\x22') then multilineRest '\x22' true
  else if ← Reader.startsWith (tripled '\x27') then multilineRest '\x27' false
  else if ← Reader.startsWith ['\x22'] then basicRest
  else
    Reader.char '\x27'
    literalRest

end DataclassSynthesis.Toml
