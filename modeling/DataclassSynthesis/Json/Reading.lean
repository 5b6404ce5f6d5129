import DataclassSynthesis.Json.Basic
import DataclassSynthesis.Text.Reader

/-!
# Reading JSON

A text is read strictly: no comments, no trailing commas, no leading zeros, and no control
characters within strings. A string that holds an escaped surrogate without its partner is well
formed but has no text.
-/

namespace DataclassSynthesis

namespace Json

/-- One unit of a string literal: a character, or an escaped code of 16 bits. -/
inductive TextUnit where
  | char (c : Char)
  | code (code : Nat)

/-- The character that a letter stands for after a backslash. -/
def escaped? (letter : Char) : Option Char :=
  match letter with
  | '\x22' => some '\x22'
  | '\\' => some '\\'
  | '/' => some '/'
  | 'b' => some '\x08'
  | 'f' => some '\x0c'
  | 'n' => some '\n'
  | 'r' => some '\r'
  | 't' => some '\t'
  | _ => none

/-- The units of a string literal up to its closing quote, and what follows it. -/
def stringUnits : Reader (List TextUnit)
  | [] => none
  | '\x22' :: rest => some ([], rest)
  | '\\' :: 'u' :: a :: b :: c :: d :: rest => do
    let code ← Text.number? 16 [a, b, c, d]
    let (units, after) ← stringUnits rest
    pure (.code code :: units, after)
  | '\\' :: letter :: rest => do
    let c ← escaped? letter
    let (units, after) ← stringUnits rest
    pure (.char c :: units, after)
  | c :: rest =>
    if c.toNat < 0x20 || c == '\\' then none
    else do
      let (units, after) ← stringUnits rest
      pure (.char c :: units, after)

/-- Whether a code of 16 bits is the first half of a pair. -/
def isHighSurrogate (code : Nat) : Bool := decide (0xD800 ≤ code ∧ code ≤ 0xDBFF)

/-- Whether a code of 16 bits is the second half of a pair. -/
def isLowSurrogate (code : Nat) : Bool := decide (0xDC00 ≤ code ∧ code ≤ 0xDFFF)

/-- The characters of a string literal. Two codes may form one character; half a pair forms
none. -/
def unitChars : List TextUnit → Option (List Char)
  | [] => some []
  | .char c :: rest => (unitChars rest).map (c :: ·)
  | .code high :: rest =>
    if isHighSurrogate high then
      match rest with
      | .code low :: after =>
        if isLowSurrogate low then
          let code := 0x10000 + (high - 0xD800) * 0x400 + (low - 0xDC00)
          (unitChars after).map (Char.ofNat code :: ·)
        else none
      | _ => none
    else if isLowSurrogate high then none
    else (unitChars rest).map (Char.ofNat high :: ·)

/-- Read the rest of a string literal after its opening quote. -/
def stringRest : Reader (Option String) := do
  let units ← stringUnits
  pure ((unitChars units).map String.ofList)

/-- Skip blanks. -/
def blanks : Reader Unit := do
  let _ ← Reader.takeWhile fun c => c == ' ' || c == '\t' || c == '\n' || c == '\r'

/-- Read the digits of a number before its fraction: a single zero, or digits that start with
another one. -/
def wholeDigits : Reader (List Char) := do
  let digits ← Reader.takeWhile1 Char.isDigit
  guard (digits.length == 1 || digits.head? != some '0')
  pure digits

/-- Read a fraction, if there is one. -/
def fraction : Reader (List Char) := do
  if ← Reader.startsWith ['.'] then
    let digits ← Reader.takeWhile1 Char.isDigit
    pure ('.' :: digits)
  else pure []

/-- Read an exponent, if there is one. -/
def exponent : Reader (List Char) := do
  let marks ← Reader.peek
  if marks == some 'e' || marks == some 'E' then
    let mark ← Reader.satisfy fun _ => true
    let sign ← Reader.peek
    if sign == some '+' || sign == some '-' then
      let sign ← Reader.satisfy fun _ => true
      let digits ← Reader.takeWhile1 Char.isDigit
      pure (mark :: sign :: digits)
    else
      let digits ← Reader.takeWhile1 Char.isDigit
      pure (mark :: digits)
  else pure []

/-- Read a number literal. -/
def numberLiteral : Reader String := do
  let negative ← Reader.startsWith ['-']
  let whole ← wholeDigits
  let fractional ← fraction
  let scale ← exponent
  pure (String.ofList ((if negative then ['-'] else []) ++ whole ++ fractional ++ scale))

mutual

/-- Read a value, with at most the given number of nested steps. -/
def value : Nat → Reader (Json (Option String))
  | 0 => failure
  | steps + 1 => do
    blanks
    match ← Reader.peek with
    | some '\x22' => do
      Reader.char '\x22'
      let text ← stringRest
      pure (.string text)
    | some '[' => do
      Reader.char '['
      blanks
      if ← Reader.startsWith [']'] then pure (.array [])
      else
        let items ← items steps
        pure (.array items)
    | some '\x7b' => do
      Reader.char '\x7b'
      blanks
      if ← Reader.startsWith ['\x7d'] then pure (.object [])
      else
        let members ← members steps
        pure (.object members)
    | some 't' => do
      Reader.exactly ['t', 'r', 'u', 'e']
      pure (.bool true)
    | some 'f' => do
      Reader.exactly ['f', 'a', 'l', 's', 'e']
      pure (.bool false)
    | some 'n' => do
      Reader.exactly ['n', 'u', 'l', 'l']
      pure .null
    | _ => do
      let literal ← numberLiteral
      pure (.number literal)

/-- Read the items of an array and the bracket that closes it. -/
def items : Nat → Reader (List (Json (Option String)))
  | 0 => failure
  | steps + 1 => do
    let first ← value steps
    blanks
    if ← Reader.startsWith [','] then
      let rest ← items steps
      pure (first :: rest)
    else
      Reader.char ']'
      pure [first]

/-- Read the members of an object and the brace that closes it. -/
def members : Nat → Reader (List (Option String × Json (Option String)))
  | 0 => failure
  | steps + 1 => do
    blanks
    Reader.char '\x22'
    let name ← stringRest
    blanks
    Reader.char ':'
    let content ← value steps
    blanks
    if ← Reader.startsWith [','] then
      let rest ← members steps
      pure ((name, content) :: rest)
    else
      Reader.char '\x7d'
      pure [(name, content)]

end

/-- Read a text that consists of one value. Every nested step consumes a character, or follows one
that did. -/
def read? (text : String) : Option (Json (Option String)) :=
  Reader.read? (value (2 * text.length + 2) <* blanks) text.toList

/-- The member of an object with a given name, if there is one. The name must not occur twice. -/
def member? (name : String) (members : List (Option String × Json (Option String))) :
    Option (Option (Json (Option String))) :=
  match members.filter fun entry => entry.1 == some name with
  | [] => some none
  | [entry] => some (some entry.2)
  | _ => none

/-- The values of a record with the given fields. An object lists them by name, in any order and
among others; an array lists them all by position. Every name of the object must have a text. -/
def recordFields? (fields : List String) :
    Json (Option String) → Option (List (Option (Json (Option String))))
  | .object members => do
    guard (members.all fun entry => entry.1.isSome)
    fields.mapM fun name => member? name members
  | .array items => if items.length = fields.length then some (items.map some) else none
  | _ => none

end Json

end DataclassSynthesis
