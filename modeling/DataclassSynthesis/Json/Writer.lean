import DataclassSynthesis.Json.Basic

/-!
# Writing JSON

The compact form has no blanks. The indented form puts each item and each member on a line of its
own, indented by two blanks per level, and keeps an empty array or object on one line.
-/

namespace DataclassSynthesis

namespace Json

/-- A hexadecimal digit. -/
def hexDigit (value : Nat) : Char := Nat.digitChar value

/-- A character within a string. Quotes, backslashes and control characters are escaped. -/
def escapeChar (c : Char) : List Char :=
  if c = '\x22' then ['\\', '\x22']
  else if c = '\\' then ['\\', '\\']
  else if c = '\x08' then ['\\', 'b']
  else if c = '\x0c' then ['\\', 'f']
  else if c = '\n' then ['\\', 'n']
  else if c = '\r' then ['\\', 'r']
  else if c = '\t' then ['\\', 't']
  else if c.toNat < 0x20 then
    ['\\', 'u', '0', '0', hexDigit (c.toNat / 16), hexDigit (c.toNat % 16)]
  else [c]

/-- A string literal. -/
def quote (text : String) : String :=
  "\"" ++ String.ofList (text.toList.flatMap escapeChar) ++ "\""

mutual

/-- The compact form of a value. -/
def compact : Json String → String
  | .null => "null"
  | .bool value => if value then "true" else "false"
  | .number literal => literal
  | .string text => quote text
  | .array items => "[" ++ ",".intercalate (compactItems items) ++ "]"
  | .object members => "\x7b" ++ ",".intercalate (compactMembers members) ++ "\x7d"

/-- The compact forms of the items of an array. -/
def compactItems : List (Json String) → List String
  | [] => []
  | item :: rest => compact item :: compactItems rest

/-- The compact forms of the members of an object. -/
def compactMembers : List (String × Json String) → List String
  | [] => []
  | (name, value) :: rest => (quote name ++ ":" ++ compact value) :: compactMembers rest

end

/-- The start of a line at a level of indentation. -/
def lineStart (level : Nat) : String := "\n" ++ String.ofList (List.replicate (2 * level) ' ')

/-- Enclose entries, each on a line of its own. -/
def block (level : Nat) (opening closing : String) (entries : List String) : String :=
  if entries.isEmpty then opening ++ closing
  else
    opening ++ lineStart (level + 1) ++ ("," ++ lineStart (level + 1)).intercalate entries ++
      lineStart level ++ closing

mutual

/-- The indented form of a value at a level of indentation. -/
def indented (level : Nat) : Json String → String
  | .null => "null"
  | .bool value => if value then "true" else "false"
  | .number literal => literal
  | .string text => quote text
  | .array items => block level "[" "]" (indentedItems (level + 1) items)
  | .object members => block level "\x7b" "\x7d" (indentedMembers (level + 1) members)

/-- The indented forms of the items of an array. -/
def indentedItems (level : Nat) : List (Json String) → List String
  | [] => []
  | item :: rest => indented level item :: indentedItems level rest

/-- The indented forms of the members of an object. -/
def indentedMembers (level : Nat) : List (String × Json String) → List String
  | [] => []
  | (name, value) :: rest =>
    (quote name ++ ": " ++ indented level value) :: indentedMembers level rest

end

end Json

end DataclassSynthesis
