import DataclassSynthesis.Text.Digits

/-!
# JSON values

A JSON value over a type of texts. Values that are written have ordinary strings as texts; values
that are read may hold escapes that no string can represent.
-/

namespace DataclassSynthesis

/-- A JSON value with texts of a given type. A number is given by its literal. -/
inductive Json (Content : Type) where
  | null
  | bool (value : Bool)
  | number (literal : String)
  | string (text : Content)
  | array (items : List (Json Content))
  | object (members : List (Content × Json Content))

namespace Json

/-- The natural number that a value is; a sign, a fraction or an exponent makes it none. -/
def natural? {Content : Type} : Json Content → Option Nat
  | number literal => Text.number? 10 literal.toList
  | _ => none

/-- The boolean that a value is. -/
def bool? {Content : Type} : Json Content → Option Bool
  | bool value => some value
  | _ => none

/-- The string that a value is, when it can be represented. -/
def string? : Json (Option String) → Option String
  | string text => text
  | _ => none

/-- A natural number. -/
def natural (value : Nat) : Json String := .number (toString value)

end Json

end DataclassSynthesis
