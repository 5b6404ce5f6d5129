import DataclassSynthesis.Decimal.Notation
import DataclassSynthesis.Text.Utf8
import DataclassSynthesis.Type.Display
import DataclassSynthesis.Value.Basic

/-!
# Descriptions of values

Short texts for messages: a literal as it is written in source, an instance as a call of its
type, a class by its name.
-/

namespace DataclassSynthesis

namespace Constant

/-- Put a backslash before each single quote. -/
def escapeQuotes (text : String) : String :=
  String.ofList (text.toList.flatMap fun c => if c = '\x27' then ['\\', c] else [c])

/-- The written form of a literal. -/
def display : Constant → String
  | int value => toString value
  | float bits => (Decimal.Float64.ofBits bits).display
  | str text => "'" ++ escapeQuotes text ++ "'"
  | bytes octets => "b'" ++ Text.decodeLenient octets ++ "'"
  | bool true => "True"
  | bool false => "False"
  | none => "None"

end Constant

/-- The description of a value. -/
def Value.describe (types : TypeContext) : Value → String
  | constant literal => literal.display
  | instanceOf type => if types.isAny type then "Any" else types.display type ++ "()"
  | classObject instances => types.display instances
  | function callee => "<function " ++ callee.name ++ ">"
  | field _ => "field(...)"
  | unknown => "Any"

/-- The description of the values of a variable. -/
def Variable.describe (types : TypeContext) (var : Variable) : String :=
  " | ".intercalate (var.values.map (Value.describe types))

/-- The written form of a parameter. -/
def Parameter.display (types : TypeContext) (parameter : Parameter) : String :=
  let declared := parameter.name ++ ": " ++ types.display parameter.type
  match parameter.default with
  | some value => declared ++ " = " ++ value.describe types
  | none => declared

/-- The written form of a signature. -/
def Signature.display (types : TypeContext) (signature : Signature) : String :=
  "(" ++ commaSeparated (signature.parameters.map (Parameter.display types)) ++ ") -> " ++
    types.display signature.result

end DataclassSynthesis
