import DataclassSynthesis.Type.Context
import DataclassSynthesis.Value.Basic

/-!
# Types of values

Each value has a type, which may have to be added to the type context. The type of a variable is
the union of the types of its values.
-/

namespace DataclassSynthesis

/-- The type of a literal. -/
def Constant.type : Constant → TypeId
  | int _ => .int
  | float _ => .float
  | str _ => .str
  | bytes _ => .bytes
  | bool _ => .bool
  | none => .none

/-- The function type of a signature. -/
def Signature.type (signature : Signature) : TypeM TypeId :=
  TypeM.callable (signature.parameters.map Parameter.type) signature.result
    signature.requiredCount

/-- The type of a value; nothing is known about a field descriptor. -/
def Value.type : Value → TypeM TypeId
  | constant literal => pure literal.type
  | instanceOf type => pure type
  | classObject instances => TypeM.classObject instances
  | function callee => callee.signature.type
  | field _ | unknown => pure .any

/-- The types of values, from first to last. -/
def Value.types : List Value → TypeM (List TypeId)
  | [] => pure []
  | value :: rest => do
    let type ← value.type
    let types ← Value.types rest
    pure (type :: types)

/-- The union of the types of all values of a variable. -/
def Variable.type (var : Variable) : TypeM TypeId := do
  let members ← Value.types var.values
  TypeM.union members

end DataclassSynthesis
