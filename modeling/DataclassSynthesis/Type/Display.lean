import DataclassSynthesis.Type.Context

/-!
# Written forms of types

The written form of a type names its components recursively. The shallow form prints a component
by its identifier alone.
-/

namespace DataclassSynthesis

/-- Separate texts by a comma. -/
def commaSeparated (texts : List String) : String := ", ".intercalate texts

namespace Ty

/-- The written form of a type, given the written forms of its components. -/
def displayWith {m : Type → Type} [Monad m] (component : TypeId → m String) : Ty → m String
  | .scalar builtin => pure builtin.name
  | .nominal _ name _ => pure name
  | .container qualified [] => pure (shortName qualified)
  | .container qualified arguments => do
    let texts ← arguments.mapM component
    pure (shortName qualified ++ "[" ++ commaSeparated texts ++ "]")
  | .union members => do
    let texts ← members.mapM component
    pure (" | ".intercalate texts)
  | .callable parameters result _ => do
    let texts ← parameters.mapM component
    let last ← component result
    pure ("Callable[[" ++ commaSeparated texts ++ "], " ++ last ++ "]")
  | .any => pure "Any"
  | .never => pure "nothing"

/-- The written form of an identifier that is not resolved. -/
def displayId (id : TypeId) : String := s!"TypeId({id.index})"

/-- The shallow form of a type, with components printed as identifiers. -/
def shallowDisplay (type : Ty) : String := Id.run (type.displayWith fun id => pure (displayId id))

end Ty

namespace TypeContext

/-- The written form of a type, if no chain of components is longer than the bound. -/
def displayWithin (context : TypeContext) : Nat → TypeId → Option String
  | 0, _ => none
  | bound + 1, id =>
    match context.get? id with
    | none => some s!"InvalidType({id.index})"
    | some type => type.displayWith (displayWithin context bound)

/-- The written form of a type. A chain of components never repeats a type, so it is no longer
than the number of types and one component that is missing. -/
def display (context : TypeContext) (id : TypeId) : String :=
  (context.displayWithin (context.size + 1) id).getD ""

end TypeContext

end DataclassSynthesis
