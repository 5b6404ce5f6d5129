import DataclassSynthesis.Type.Context
import DataclassSynthesis.Value.Basic

/-!
# Kinds of members

How an annotated name of a class body takes part in a dataclass. The outermost marker of its type
decides before its value does.
-/

namespace DataclassSynthesis

/-- How an annotated name takes part in a dataclass. -/
inductive MemberKind where
  /-- It belongs to the class only and is no attribute. -/
  | classVariable
  /-- It is a constructor parameter of the given type and is not stored. -/
  | initVariable (inner : TypeId)
  | field (descriptor : FieldDescriptor)
  | plain

/-- The kind of a name with the given type and value. Only one marker is unwrapped. -/
def MemberKind.of (types : TypeContext) (type : TypeId) (value : Option Variable) : MemberKind :=
  match types.argumentOf? type Container.classVariable.qualified with
  | some _ => .classVariable
  | none =>
    match types.argumentOf? type Container.initVariable.qualified with
    | some inner => .initVariable inner
    | none =>
      match value.bind Variable.field? with
      | some descriptor => .field descriptor
      | none => .plain

end DataclassSynthesis
