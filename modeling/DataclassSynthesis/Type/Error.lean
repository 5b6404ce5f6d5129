/-!
# Errors of type expressions
-/

namespace DataclassSynthesis

/-- Why a type expression denotes no type. -/
inductive TypeError where
  | undefined (name : String)
  | notGeneric (name : String)
  | argumentCount (name : String) (expected actual : Nat)
deriving DecidableEq

/-- The wording of a type error. -/
def TypeError.message : TypeError → String
  | undefined name => s!"Undefined type: {name}"
  | notGeneric name => s!"'{name}' is not a generic container"
  | argumentCount name expected actual =>
    s!"'{name}' expects {expected} type argument(s), got {actual}"

end DataclassSynthesis
