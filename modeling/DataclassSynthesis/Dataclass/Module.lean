/-!
# The dataclass module

The members of the module that the analysis evaluates itself, in place of their definitions.
-/

namespace DataclassSynthesis

/-- A member of the module that the analysis evaluates. -/
inductive ModuleMember where
  | decorator
  | field
deriving DecidableEq

namespace ModuleMember

/-- The name of the module. -/
def moduleName : String := "dataclasses"

/-- The name of a member within the module. -/
def name : ModuleMember → String
  | decorator => "dataclass"
  | field => "field"

/-- Every member, by name. -/
def all : List ModuleMember := [decorator, field]

/-- The member with a given name. -/
def find? (name : String) : Option ModuleMember := all.find? fun found => found.name == name

/-- Whether a qualified name is that of a member. -/
def isMember (qualified : String) : Bool :=
  all.any fun found => qualified == moduleName ++ "." ++ found.name

end ModuleMember

end DataclassSynthesis
