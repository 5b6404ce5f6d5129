import DataclassSynthesis.NameTable
import DataclassSynthesis.Value.Display

/-!
# Attributes

An attribute is one slot of the instances of a dataclass, and usually a parameter of its
constructor. Attribute lists are merged by name: a later attribute takes the place of an earlier
one, so that a class can refine what it inherits without moving it.
-/

namespace DataclassSynthesis

/-- One slot of the instances of a dataclass. -/
structure Attribute where
  name : String
  type : TypeId
  init : Bool
  /-- The default; without one, the constructor parameter is required. -/
  default : Option Variable

/-- An attribute with its type and default written out. -/
structure AttributeSummary where
  name : String
  type : String
  init : Bool
  default : Option String
deriving DecidableEq

namespace Attribute

/-- Write out the type and the default. -/
def summary (types : TypeContext) (attr : Attribute) : AttributeSummary where
  name := attr.name
  type := types.display attr.type
  init := attr.init
  default := attr.default.map (Variable.describe types)

/-- Put an attribute in the place of the first one with its name, or at the end. -/
def merge (attrs : List Attribute) (attr : Attribute) : List Attribute :=
  replaceOrAppend (fun present => present.name == attr.name) attr attrs

/-- Merge attributes one after the other. -/
def mergeAll (attrs added : List Attribute) : List Attribute := added.foldl merge attrs

/-- Whether the attribute is a constructor parameter that must be supplied. -/
def isRequired (attr : Attribute) : Bool := attr.init && attr.default.isNone

/-- Whether the attribute is a constructor parameter that may be left out. -/
def isOptional (attr : Attribute) : Bool := attr.init && attr.default.isSome

/-- The first required constructor parameter that follows an optional one. -/
def requiredAfterDefault (attrs : List Attribute) : Option Attribute :=
  (attrs.dropWhile fun attr => !attr.isOptional).find? isRequired

end Attribute

end DataclassSynthesis
