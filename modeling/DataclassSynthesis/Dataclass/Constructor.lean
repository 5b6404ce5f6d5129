import DataclassSynthesis.Analysis.Basic

/-!
# Constructors

The constructor of a dataclass takes the receiver and one parameter per constructor attribute. It
assigns each parameter to its attribute, and its default to every other attribute that has one.
-/

namespace DataclassSynthesis

/-- The name of the constructor among the members of a class. -/
def constructorName : String := "__init__"

/-- The parameter of an attribute. -/
def Attribute.parameter (attr : Attribute) : Parameter := ⟨attr.name, attr.type, attr.default⟩

/-- The assignment that the constructor makes to an attribute, if any. -/
def Attribute.assignment? (attr : Attribute) : Option AttributeAssignment :=
  if attr.init then some ⟨attr.name, .parameter attr.name⟩
  else attr.default.map fun value => ⟨attr.name, .default value⟩

/-- The constructor for instances of a type with the given attributes. -/
def constructorFor (receiver : TypeId) (attrs : List Attribute) : Function where
  name := constructorName
  signature :=
    { parameters :=
        ⟨"self", receiver, none⟩ :: (attrs.filter Attribute.init).map Attribute.parameter
      result := .none }
  origin := .synthesized (attrs.filterMap Attribute.assignment?)

/-- The constructor of a class with the given attributes, at the current point. -/
def Analysis.constructor? (state : Analysis) (id : ClassId) (attrs : List Attribute) :
    Except DecorateError Variable := do
  let object ← state.class? id
  pure (.single (.function (constructorFor object.type attrs)) state.point)

end DataclassSynthesis
