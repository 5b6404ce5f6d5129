import DataclassSynthesis.Type.Basic
import DataclassSynthesis.Program

/-!
# Abstract values

What the analysis knows about a value, and about the values that a name may hold. A variable is a
list of bindings, each a value with the program point that produced it. Functions carry default
values and field descriptors carry defaults, so all of these types refer to one another.
-/

namespace DataclassSynthesis

/-- A literal. Floating-point literals are given by their 64-bit encoding. -/
inductive Constant where
  | int (value : Int)
  | float (bits : UInt64)
  | str (text : String)
  | bytes (bytes : List UInt8)
  | bool (value : Bool)
  | none
deriving DecidableEq

mutual

/-- An abstract value. -/
inductive Value where
  | constant (constant : Constant)
  | instanceOf (type : TypeId)
  /-- The class object whose instances have the given type. -/
  | classObject (instances : TypeId)
  | function (function : Function)
  | field (descriptor : FieldDescriptor)
  | unknown

/-- A value and the program point that produced it. -/
structure Binding where
  value : Value
  point : PointId

/-- The values that a name may hold. -/
structure Variable where
  bindings : List Binding

/-- A function parameter; it is required when it has no default. -/
structure Parameter where
  name : String
  type : TypeId
  default : Option Variable

/-- The parameters of a function in order, and the type of its result. -/
structure Signature where
  parameters : List Parameter
  result : TypeId

/-- Where a constructor takes the value of an attribute from. -/
inductive AttributeSource where
  | parameter (name : String)
  | default (value : Variable)

/-- One assignment of a constructor body. -/
structure AttributeAssignment where
  target : String
  source : AttributeSource

/-- Whether a function was written in a class body or generated with a body of assignments. -/
inductive FunctionOrigin where
  | declared
  | synthesized (body : List AttributeAssignment)

/-- A function object. -/
structure Function where
  name : String
  signature : Signature
  origin : FunctionOrigin

/-- What a field call says about an attribute: the default that the attribute takes, whether it is
a constructor parameter, and the default as it was supplied. -/
structure FieldDescriptor where
  effective : Option Variable
  init : Bool
  default : Option Variable

end

namespace Signature

/-- The number of parameters without a default. -/
def requiredCount (signature : Signature) : Nat :=
  (signature.parameters.filter fun parameter => parameter.default.isNone).length

/-- The names of the parameters, in order. -/
def parameterNames (signature : Signature) : List String :=
  signature.parameters.map Parameter.name

end Signature

namespace Function

/-- A function that is written in source. -/
def declare (name : String) (parameters : List Parameter) (result : TypeId) : Function :=
  ⟨name, ⟨parameters, result⟩, .declared⟩

/-- The assignments of a generated function. -/
def body? (function : Function) : Option (List AttributeAssignment) :=
  match function.origin with
  | .declared => none
  | .synthesized body => some body

end Function

namespace Value

/-- Whether the value is the `None` literal. -/
def isNoneConstant : Value → Bool
  | constant .none => true
  | _ => false

end Value

namespace Variable

/-- The variable without values. -/
def empty : Variable := ⟨[]⟩

/-- The variable that holds one value, produced at a point. -/
def single (value : Value) (point : PointId) : Variable := ⟨[⟨value, point⟩]⟩

/-- The values of a variable, without the points that produced them. -/
def values (var : Variable) : List Value := var.bindings.map Binding.value

/-- The first value, which decides how the variable is used. -/
def first? (var : Variable) : Option Value := var.bindings.head?.map Binding.value

/-- The field descriptor, when the first value is one. -/
def field? (var : Variable) : Option FieldDescriptor :=
  match var.first? with
  | some (.field descriptor) => some descriptor
  | _ => none

/-- Whether the first value is a function. -/
def isFunction (var : Variable) : Bool :=
  match var.first? with
  | some (.function _) => true
  | _ => false

/-- Whether there are values and all of them are the `None` literal. -/
def isNoneConstant (var : Variable) : Bool :=
  !var.bindings.isEmpty && var.values.all Value.isNoneConstant

/-- The boolean, when the variable holds exactly one value and that is a boolean literal. -/
def constantBool? (var : Variable) : Option Bool :=
  match var.bindings with
  | [⟨.constant (.bool value), _⟩] => some value
  | _ => none

end Variable

end DataclassSynthesis
