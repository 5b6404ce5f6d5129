/-!
# Types

The structure of a type, one level deep: components are identifiers into the type context that
holds the types. A container with no arguments is the bare container, whose arguments are unknown.
-/

namespace DataclassSynthesis

/-- The identity of a type within a type context. -/
structure TypeId where
  index : Nat
deriving DecidableEq

/-- The identity of a class within a class table. -/
structure ClassId where
  index : Nat
deriving DecidableEq

/-- The built-in classes that are not containers. -/
inductive Scalar where
  | int
  | float
  | complex
  | bool
  | str
  | bytes
  | none
  | object
deriving DecidableEq

namespace Scalar

/-- The name under which the class is written in source. -/
def name : Scalar → String
  | int => "int"
  | float => "float"
  | complex => "complex"
  | bool => "bool"
  | str => "str"
  | bytes => "bytes"
  | none => "None"
  | object => "object"

/-- The place of a class in the numeric tower, from narrow to wide. -/
def numericRank : Scalar → Option Nat
  | bool => some 0
  | int => some 1
  | float => some 2
  | complex => some 3
  | str | bytes | none | object => Option.none

/-- Every scalar, in the order in which a type context introduces them. -/
def all : List Scalar := [int, float, complex, bool, str, bytes, none, object]

end Scalar

/-- A built-in container: its short name, its qualified name, and the number of arguments it
takes when that number is fixed. -/
structure Container where
  short : String
  qualified : String
  arity : Option Nat
deriving DecidableEq

namespace Container

/-- A homogeneous sequence. -/
def list : Container := ⟨"list", "builtins.list", some 1⟩

/-- A mapping from keys to values. -/
def dict : Container := ⟨"dict", "builtins.dict", some 2⟩

/-- A collection of distinct elements. -/
def set : Container := ⟨"set", "builtins.set", some 1⟩

/-- A sequence with one type per position, of any length. -/
def tuple : Container := ⟨"tuple", "builtins.tuple", none⟩

/-- The type of a class object, over the type of the class's instances. -/
def classObject : Container := ⟨"type", "builtins.type", some 1⟩

/-- The marker for a member that belongs to the class and not to its instances. -/
def classVariable : Container := ⟨"ClassVar", "typing.ClassVar", some 1⟩

/-- The marker for a constructor parameter that is not stored. -/
def initVariable : Container := ⟨"InitVar", "dataclasses.InitVar", some 1⟩

/-- Every container, in the order in which a type context introduces them. -/
def all : List Container := [list, dict, set, tuple, classObject, classVariable, initVariable]

/-- The container with a given short or qualified name. -/
def find? (name : String) : Option Container :=
  all.find? fun container => container.short == name || container.qualified == name

end Container

/-- The structure of a type. -/
inductive Ty where
  /-- A built-in class that is not a container. -/
  | scalar (scalar : Scalar)
  /-- A user-defined class with the types of its direct bases. -/
  | nominal (id : ClassId) (name : String) (bases : List TypeId)
  /-- A container, by qualified name, applied to its arguments. -/
  | container (qualified : String) (arguments : List TypeId)
  /-- A value of any one of the members. -/
  | union (members : List TypeId)
  /-- A function type with the number of its parameters that must be supplied. -/
  | callable (parameters : List TypeId) (result : TypeId) (required : Nat)
  /-- The unknown type. -/
  | any
  /-- The type without values. -/
  | never
deriving DecidableEq

/-- The part of a qualified name after its last dot. -/
def shortName (qualified : String) : String :=
  String.ofList (qualified.toList.reverse.takeWhile (· != '.')).reverse

end DataclassSynthesis
