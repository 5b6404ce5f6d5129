import DataclassSynthesis.NameTable
import DataclassSynthesis.Type.Basic
import DataclassSynthesis.Type.Error

/-!
# Type contexts

A type context stores each type once and identifies it by its position, so that two types are
equal exactly when their identifiers are. A second store holds the identifier of each type, and is
what a type is looked up in. Types are added by construction, in both stores at once, and never
removed. The built-in types come first, at fixed positions.
-/

namespace DataclassSynthesis

/-- The types known so far, and the names that denote some of them. -/
structure TypeContext where
  /-- The types, each at the position that its identifier tells. -/
  types : List Ty
  /-- The identifiers of the types; the latest entry for a type counts. -/
  ids : List (Ty × TypeId)
  named : NameTable TypeId

/-- A computation that may add types to the context. -/
abbrev TypeM := StateM TypeContext

namespace TypeId

/-- The type of integers. -/
def int : TypeId := ⟨0⟩

/-- The type of floating-point numbers. -/
def float : TypeId := ⟨1⟩

/-- The type of complex numbers. -/
def complex : TypeId := ⟨2⟩

/-- The type of truth values. -/
def bool : TypeId := ⟨3⟩

/-- The type of text. -/
def str : TypeId := ⟨4⟩

/-- The type of byte strings. -/
def bytes : TypeId := ⟨5⟩

/-- The type of the absent value. -/
def none : TypeId := ⟨6⟩

/-- The type of all values. -/
def object : TypeId := ⟨7⟩

/-- The unknown type. -/
def any : TypeId := ⟨8⟩

/-- The type without values. -/
def never : TypeId := ⟨9⟩

end TypeId

namespace TypeContext

/-- The built-in types in the order of their identifiers: the scalars, the unknown type, the empty
type and the bare containers. -/
def builtins : List Ty :=
  Scalar.all.map .scalar ++ [.any, .never] ++
    Container.all.map fun container => .container container.qualified []

/-- The context that holds the built-in types only. The empty type has no name. -/
def initial : TypeContext where
  types := builtins
  ids := (builtins.zipIdx.map fun (type, index) => (type, ⟨index⟩)).reverse
  named := NameTable.ofList
    (Scalar.all.zipIdx.map (fun (scalar, index) => (scalar.name, ⟨index⟩)) ++
      [("Any", TypeId.any)] ++
      Container.all.zipIdx.map fun (container, index) =>
        (container.short, ⟨Scalar.all.length + 2 + index⟩))

/-- The number of types in the context. -/
def size (context : TypeContext) : Nat := context.types.length

/-- The type that an identifier denotes. -/
def get? (context : TypeContext) (id : TypeId) : Option Ty := context.types[id.index]?

/-- The identifier of a type that is already present. -/
def lookup (context : TypeContext) (type : Ty) : Option TypeId := context.ids.lookup type

/-- Add a type to both stores, under the next identifier. -/
def append (context : TypeContext) (added : Ty) : TypeContext :=
  { context with
    types := context.types ++ [added]
    ids := (added, ⟨context.size⟩) :: context.ids }

/-- Whether an identifier denotes the unknown type. -/
def isAny (context : TypeContext) (id : TypeId) : Bool := context.get? id == some .any

/-- Let a name denote a type, in place of what it denoted before. -/
def register (context : TypeContext) (name : String) (id : TypeId) : TypeContext :=
  { context with named := context.named.insert name id }

/-- The type that a name denotes. -/
def resolve (context : TypeContext) (name : String) : Except TypeError TypeId :=
  match context.named.find? name with
  | some id => .ok id
  | none => .error (.undefined name)

/-- The argument of `container[argument]`; the unknown type when the container is bare, and
nothing when the type is something else. -/
def argumentOf? (context : TypeContext) (id : TypeId) (qualified : String) : Option TypeId :=
  match context.get? id with
  | some (.container base arguments) =>
    if base = qualified then some (arguments.head?.getD .any) else none
  | _ => none

/-- The members of a union, or the type itself when it is no union. -/
def unionMembers (context : TypeContext) (id : TypeId) : List TypeId :=
  match context.get? id with
  | some (.union members) => members
  | _ => [id]

end TypeContext

namespace TypeM

/-- The identifier of a type, which is added when it is not present. -/
def intern (type : Ty) : TypeM TypeId := fun context =>
  match context.lookup type with
  | some id => (id, context)
  | none => (⟨context.size⟩, context.append type)

/-- A container applied to arguments. -/
def container (qualified : String) (arguments : List TypeId) : TypeM TypeId :=
  intern (.container qualified arguments)

/-- The type `list[element]`. -/
def list (element : TypeId) : TypeM TypeId := container Container.list.qualified [element]

/-- The type `dict[key, value]`. -/
def dict (key value : TypeId) : TypeM TypeId := container Container.dict.qualified [key, value]

/-- The type `set[element]`. -/
def set (element : TypeId) : TypeM TypeId := container Container.set.qualified [element]

/-- The type `tuple[elements]`. -/
def tuple (elements : List TypeId) : TypeM TypeId := container Container.tuple.qualified elements

/-- The type of the class object whose instances have the given type. -/
def classObject (instances : TypeId) : TypeM TypeId :=
  container Container.classObject.qualified [instances]

/-- The type `ClassVar[inner]`. -/
def classVariable (inner : TypeId) : TypeM TypeId :=
  container Container.classVariable.qualified [inner]

/-- The type `InitVar[inner]`. -/
def initVariable (inner : TypeId) : TypeM TypeId :=
  container Container.initVariable.qualified [inner]

/-- The type of a user-defined class. -/
def nominal (id : ClassId) (name : String) (bases : List TypeId) : TypeM TypeId :=
  intern (.nominal id name bases)

/-- A function type. -/
def callable (parameters : List TypeId) (result : TypeId) (required : Nat) : TypeM TypeId :=
  intern (.callable parameters result required)

/-- Insert an identifier into a strictly increasing list, once. -/
def insertMember (id : TypeId) : List TypeId → List TypeId
  | [] => [id]
  | head :: tail =>
    if id.index < head.index then id :: head :: tail
    else if id = head then head :: tail
    else head :: insertMember id tail

/-- The distinct identifiers of a list, in increasing order. -/
def normalizeMembers (ids : List TypeId) : List TypeId := ids.foldr insertMember []

/-- The union of types. Member unions are replaced by their members, and repeated members are
dropped; no member is the empty type, and a single member stands for itself. -/
def union (members : List TypeId) : TypeM TypeId := do
  let context ← get
  match normalizeMembers (members.flatMap context.unionMembers) with
  | [] => pure .never
  | [single] => pure single
  | several => intern (.union several)

/-- The union of a type and the type of the `None` constant. -/
def optional (type : TypeId) : TypeM TypeId := union [type, .none]

/-- Resolve `name[arguments]`: the name must be that of a container, which must take this many
arguments. -/
def parameterize (name : String) (arguments : List TypeId) :
    EStateM TypeError TypeContext TypeId := fun context =>
  match Container.find? name with
  | none =>
    .error (if context.named.contains name then .notGeneric name else .undefined name) context
  | some found =>
    if found.arity.all (· == arguments.length) then
      let (id, grown) := container found.qualified arguments context
      .ok id grown
    else .error (.argumentCount name (found.arity.getD 0) arguments.length) context

end TypeM

end DataclassSynthesis
