import DataclassSynthesis.Class.Body
import DataclassSynthesis.Dataclass.Attribute

/-!
# Classes

A class keeps its body as it was written, next to the tables of members and of annotated names
that decorating it edits. Classes are identified by their position in the class table.
-/

namespace DataclassSynthesis

/-- A user-defined class. -/
structure ClassObject where
  id : ClassId
  name : String
  /-- The type of the instances. -/
  type : TypeId
  /-- The direct bases, in the order of the class statement. -/
  bases : List ClassId
  members : NameTable Variable
  annotations : NameTable TypeId
  body : Body
  /-- The merged attributes, once the class has been decorated. -/
  fields : Option (List Attribute)
  span : Span

namespace ClassObject

/-- The class that a body defines: every annotated name has its last type, every assigned name
its last value, and the class has not been decorated. -/
def ofBody (id : ClassId) (name : String) (type : TypeId) (bases : List ClassId) (body : Body)
    (span : Span) : ClassObject where
  id := id
  name := name
  type := type
  bases := bases
  members := NameTable.ofList body.assignments
  annotations := NameTable.ofList body.annotations
  body := body
  fields := none
  span := span

/-- Store the value of a member. -/
def setMember (object : ClassObject) (name : String) (value : Variable) : ClassObject :=
  { object with members := object.members.insert name value }

/-- Store the type of an annotated name. -/
def setAnnotated (object : ClassObject) (name : String) (type : TypeId) : ClassObject :=
  { object with annotations := object.annotations.insert name type }

/-- Forget a name, as a member and as an annotated name. -/
def forget (object : ClassObject) (name : String) : ClassObject :=
  { object with
    members := object.members.erase name
    annotations := object.annotations.erase name }

/-- Store the merged attributes. -/
def setFields (object : ClassObject) (fields : Option (List Attribute)) : ClassObject :=
  { object with fields := fields }

end ClassObject

/-- The classes defined so far. -/
structure ClassTable where
  classes : List ClassObject

namespace ClassTable

/-- The table without classes. -/
def empty : ClassTable := ⟨[]⟩

/-- The number of classes. -/
def size (table : ClassTable) : Nat := table.classes.length

/-- The identity of the class that is added next. -/
def nextId (table : ClassTable) : ClassId := ⟨table.size⟩

/-- The class with a given identity. -/
def get? (table : ClassTable) (id : ClassId) : Option ClassObject := table.classes[id.index]?

/-- Add a class. -/
def push (table : ClassTable) (object : ClassObject) : ClassTable := ⟨table.classes ++ [object]⟩

/-- Edit one class; nothing happens when it does not exist. -/
def modify (table : ClassTable) (id : ClassId) (edit : ClassObject → ClassObject) : ClassTable :=
  ⟨table.classes.modify id.index edit⟩

/-- The class that was most recently given a name. -/
def byName? (table : ClassTable) (name : String) : Option ClassObject :=
  table.classes.reverse.find? fun object => object.name == name

end ClassTable

end DataclassSynthesis
