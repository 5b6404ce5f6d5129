import DataclassSynthesis.Analysis.Basic

/-!
# Inherited attributes

A class inherits the merged attributes of its bases in declaration order. A base that was never
decorated passes on what it inherits itself, so the search stops at the nearest decorated
ancestors.
-/

namespace DataclassSynthesis

namespace ClassTable

/-- Merge what each of several bases passes on. -/
def mergeBases (passedOn : ClassId → Except DecorateError (List Attribute)) :
    List Attribute → List ClassId → Except DecorateError (List Attribute)
  | attrs, [] => .ok attrs
  | attrs, base :: rest => do
    let added ← passedOn base
    mergeBases passedOn (Attribute.mergeAll attrs added) rest

/-- The attributes that a class passes on, searching at most `depth` generations above it. A class
that is missing, or that lies too far up, is unknown. -/
def passedOnWithin (table : ClassTable) : Nat → ClassId → Except DecorateError (List Attribute)
  | depth, id =>
    match table.get? id with
    | none => .error (.unknownClass id)
    | some object =>
      match object.fields, depth with
      | some fields, _ => .ok fields
      | none, 0 => .error (.unknownClass id)
      | none, depth + 1 => mergeBases (passedOnWithin table depth) [] object.bases

/-- The attributes that a class inherits. Every base is older than the classes derived from it, so
there are fewer generations than classes. -/
def inherited (table : ClassTable) (id : ClassId) : Except DecorateError (List Attribute) :=
  match table.get? id with
  | none => .error (.unknownClass id)
  | some object => mergeBases (table.passedOnWithin table.size) [] object.bases

end ClassTable

end DataclassSynthesis
