import DataclassSynthesis.Class.Table
import DataclassSynthesis.Dataclass.Constructor
import DataclassSynthesis.Proofs.NameTable
import Mathlib.Data.List.Basic

/-!
# Edits of classes

Editing a class leaves the other classes alone, and edits of one class compose. The edits that
collecting attributes makes concern the tables of members and of annotated names only, and not the
constructor.
-/

namespace DataclassSynthesis

namespace ClassTable

/-- After an edit the edited class is found edited, and every other class as before. -/
theorem get?_modify (table : ClassTable) (id other : ClassId) (edit : ClassObject → ClassObject) :
    (table.modify id edit).get? other =
      if other = id then (table.get? id).map edit else table.get? other := by
  simp only [get?, modify, List.getElem?_modify]
  by_cases same : other = id
  · subst same
    simp
  · have differ : ¬ id.index = other.index := by
      intro equal
      exact same (by cases id; cases other; simp_all)
    simp [same, differ]

/-- An edited class is found as edited. -/
theorem get?_modify_self {table : ClassTable} {id : ClassId} {object : ClassObject}
    (found : table.get? id = some object) (edit : ClassObject → ClassObject) :
    (table.modify id edit).get? id = some (edit object) := by
  rw [get?_modify, if_pos rfl, found, Option.map_some]

theorem get?_modify_of_ne (table : ClassTable) {id other : ClassId} (differ : other ≠ id)
    (edit : ClassObject → ClassObject) : (table.modify id edit).get? other = table.get? other := by
  rw [get?_modify, if_neg differ]

@[simp] theorem size_modify (table : ClassTable) (id : ClassId)
    (edit : ClassObject → ClassObject) : (table.modify id edit).size = table.size := by
  simp only [size, modify, List.length_modify]

/-- The identities of the classes in a table are the numbers below its size. -/
theorem exists_get?_iff {table : ClassTable} {id : ClassId} :
    (∃ object, table.get? id = some object) ↔ id.index < table.size := by
  constructor
  · rintro ⟨object, found⟩
    exact (List.getElem?_eq_some_iff.mp found).1
  · intro inside
    exact ⟨_, List.getElem?_eq_getElem inside⟩

/-- Two edits of one class are one edit. -/
theorem modify_modify (table : ClassTable) (id : ClassId)
    (first second : ClassObject → ClassObject) :
    (table.modify id first).modify id second = table.modify id (second ∘ first) := by
  simp only [modify, List.modify_modify_eq]

theorem modify_id (table : ClassTable) (id : ClassId) :
    table.modify id (fun object => object) = table := by
  simp only [modify]
  exact congrArg ClassTable.mk (List.modify_id _ _)

/-- Only the edited class decides what an edit does to the table. -/
theorem modify_congr {table : ClassTable} {id : ClassId} {object : ClassObject}
    (found : table.get? id = some object) {first second : ClassObject → ClassObject}
    (same : first object = second object) : table.modify id first = table.modify id second := by
  obtain ⟨inside, here⟩ := List.getElem?_eq_some_iff.mp found
  simp only [modify, List.modify_eq_set_get _ inside, List.get_eq_getElem, here, same]

/-- Of two tables with related entries at an identity, both or none has a class there. -/
theorem get?_cases_of_rel {left right : ClassTable} {alike : ClassObject → ClassObject → Prop}
    {id : ClassId} (related : Option.Rel alike (left.get? id) (right.get? id)) :
    (left.get? id = none ∧ right.get? id = none) ∨ ∃ object other,
      left.get? id = some object ∧ right.get? id = some other ∧ alike object other := by
  generalize left.get? id = here at related ⊢
  generalize right.get? id = there at related ⊢
  cases related with
  | none => exact .inl ⟨rfl, rfl⟩
  | some same => exact .inr ⟨_, _, rfl, rfl, same⟩

/-- A class that has just been added is found under the next identifier. -/
theorem get?_push_self (table : ClassTable) (object : ClassObject) :
    (table.push object).get? table.nextId = some object := by
  simp [get?, push, nextId, size]

theorem get?_push_of_some {table : ClassTable} {id : ClassId} {found : ClassObject}
    (present : table.get? id = some found) (object : ClassObject) :
    (table.push object).get? id = some found := by
  obtain ⟨inside, -⟩ := List.getElem?_eq_some_iff.mp present
  simpa only [get?, push, List.getElem?_append_left inside] using present

/-- Every class of an extended table was there before or is the one that was added. -/
theorem get?_of_push {table : ClassTable} {id : ClassId} {object found : ClassObject}
    (present : (table.push object).get? id = some found) :
    table.get? id = some found ∨ (id = table.nextId ∧ found = object) := by
  rcases Nat.lt_trichotomy id.index table.classes.length with before | here | beyond
  · left
    simpa only [get?, push, List.getElem?_append_left before] using present
  · right
    have named : id = table.nextId := by
      cases id
      simp_all [nextId, size]
    rw [named, get?_push_self] at present
    exact ⟨named, (Option.some.inj present).symm⟩
  · obtain ⟨inside, -⟩ := List.getElem?_eq_some_iff.mp present
    simp only [push, List.length_append, List.length_singleton] at inside
    omega

end ClassTable

namespace ClassObject

/-- An edit of the members and annotated names of a class that leaves its constructor alone. -/
structure IsTableEdit (edit : ClassObject → ClassObject) : Prop where
  tables : ∀ object, edit object =
    { object with members := (edit object).members, annotations := (edit object).annotations }
  constructor : ∀ object,
    (edit object).members.find? constructorName = object.members.find? constructorName

theorem isTableEdit_id : IsTableEdit fun object => object := ⟨fun _ => rfl, fun _ => rfl⟩

theorem IsTableEdit.comp {first second : ClassObject → ClassObject} (early : IsTableEdit first)
    (late : IsTableEdit second) : IsTableEdit (second ∘ first) where
  tables object := by
    simp only [Function.comp_apply]
    rw [late.tables (first object), early.tables object]
  constructor object := (late.constructor (first object)).trans (early.constructor object)

/-- Setting a member other than the constructor is an edit of the tables. -/
theorem isTableEdit_setMember {name : String} (ordinary : constructorName ≠ name)
    (value : Variable) : IsTableEdit fun object => object.setMember name value :=
  ⟨fun _ => rfl, fun object => object.members.find?_insert_of_ne value ordinary⟩

theorem isTableEdit_setAnnotated (name : String) (type : TypeId) :
    IsTableEdit fun object => object.setAnnotated name type := ⟨fun _ => rfl, fun _ => rfl⟩

theorem isTableEdit_forget {name : String} (ordinary : constructorName ≠ name) :
    IsTableEdit fun object => object.forget name :=
  ⟨fun _ => rfl, fun object => object.members.find?_erase_of_ne ordinary⟩

end ClassObject

end DataclassSynthesis
