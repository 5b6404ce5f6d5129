import DataclassSynthesis.Proofs.ClassEdits
import DataclassSynthesis.Proofs.DecorationOutcome

/-!
# Classes up to program points

Decorating a class stamps the members that it stores with the current program point. A class with
all members stamped alike shows everything else about it, and every edit of a class has the same
effect on it (`DataclassSynthesis.ClassObject.unstamped_setMember` and the lemmas that follow it).
-/

namespace DataclassSynthesis

namespace NameTable

variable {α β : Type}

/-- The table with each value replaced by its image. -/
def map (f : α → β) (table : NameTable α) : NameTable β where
  entries := table.entries.map fun entry => (entry.1, f entry.2)
  distinct := by
    rw [List.map_map]
    exact table.distinct

@[simp] theorem keys_map (f : α → β) (table : NameTable α) : (table.map f).keys = table.keys := by
  simp only [keys, map, List.map_map]
  rfl

@[simp] theorem find?_map (f : α → β) (table : NameTable α) (name : String) :
    (table.map f).find? name = (table.find? name).map f := by
  simp only [find?, map, List.find?_map, Option.map_map]
  rfl

@[simp] theorem contains_map (f : α → β) (table : NameTable α) (name : String) :
    (table.map f).contains name = table.contains name := by
  rw [contains_eq_isSome_find?, contains_eq_isSome_find?, find?_map, Option.isSome_map]

/-- Inserting a name commutes with a change of all values. -/
theorem map_insert (f : α → β) (table : NameTable α) (name : String) (value : α) :
    (table.insert name value).map f = (table.map f).insert name (f value) := by
  apply NameTable.ext
  simp only [map, insert]
  generalize table.entries = entries
  induction entries with
  | nil => rfl
  | cons head tail ih =>
    by_cases same : head.1 = name
    · simp [replaceOrAppend, same]
    · simp [replaceOrAppend, same, ih]

theorem map_erase (f : α → β) (table : NameTable α) (name : String) :
    (table.erase name).map f = (table.map f).erase name := by
  apply NameTable.ext
  simp only [map, erase, List.filter_map]
  rfl

theorem map_map {γ : Type} (f : α → β) (g : β → γ) (table : NameTable α) :
    (table.map f).map g = table.map (g ∘ f) := by
  apply NameTable.ext
  simp only [map, List.map_map]
  rfl

/-- Storing the value that a name has already changes nothing. -/
theorem insert_of_find? {table : NameTable α} {name : String} {value : α}
    (found : table.find? name = some value) : table.insert name value = table := by
  apply NameTable.ext
  obtain ⟨entries, distinct⟩ := table
  simp only [find?] at found
  simp only [insert]
  induction entries with
  | nil => cases found
  | cons head tail ih =>
    obtain ⟨key, stored⟩ := head
    by_cases same : key = name
    · subst same
      simp only [List.find?_cons, beq_self_eq_true, Option.map_some, Option.some.injEq] at found
      simp [replaceOrAppend, found]
    · have differ : (key == name) = false := beq_eq_false_iff_ne.mpr same
      simp only [List.find?_cons, differ] at found
      have rest := ih (List.nodup_cons.mp distinct).2 found
      simp [replaceOrAppend, same, rest]

/-- Erasing a name that is missing changes nothing. -/
theorem erase_of_find?_eq_none {table : NameTable α} {name : String}
    (missing : table.find? name = none) : table.erase name = table := by
  apply NameTable.ext
  simp only [find?, Option.map_eq_none_iff, List.find?_eq_none] at missing
  simp only [erase]
  refine List.filter_eq_self.mpr fun entry listed => ?_
  simpa using missing entry listed

end NameTable

/-- A variable with all of its values produced at the entry point. -/
def Variable.unstamped (var : Variable) : Variable :=
  ⟨var.bindings.map fun binding => ⟨binding.value, Program.entry⟩⟩

@[simp] theorem Variable.unstamped_single (value : Value) (point : PointId) :
    (single value point).unstamped = single value Program.entry := rfl

@[simp] theorem Variable.values_unstamped (var : Variable) : var.unstamped.values = var.values := by
  simp only [values, unstamped, List.map_map]
  rfl

namespace ClassObject

/-- A class with all members produced at the entry point. -/
def unstamped (object : ClassObject) : ClassObject :=
  { object with members := object.members.map Variable.unstamped }

/-- Where values were produced does not matter for setting a member. -/
@[simp] theorem unstamped_setMember (object : ClassObject) (name : String) (value : Variable) :
    (object.setMember name value).unstamped = object.unstamped.setMember name value.unstamped := by
  simp only [unstamped, setMember, NameTable.map_insert]

@[simp] theorem unstamped_setAnnotated (object : ClassObject) (name : String) (type : TypeId) :
    (object.setAnnotated name type).unstamped = object.unstamped.setAnnotated name type := rfl

@[simp] theorem unstamped_forget (object : ClassObject) (name : String) :
    (object.forget name).unstamped = object.unstamped.forget name := by
  simp only [unstamped, forget, NameTable.map_erase]

@[simp] theorem unstamped_setFields (object : ClassObject) (fields : Option (List Attribute)) :
    (object.setFields fields).unstamped = object.unstamped.setFields fields := rfl

/-- A class gets its constructor wherever its values were produced. -/
@[simp] theorem unstamped_withConstructor (object : ClassObject) (options : Options)
    (attrs : List Attribute) (point : PointId) :
    (object.withConstructor options attrs point).unstamped =
      object.unstamped.withConstructor options attrs Program.entry := by
  have same : object.unstamped.members.contains constructorName =
      object.members.contains constructorName := NameTable.contains_map ..
  rw [withConstructor, withConstructor, same]
  split
  · rw [unstamped_setMember, Variable.unstamped_single]
    rfl
  · rfl

/-- Classes that are the same up to program points have the same attributes, the same annotated
names, and members with the same values in the same order. -/
theorem tables_eq_of_unstamped {left right : ClassObject}
    (same : left.unstamped = right.unstamped) :
    left.fields = right.fields ∧ left.annotations = right.annotations ∧
      left.members.map Variable.values = right.members.map Variable.values := by
  have fields := congrArg ClassObject.fields same
  have annotations := congrArg ClassObject.annotations same
  have forgets : Variable.values ∘ Variable.unstamped = Variable.values :=
    funext Variable.values_unstamped
  have members := congrArg (fun object => object.members.map Variable.values) same
  simp only [unstamped, NameTable.map_map, forgets] at members
  exact ⟨fields, annotations, members⟩

end ClassObject

end DataclassSynthesis
