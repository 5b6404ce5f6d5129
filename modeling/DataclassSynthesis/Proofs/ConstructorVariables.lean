import DataclassSynthesis.Proofs.ConstructorParameters
import DataclassSynthesis.Proofs.DecorationTwice
import DataclassSynthesis.Proofs.StableMarkers

/-!
# Constructor variables without a default

A constructor variable that the class body never assigns is a required parameter of the constructor,
and decorating the class removes it from the members and from the annotated names. The list of
attributes does not tell it from an attribute that is stored, so the constructor assigns it like any
other one (`DataclassSynthesis.Reaches.initVariable_is_assigned`).
-/

namespace DataclassSynthesis

namespace Attribute

/-- An attribute is in the list into which it is merged. -/
theorem mem_merge_self (attrs : List Attribute) (attr : Attribute) : attr ∈ merge attrs attr := by
  induction attrs with
  | nil => exact List.mem_cons_self
  | cons head tail ih =>
    by_cases same : head.name = attr.name
    · simp [merge, replaceOrAppend, same]
    · have later : merge (head :: tail) attr = head :: merge tail attr := by
        simp [merge, replaceOrAppend, same]
      rw [later]
      exact List.mem_cons_of_mem head ih

/-- An attribute that is the only one of its name in a list is the only one after merging the list
in. -/
theorem named_mergeAll {attr : Attribute} {added : List Attribute}
    (own : named attr.name added = [attr]) {attrs : List Attribute}
    (distinct : (attrs.map name).Nodup) : named attr.name (mergeAll attrs added) = [attr] := by
  induction added generalizing attrs with
  | nil => cases own
  | cons first rest ih =>
    rw [named, List.filter_cons] at own
    split at own
    · obtain ⟨rfl, others⟩ := List.cons.inj own
      have differ : ∀ later ∈ rest, later.name ≠ first.name := by
        simpa using List.filter_eq_nil_iff.mp others
      exact (named_mergeAll_of_ne differ _).trans
        (named_of_mem (nodup_merge distinct first) (mem_merge_self attrs first))
    · exact ih own (nodup_merge distinct first)

/-- The attribute that a class body gives for a name is the only one of the name after merging the
attributes of the body into what the class inherits. -/
theorem named_merged {types : TypeContext} {body : Body} {attr : Attribute} {name : String}
    (listed : name ∈ body.attributeNames)
    (given : (body.summary name).attribute? types name = some attr) (inherited : List Attribute) :
    named name (mergeAll [] (inherited ++ body.ownAttributes types)) = [attr] := by
  have own := named_ownAttributes types listed
  rw [given, ← LocalSummary.attribute?_name given] at own
  rw [mergeAll_append, ← LocalSummary.attribute?_name given]
  exact named_mergeAll own (nodup_mergeAll inherited List.nodup_nil)

end Attribute

/-- A constructor variable gives an attribute of the type that its marker is applied to. -/
theorem LocalSummary.attribute?_of_initVariable {types : TypeContext} {summary : LocalSummary}
    {inner : TypeId} (marked : summary.marked? types .initVariable = some inner) (name : String) :
    summary.attribute? types name = some ⟨name, inner, true, summary.value⟩ := by
  obtain ⟨type, typed, argument⟩ := Option.bind_eq_some_iff.mp marked
  rw [attribute?, typed, Option.bind_some, MemberKind.of_of_initVariable argument]
  rfl

/-- Collecting a constructor variable without a value removes it from the tables of the class. -/
theorem LocalSummary.entryOf_edit_of_initVariable {types : TypeContext} {summary : LocalSummary}
    {inner : TypeId} (marked : summary.marked? types .initVariable = some inner)
    (unassigned : summary.value = none) (point : PointId) (name : String) (object : ClassObject) :
    (summary.edit types point name object).entryOf name = (none, none) := by
  obtain ⟨type, typed, argument⟩ := Option.bind_eq_some_iff.mp marked
  rw [edit, typed]
  dsimp only
  rw [MemberKind.of_of_initVariable argument, unassigned]
  exact Prod.ext (NameTable.find?_erase_self ..) (NameTable.find?_erase_self ..)

namespace Decoration

variable (start : Analysis) {steps : List (Nat × String × LocalSummary)}

/-- Collecting names concerns the tables under no other name. -/
theorem entryOf_collectedBy {name : String} (elsewhere : ∀ step ∈ steps, step.2.1 ≠ name)
    (object : ClassObject) :
    (collectedBy start steps object).entryOf name = object.entryOf name := by
  induction steps generalizing object with
  | nil => rfl
  | cons step rest ih =>
    obtain ⟨differ, others⟩ := List.forall_mem_cons.mp elsewhere
    exact (ih others _).trans (LocalSummary.entryOf_edit_of_ne differ.symm _ object)

/-- Collecting a constructor variable that has no value removes it from the tables of the class. -/
theorem collectedBy_forgets (distinct : (steps.map fun step => step.2.1).Nodup)
    {step : Nat × String × LocalSummary} (listed : step ∈ steps) {inner : TypeId}
    (marked : step.2.2.marked? start.types .initVariable = some inner)
    (unassigned : step.2.2.value = none) (object : ClassObject) :
    (collectedBy start steps object).entryOf step.2.1 = (none, none) := by
  induction steps generalizing object with
  | nil => cases listed
  | cons first rest ih =>
    obtain ⟨fresh, othersDistinct⟩ := List.nodup_cons.mp distinct
    rcases List.mem_cons.mp listed with rfl | later
    · -- The names that are collected later are other names.
      have others : ∀ other ∈ rest, other.2.1 ≠ step.2.1 := fun other among same =>
        fresh (List.mem_map.mpr ⟨other, among, same⟩)
      exact (entryOf_collectedBy start others _).trans
        (LocalSummary.entryOf_edit_of_initVariable marked unassigned _ step.2.1 object)
    · exact ih othersDistinct later _

end Decoration

/-- A name that a body annotates and that does not belong to the language is among the names from
which attributes are collected. -/
theorem Body.mem_attributeNames {body : Body} {name : String} {type : TypeId}
    (typed : body.lastType? name = some type) (ordinary : isDunder name = false) :
    name ∈ body.attributeNames := by
  obtain ⟨entry, about, -⟩ := List.mem_map.mp (List.mem_of_getLast? typed)
  obtain ⟨annotated, same⟩ := List.mem_filter.mp about
  obtain rfl := beq_iff_eq.mp same
  refine List.mem_eraseDups.mpr (List.mem_filter.mpr ⟨List.mem_map_of_mem annotated, ?_⟩)
  rw [ordinary]
  rfl

/-- When decorating a class adds a constructor, a constructor variable that the body never assigns
is a required parameter of it, and neither a member nor an annotated name of the class afterwards.
Still the constructor assigns it, once, and from its parameter. -/
theorem Reaches.initVariable_is_assigned {config : WarningConfig} {state : Analysis}
    (reached : Reaches Operation.Any (Analysis.initial config) state) {id : ClassId}
    {object : ClassObject} (found : state.classes.get? id = some object) {options : Options}
    (wanted : options.init = true) (missing : object.members.contains constructorName = false)
    {name : String} {inner : TypeId} (ordinary : isDunder name = false)
    (marked : object.body.marked? state.types .initVariable name = some inner)
    (unassigned : object.body.lastValue? name = none) :
    ∃ after stored function assignments,
      Decoration.decorate options id state = .ok after.point after ∧
      after.classes.get? id = some stored ∧
      stored.members.find? constructorName = some (.single (.function function) after.point) ∧
      function.signature.parameters.tail.filter (fun parameter => parameter.name == name) =
        [⟨name, inner, none⟩] ∧
      stored.annotations.find? name = none ∧ stored.members.find? name = none ∧
      function.body? = some assignments ∧
      assignments.filter (fun assignment => assignment.target == name) =
        [⟨name, .parameter name⟩] := by
  obtain ⟨type, typed, -⟩ := Option.bind_eq_some_iff.mp marked
  have listed := Body.mem_attributeNames typed ordinary
  have among : (object.body.instancesBefore state.types name, name, object.body.summary name) ∈
      Decoration.steps state.types object.body := by
    rw [Decoration.steps_eq]
    exact List.mem_map_of_mem listed
  have distinct := object.body.nodup_attributeNames
  rw [← Decoration.map_name_steps state.types] at distinct
  have marks := (object.body.summary_marked? state.types .initVariable name).trans marked
  have noValue := (object.body.summary_value name).trans unassigned
  obtain ⟨after, errors, warnings, ran, completed⟩ :=
    Decoration.decorate_steps reached.basesFirst found options
  have given := LocalSummary.attribute?_of_initVariable marks name
  rw [noValue] at given
  have single : Attribute.named name (state.prescribed state.types id object.body) =
      [⟨name, inner, true, none⟩] := Attribute.named_merged listed given _
  have constructed := Decoration.storedClass_constructor state options id after.point object
  rw [wanted, missing] at constructed
  have forgotten := Decoration.collectedBy_forgets state distinct among marks noValue object
  have kept := ClassObject.entryOf_withConstructor
    (Decoration.steps_ordinary state.types object.body _ among) options
    (state.prescribed state.types id object.body) after.point
    ((Decoration.collectedBy state (Decoration.steps state.types object.body) object).setFields
      (some (state.prescribed state.types id object.body)))
  obtain ⟨noMember, noType⟩ := Prod.ext_iff.mp (kept.trans forgotten)
  refine ⟨after, _, constructorFor object.type (state.prescribed state.types id object.body), _,
    ran, ?_, constructed, ?_, noType, noMember, rfl, ?_⟩
  · rw [completed.classes, ClassTable.get?_modify_self found]
  · refine (Attribute.filter_parameters name _).trans ?_
    rw [single]
    rfl
  · rw [Attribute.filter_assignments, single]
    rfl

namespace Sample

/-- The statement `class Seeded: seed: InitVar[int]; size: int`. -/
def seeded : ClassDefinition :=
  ((ClassDefinition.start "Seeded" [] none).annotate "seed" ⟨17⟩ none).annotate "size" .int none

/-- The state after the statement. -/
def definedSeeded : Analysis := Operation.run initVariable (.define seeded)

theorem reaches_definedSeeded : Reaches Operation.Any (.initial .standard) definedSeeded :=
  .step (.step .refl (.container Container.initVariable.qualified [.int]) trivial)
    (.define seeded) trivial

/-- The variable is a parameter, and not in the tables of the class. -/
theorem seeded_is_assigned :
    ∃ after stored function, Decoration.decorate {} ⟨0⟩ definedSeeded = .ok after.point after ∧
      after.classes.get? ⟨0⟩ = some stored ∧
      stored.members.find? constructorName = some (.single (.function function) after.point) ∧
      function.signature.parameters.tail.filter (fun parameter => parameter.name == "seed") =
        [⟨"seed", .int, none⟩] ∧
      stored.annotations.find? "seed" = none ∧ stored.members.find? "seed" = none := by
  obtain ⟨after, stored, function, -, ran, nowFound, constructed, parameters, noType, noMember,
    -⟩ :=
    @Reaches.initVariable_is_assigned _ _ reaches_definedSeeded ⟨0⟩ _ rfl {} rfl rfl "seed" .int
      rfl rfl rfl
  exact ⟨after, stored, function, ran, nowFound, constructed, parameters, noType, noMember⟩

/-- The constructor of a class assigns a constructor variable that the class body never assigns. -/
theorem constructor_assigns_initVariable :
    ∃ state id object options after stored function assignments,
      Reaches Operation.Any (.initial .standard) state ∧ state.classes.get? id = some object ∧
      object.body.marked? state.types .initVariable "seed" = some .int ∧
      object.body.lastValue? "seed" = none ∧
      Decoration.decorate options id state = .ok after.point after ∧
      after.classes.get? id = some stored ∧
      stored.members.find? constructorName = some (.single (.function function) after.point) ∧
      function.body? = some assignments ∧
      "seed" ∈ assignments.map AttributeAssignment.target := by
  refine ⟨definedSeeded, ⟨0⟩, _, {}, _, _,
    constructorFor ⟨18⟩ [⟨"seed", .int, true, none⟩, ⟨"size", .int, true, none⟩], _,
    reaches_definedSeeded, rfl, rfl, rfl, rfl, rfl, rfl, rfl, ?_⟩
  exact List.mem_cons_self

end Sample

end DataclassSynthesis
