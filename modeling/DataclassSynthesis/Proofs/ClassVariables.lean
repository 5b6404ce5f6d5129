import DataclassSynthesis.Proofs.DefaultMismatches

/-!
# Class variables and inherited attributes

A class variable gives no attribute of its own. It does not take away an inherited attribute of the
same name either: what decorating stores under the name of a class variable is what the class
inherits under it, and the constructor takes it as a parameter and assigns it
(`DataclassSynthesis.Reaches.classVariable_keeps_inherited`). So a class variable is an attribute
exactly when a decorated ancestor has one of its name.
-/

namespace DataclassSynthesis

namespace Attribute

/-- The attributes with a name. -/
def named (name : String) (attrs : List Attribute) : List Attribute :=
  attrs.filter fun attr => attr.name == name

/-- Merging an attribute leaves the attributes of other names alone. -/
theorem named_merge_of_ne {attr : Attribute} {other : String} (differ : attr.name ≠ other)
    (attrs : List Attribute) : named other (merge attrs attr) = named other attrs := by
  induction attrs with
  | nil => simp [named, merge, replaceOrAppend, differ]
  | cons head tail ih =>
    simp only [named, merge] at ih ⊢
    by_cases same : head.name = attr.name
    · simp [replaceOrAppend, same, differ]
    · simp [replaceOrAppend, same, List.filter_cons, ih]

/-- Merging in attributes of other names leaves those of a name alone. -/
theorem named_mergeAll_of_ne {added : List Attribute} {other : String}
    (differ : ∀ attr ∈ added, attr.name ≠ other) (attrs : List Attribute) :
    named other (mergeAll attrs added) = named other attrs := by
  induction added generalizing attrs with
  | nil => rfl
  | cons attr rest ih =>
    obtain ⟨first, others⟩ := List.forall_mem_cons.mp differ
    exact (ih others (merge attrs attr)).trans (named_merge_of_ne first attrs)

/-- The parameters of a name are those of its attributes that are passed to the constructor. -/
theorem filter_parameters (name : String) (attrs : List Attribute) :
    ((attrs.filter init).map parameter).filter (fun parameter => parameter.name == name) =
      ((named name attrs).filter init).map parameter := by
  rw [List.filter_map, named, List.filter_filter, List.filter_filter]
  refine congrArg (List.map parameter) (List.filter_congr fun attr _ => ?_)
  exact Bool.and_comm _ _

theorem filter_assignments (name : String) (attrs : List Attribute) :
    (attrs.filterMap assignment?).filter (fun assignment => assignment.target == name) =
      (named name attrs).filterMap assignment? := by
  have target : ∀ attr : Attribute, ∀ assignment ∈ attr.assignment?,
      assignment.target = attr.name := by
    intro attr assignment assigned
    unfold assignment? at assigned
    split at assigned
    · cases assigned
      rfl
    · obtain ⟨_, -, rfl⟩ := Option.map_eq_some_iff.mp assigned
      rfl
  induction attrs with
  | nil => rfl
  | cons attr rest ih =>
    simp only [named] at ih ⊢
    cases assigned : attr.assignment? with
    | none =>
      rw [List.filterMap_cons_none assigned, ih, List.filter_cons]
      split
      · rw [List.filterMap_cons_none assigned]
      · rfl
    | some assignment =>
      rw [List.filterMap_cons_some assigned, List.filter_cons, List.filter_cons,
        target attr assignment assigned]
      split
      · rw [List.filterMap_cons_some assigned, ih]
      · exact ih

end Attribute

/-- A class variable gives no attribute. -/
theorem LocalSummary.attribute?_of_classVariable {types : TypeContext} {summary : LocalSummary}
    (marked : (summary.marked? types .classVariable).isSome = true) (name : String) :
    summary.attribute? types name = none := by
  obtain ⟨inner, isMarked⟩ := Option.isSome_iff_exists.mp marked
  obtain ⟨type, typed, argument⟩ := Option.bind_eq_some_iff.mp isMarked
  rw [attribute?, typed, Option.bind_some, MemberKind.of, argument]
  rfl

/-- No attribute of a class body has the name of a class variable. -/
theorem Body.name_ne_of_classVariable {types : TypeContext} {body : Body} {name : String}
    (marked : (body.marked? types .classVariable name).isSome = true) :
    ∀ attr ∈ body.ownAttributes types, attr.name ≠ name := by
  intro attr listed named
  obtain ⟨other, -, given⟩ := List.mem_filterMap.mp listed
  rw [← attribute?_summary] at given
  obtain rfl : other = name := (LocalSummary.attribute?_name given).symm.trans named
  rw [← summary_marked?] at marked
  rw [LocalSummary.attribute?_of_classVariable marked] at given
  cases given

/-- Decorating a class stores under the name of a class variable what the class inherits under that
name, and the constructor that is added treats it as any other attribute. -/
theorem Reaches.classVariable_keeps_inherited {config : WarningConfig} {state : Analysis}
    (reached : Reaches Operation.Any (Analysis.initial config) state) {id : ClassId}
    {object : ClassObject} (found : state.classes.get? id = some object) {name : String}
    (marked : (object.body.marked? state.types .classVariable name).isSome = true)
    (options : Options) :
    let inherited := Attribute.named name (Attribute.mergeAll [] (state.classes.inheritedParts id))
    ∃ after stored attrs, Decoration.decorate options id state = .ok after.point after ∧
      after.classes.get? id = some stored ∧ stored.fields = some attrs ∧
      Attribute.named name attrs = inherited ∧
      (options.init = true → object.members.contains constructorName = false →
        ∃ function assignments,
          stored.members.find? constructorName = some (.single (.function function) after.point) ∧
          function.signature.parameters.tail.filter (fun parameter => parameter.name == name) =
            (inherited.filter Attribute.init).map Attribute.parameter ∧
          function.body? = some assignments ∧
          assignments.filter (fun assignment => assignment.target == name) =
            inherited.filterMap Attribute.assignment?) := by
  intro inherited
  obtain ⟨after, errors, warnings, ran, completed⟩ :=
    Decoration.decorate_steps reached.basesFirst found options
  have stored := Decoration.storedClass_eq state options id after.point object
  have nowFound : after.classes.get? id =
      some (Decoration.storedClass state options id after.point object) := by
    rw [completed.classes, ClassTable.get?_modify_self found]
  have attributes : Attribute.named name (state.prescribed state.types id object.body) =
      inherited := by
    rw [Analysis.prescribed, Attribute.mergeAll_append]
    exact Attribute.named_mergeAll_of_ne (Body.name_ne_of_classVariable marked) _
  refine ⟨after, _, state.prescribed state.types id object.body, ran, nowFound, by rw [stored],
    attributes, fun wanted missing => ?_⟩
  refine ⟨constructorFor object.type (state.prescribed state.types id object.body), _, ?_, ?_, rfl,
    ?_⟩
  · rw [Decoration.storedClass_constructor, wanted, missing]
    rfl
  · rw [← attributes]
    exact Attribute.filter_parameters name _
  · rw [← attributes]
    exact Attribute.filter_assignments name _

namespace Sample

/-- The statement `class Shadow(Base): x: ClassVar[int]`. -/
def shadow : ClassDefinition :=
  (ClassDefinition.start "Shadow" [⟨0⟩] none).annotate "x" ⟨18⟩ none

/-- The state after the statement of a base class with an attribute of that name, its decoration,
`ClassVar[int]`, and the statement. -/
def definedShadow : Analysis :=
  Operation.run (Operation.run (Operation.run (Operation.run (.initial .standard) (.define base))
    (.decorate .fresh ⟨0⟩)) (.container Container.classVariable.qualified [.int])) (.define shadow)

theorem reaches_definedShadow : Reaches Operation.Any (.initial .standard) definedShadow :=
  .step (.step (.step (.step .refl (.define base) trivial) (.decorate .fresh ⟨0⟩) trivial)
    (.container Container.classVariable.qualified [.int]) trivial) (.define shadow) trivial

/-- The inherited attribute is stored, and it is a parameter of the constructor. -/
theorem shadow_keeps_inherited :
    ∃ after stored attrs function,
      Decoration.decorate {} ⟨1⟩ definedShadow = .ok after.point after ∧
      after.classes.get? ⟨1⟩ = some stored ∧ stored.fields = some attrs ∧
      Attribute.named "x" attrs = [⟨"x", .int, true, none⟩] ∧
      stored.members.find? constructorName = some (.single (.function function) after.point) ∧
      function.signature.parameters.tail.filter (fun parameter => parameter.name == "x") =
        [⟨"x", .int, none⟩] := by
  obtain ⟨after, stored, attrs, ran, nowFound, fields, named, constructs⟩ :=
    @Reaches.classVariable_keeps_inherited _ _ reaches_definedShadow ⟨1⟩ _ rfl "x" (by decide)
      {}
  obtain ⟨function, _, installed, parameters, -⟩ := constructs rfl (by decide)
  rw [ClassTable.inheritedParts] at named parameters
  exact ⟨after, stored, attrs, function, ran, nowFound, fields, named, installed, parameters⟩

/-- A class variable among the attributes of its class, the parameters of the constructor that is
added for the class, and the attributes that this constructor assigns. -/
theorem classVariable_among_attributes :
    ∃ state object, Reaches Operation.Any (.initial .standard) state ∧
      state.classes.get? ⟨1⟩ = some object ∧
      (object.body.marked? state.types .classVariable "x").isSome = true ∧
      ∃ after stored attrs function assignments,
        Decoration.decorate {} ⟨1⟩ state = .ok after.point after ∧
        after.classes.get? ⟨1⟩ = some stored ∧ stored.fields = some attrs ∧
        "x" ∈ attrs.map Attribute.name ∧
        stored.members.find? constructorName = some (.single (.function function) after.point) ∧
        "x" ∈ function.signature.parameterNames ∧ function.body? = some assignments ∧
        "x" ∈ assignments.map AttributeAssignment.target := by
  refine ⟨definedShadow, _, reaches_definedShadow, rfl, by decide, _, _,
    [⟨"x", .int, true, none⟩], constructorFor ⟨19⟩ [⟨"x", .int, true, none⟩], _, rfl, rfl, rfl,
    ?_, rfl, ?_, rfl, ?_⟩
  · decide
  · decide
  · decide

end Sample

end DataclassSynthesis
