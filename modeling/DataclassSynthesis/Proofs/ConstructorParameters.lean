import DataclassSynthesis.Proofs.ClassVariables
import DataclassSynthesis.Proofs.ConstructorHistory

/-!
# The parameters of an added constructor

Merging keeps the names of attributes distinct, so the parameters after the receiver have distinct
names, each of them that of the attribute to which the constructor assigns it. The receiver is added
to them under a fixed name, whatever the attributes are called. So an added constructor is well
formed exactly when no constructor attribute has the name of the receiver
(`DataclassSynthesis.Reaches.constructor_wellFormed_iff`).
-/

namespace DataclassSynthesis

/-- The parameters of a constructor have distinct names, and each of its statements that assigns a
parameter refers to exactly one of them, which is not the receiver and has the type of the attribute
that it is assigned to. -/
structure Function.WellFormedFor (attrs : List Attribute) (function : Function) : Prop where
  distinct : function.signature.parameterNames.Nodup
  refers : ∀ assignments ∈ function.body?, ∀ target source,
    ⟨target, .parameter source⟩ ∈ assignments →
      ∃ attr ∈ attrs, ∃ parameter ∈ function.signature.parameters.tail,
        attr.name = target ∧ parameter.type = attr.type ∧
        function.signature.parameters.filter (fun other => other.name == source) = [parameter]

/-- The name of the receiver of an added constructor. -/
def receiverName : String := "self"

namespace Attribute

/-- A listed attribute is the only one of its name if no name is listed twice. -/
theorem named_of_mem {attrs : List Attribute} (distinct : (attrs.map name).Nodup) {attr : Attribute}
    (listed : attr ∈ attrs) : named attr.name attrs = [attr] := by
  induction attrs with
  | nil => cases listed
  | cons first rest ih =>
    obtain ⟨fresh, others⟩ := List.nodup_cons.mp distinct
    rcases List.mem_cons.mp listed with rfl | later
    · have absent : named attr.name rest = [] :=
        List.filter_eq_nil_iff.mpr fun other among same =>
          fresh (beq_iff_eq.mp same ▸ List.mem_map_of_mem among)
      rw [named, List.filter_cons, if_pos (beq_self_eq_true _)]
      exact congrArg (attr :: ·) absent
    · have differ : ¬ (first.name == attr.name) = true := fun same =>
        fresh (beq_iff_eq.mp same ▸ List.mem_map_of_mem later)
      rw [named, List.filter_cons, if_neg differ]
      exact ih others later

/-- The parameters of a constructor are the receiver and the constructor attributes. -/
theorem parameterNames_constructorFor (receiver : TypeId) (attrs : List Attribute) :
    (constructorFor receiver attrs).signature.parameterNames =
      receiverName :: (attrs.filter init).map name := by
  simp only [constructorFor, Signature.parameterNames, List.map_cons, List.map_map, receiverName]
  rfl

/-- An attribute that is assigned a parameter is a constructor attribute, and the parameter has its
name. -/
theorem init_of_assignment? {attr : Attribute} {target source : String}
    (made : attr.assignment? = some ⟨target, .parameter source⟩) :
    attr.init = true ∧ attr.name = target ∧ attr.name = source := by
  unfold assignment? at made
  split at made
  · next wanted =>
    cases made
    exact ⟨wanted, rfl, rfl⟩
  · obtain ⟨_, -, same⟩ := Option.map_eq_some_iff.mp made
    cases same

/-- The attributes that are passed to the constructor repeat no name. -/
theorem nodup_filter_init {attrs : List Attribute} (distinct : (attrs.map name).Nodup) :
    ((attrs.filter init).map name).Nodup :=
  distinct.sublist (List.filter_sublist.map name)

end Attribute

open Attribute in
/-- The constructor of attributes with distinct names is well formed exactly when none of its
attributes has the name of the receiver. -/
theorem wellFormedFor_constructorFor_iff {attrs : List Attribute}
    (distinct : (attrs.map Attribute.name).Nodup) (receiver : TypeId) :
    (constructorFor receiver attrs).WellFormedFor attrs ↔
      ∀ attr ∈ attrs, attr.init = true → attr.name ≠ receiverName := by
  constructor
  · intro formed attr listed wanted named
    have names := formed.distinct
    rw [Attribute.parameterNames_constructorFor] at names
    refine (List.nodup_cons.mp names).1 ?_
    rw [← named]
    exact List.mem_map_of_mem (List.mem_filter.mpr ⟨listed, wanted⟩)
  · intro unlike
    refine ⟨?_, ?_⟩
    · rw [Attribute.parameterNames_constructorFor]
      refine List.nodup_cons.mpr ⟨fun present => ?_, Attribute.nodup_filter_init distinct⟩
      obtain ⟨attr, listed, named⟩ := List.mem_map.mp present
      exact unlike attr (List.mem_filter.mp listed).1 (List.mem_filter.mp listed).2 named
    · rintro assignments isBody target source assigned
      obtain rfl := Option.some.inj isBody
      obtain ⟨attr, listed, made⟩ := List.mem_filterMap.mp assigned
      obtain ⟨wanted, rfl, rfl⟩ := Attribute.init_of_assignment? made
      have kept := List.mem_filter.mpr ⟨listed, wanted⟩
      have own : named attr.name attrs = [attr] := named_of_mem distinct listed
      refine ⟨attr, listed, attr.parameter, List.mem_map_of_mem kept, rfl, rfl, ?_⟩
      have receives : ¬ (receiverName == attr.name) = true := fun same =>
        unlike attr listed wanted (beq_iff_eq.mp same).symm
      have parameters : (constructorFor receiver attrs).signature.parameters =
          ⟨receiverName, receiver, none⟩ :: (attrs.filter Attribute.init).map Attribute.parameter :=
        rfl
      rw [parameters, List.filter_cons, if_neg receives, filter_parameters, own,
        List.filter_cons_of_pos wanted]
      rfl

/-- The attributes that a decoration stores have distinct names. -/
theorem Decoration.Outcome.nodup_fields {options : Options} {id : ClassId} {own : List Attribute}
    {before after : Analysis} (outcome : Outcome options id own before after)
    {object stored : ClassObject} (found : before.classes.get? id = some object)
    (nowFound : after.classes.get? id = some stored) {attrs : List Attribute}
    (fields : stored.fields = some attrs) : (attrs.map Attribute.name).Nodup := by
  obtain ⟨edit, -, edited⟩ := outcome.classes
  rw [edited, ClassTable.get?_modify_self found] at nowFound
  obtain rfl := Option.some.inj nowFound
  have merged : (((edit object).setFields
      (some (Attribute.mergeAll [] (before.classes.inheritedParts id ++ own)))).withConstructor
        options (Attribute.mergeAll [] (before.classes.inheritedParts id ++ own))
          after.point).fields =
      some (Attribute.mergeAll [] (before.classes.inheritedParts id ++ own)) := by
    rw [ClassObject.withConstructor]
    split <;> rfl
  obtain rfl := Option.some.inj (merged.symm.trans fields)
  exact Attribute.nodup_mergeAll _ List.nodup_nil

/-- A constructor that the class body does not write was added by a decoration, which built it from
the attributes that it stored. Its parameters after the receiver have distinct names, and it is well
formed exactly when none of them has the name of the receiver. -/
theorem Reaches.constructor_wellFormed_iff {config : WarningConfig} {state : Analysis}
    (reached : Reaches Operation.Any (Analysis.initial config) state) {id : ClassId}
    {object : ClassObject} (found : state.classes.get? id = some object)
    (unwritten : constructorName ∉ object.body.assignments.map Prod.fst)
    (present : object.members.contains constructorName = true) :
    ∃ installed first attrs, Reaches Operation.Any installed state ∧
      installed.classes.get? id = some first ∧ first.fields = some attrs ∧
      object.members.find? constructorName =
        some (.single (.function (constructorFor object.type attrs)) installed.point) ∧
      (constructorFor object.type attrs).signature.parameterNames.tail.Nodup ∧
      ((constructorFor object.type attrs).WellFormedFor attrs ↔
        ∀ attr ∈ attrs, attr.init = true → attr.name ≠ receiverName) := by
  obtain ⟨before, decorated, options, point, installed, start, there, lacked, wanted, ran, rest⟩ :=
    reached.addedConstructor found unwritten present
  obtain ⟨after, alsoRan, outcome⟩ := Decoration.decorate_spec start.basesFirst there options
  obtain ⟨rfl, rfl⟩ := EStateM.Result.ok.inj (alsoRan.symm.trans ran)
  obtain ⟨first, attrs, firstFound, fields, constructed⟩ := outcome.installs wanted there lacked
  have nowPresent : first.members.contains constructorName = true := by
    rw [NameTable.contains_eq_isSome_find?, constructed, Option.isSome_some]
  obtain ⟨-, current, currentFound, kept⟩ :=
    rest.constructor_kept (outcome.basesFirst start.basesFirst) firstFound nowPresent
  obtain rfl := Option.some.inj (currentFound.symm.trans found)
  have distinct := outcome.nodup_fields there firstFound fields
  refine ⟨after, first, attrs, rest, firstFound, fields, ?_, ?_,
    wellFormedFor_constructorFor_iff distinct _⟩
  · rw [kept.constructor, constructed, kept.type]
  · rw [Attribute.parameterNames_constructorFor, List.tail_cons]
    exact Attribute.nodup_filter_init distinct

namespace Sample

/-- The state after a class statement without a decorated base and the decoration of the class. -/
def decorated (definition : ClassDefinition) : Analysis :=
  Operation.run (Operation.run (.initial .standard) (.define definition)) (.decorate .fresh ⟨0⟩)

theorem reaches_decorated (definition : ClassDefinition) :
    Reaches Operation.Any (.initial .standard) (decorated definition) :=
  .step (.step .refl (.define definition) trivial) (.decorate .fresh ⟨0⟩) trivial

/-- The constructor for an attribute of an ordinary name is well formed. -/
theorem base_constructor_wellFormed :
    ∃ object attrs point, (decorated base).classes.get? ⟨0⟩ = some object ∧
      object.members.find? constructorName =
        some (.single (.function (constructorFor object.type attrs)) point) ∧
      (constructorFor object.type attrs).WellFormedFor attrs := by
  obtain ⟨installed, first, attrs, -, -, -, constructed, -, formed⟩ :=
    @Reaches.constructor_wellFormed_iff _ _ (reaches_decorated base) ⟨0⟩ _ rfl nofun rfl
  refine ⟨_, attrs, installed.point, rfl, constructed, formed.mpr fun attr listed wanted => ?_⟩
  have built : ((decorated base).classes.get? ⟨0⟩).bind (·.members.find? constructorName) =
      some (.single (.function (constructorFor ⟨17⟩ [⟨"x", .int, true, none⟩]))
        Program.entry) := rfl
  have same := constructed.symm.trans built
  simp only [Variable.single, Option.some.injEq, Variable.mk.injEq, List.cons.injEq,
    Binding.mk.injEq, Value.function.injEq] at same
  have names := congrArg (fun function => function.signature.parameterNames.tail) same.1.1
  rw [Attribute.parameterNames_constructorFor, List.tail_cons] at names
  have among : attr.name ∈ (attrs.filter Attribute.init).map Attribute.name :=
    List.mem_map_of_mem (List.mem_filter.mpr ⟨listed, wanted⟩)
  rw [names] at among
  intro same
  have differ : "x" ≠ receiverName := by decide
  exact differ ((List.mem_singleton.mp among).symm.trans same)

/-- The statement `class Person: self: int`. -/
def person : ClassDefinition := (ClassDefinition.start "Person" [] none).annotate "self" .int none

/-- The constructor for an attribute with the name of the receiver has two parameters of that
name. -/
theorem constructor_repeats_receiver :
    ∃ state id object function point, Reaches Operation.Any (.initial .standard) state ∧
      state.classes.get? id = some object ∧ object.body.assignments = [] ∧
      object.members.find? constructorName = some (.single (.function function) point) ∧
      function.signature.parameterNames = ["self", "self"] ∧
      function.body? = some [⟨"self", .parameter "self"⟩] ∧
      ¬ ∃ attrs, function.WellFormedFor attrs := by
  refine ⟨decorated person, ⟨0⟩, _, constructorFor ⟨17⟩ [⟨"self", .int, true, none⟩], _,
    reaches_decorated person, rfl, rfl, rfl, rfl, rfl, ?_⟩
  rintro ⟨attrs, formed⟩
  exact (List.nodup_cons.mp formed.distinct).1 List.mem_cons_self

end Sample

end DataclassSynthesis
