import DataclassSynthesis.Proofs.DecorationFootprint
import DataclassSynthesis.Proofs.Inheritance
import DataclassSynthesis.Proofs.OwnAttributes
import Mathlib.Tactic.Set

/-!
# The outcome of a decoration

Decorating a class that exists succeeds whenever bases are older than the classes derived from
them. It stores the inherited attributes merged with those of the class body, and adds the
constructor of the stored attributes unless it is not wanted or the class has one
(`DataclassSynthesis.Decoration.decorate_spec`). Decorating a class that does not exist fails and
changes nothing.
-/

namespace DataclassSynthesis

/-- A class with the constructor of the given attributes, produced at the given point, unless it is
not wanted or the class has one. -/
def ClassObject.withConstructor (options : Options) (attrs : List Attribute) (point : PointId)
    (object : ClassObject) : ClassObject :=
  if options.init && !object.members.contains constructorName then
    object.setMember constructorName
      (.single (.function (constructorFor object.type attrs)) point)
  else object

namespace Decoration

/-- What decorating a class does to the state, given the attributes collected from its body: the
types grow by the types of the checked defaults, and no class but the decorated one changes. -/
structure Outcome (options : Options) (id : ClassId) (own : List Attribute)
    (before after : Analysis) : Prop where
  types : ∀ object, before.classes.get? id = some object → ∃ typed,
    typed ⊆ checkedValues (object.body.locals true .firstAnnotated).entries ∧
      after.types = (Value.types typed before.types).2
  classes : ∃ edit, ClassObject.IsTableEdit edit ∧ after.classes = before.classes.modify id
    fun object => ((edit object).setFields
      (some (Attribute.mergeAll [] (before.classes.inheritedParts id ++ own)))).withConstructor
        options (Attribute.mergeAll [] (before.classes.inheritedParts id ++ own)) after.point

/-- A decoration lets the types grow. -/
theorem Outcome.grows {options : Options} {id : ClassId} {own : List Attribute}
    {before after : Analysis} (outcome : Outcome options id own before after)
    {object : ClassObject} (found : before.classes.get? id = some object) :
    before.types.Grows after.types := by
  obtain ⟨typed, -, grown⟩ := outcome.types object found
  exact grown ▸ Value.types_grows typed before.types

/-- Repetitions can be reported in every state. -/
theorem reportRepetitions_succeeds (repetitions : List Body.Repetition) (state : Analysis) :
    ∃ after, reportRepetitions repetitions state = .ok () after := by
  induction repetitions generalizing state with
  | nil => exact ⟨state, rfl⟩
  | cons repetition rest ih =>
    simp only [reportRepetitions]
    have warned : AnalysisM.warn (.annotatedTwice repetition.name repetition.first
        repetition.second) state = .ok () { state with
          log := state.log.warn
            (.annotatedTwice repetition.name repetition.first repetition.second) } := rfl
    rw [bind_of_ok warned]
    exact ih _

theorem reportOrder_succeeds (object : ClassObject) (attrs : List Attribute) (state : Analysis) :
    ∃ after, reportOrder object attrs state = .ok () after := by
  unfold reportOrder
  cases Attribute.requiredAfterDefault attrs with
  | some attr => exact ⟨_, rfl⟩
  | none => exact ⟨_, rfl⟩

/-- The constructor is added to the class as it stands. -/
theorem installConstructor_eq (options : Options) {id : ClassId} (attrs : List Attribute)
    {state : Analysis} {object : ClassObject} (found : state.classes.get? id = some object) :
    installConstructor options id attrs state = .ok () { state with
      classes := state.classes.modify id
        (ClassObject.withConstructor options attrs state.point) } := by
  have got := AnalysisM.getClass_of_found found
  rw [installConstructor, bind_of_ok got]
  by_cases wanted : options.init && !object.members.contains constructorName
  · have built : AnalysisM.ofExcept (state.constructor? id attrs) state =
        .ok (.single (.function (constructorFor object.type attrs)) state.point) state := by
      simp only [Analysis.constructor?, Analysis.class?, found]
      rfl
    rw [if_pos wanted, get_bind, bind_of_ok built]
    have same : state.classes.modify id (fun current => current.setMember constructorName
          (.single (.function (constructorFor object.type attrs)) state.point)) =
        state.classes.modify id (ClassObject.withConstructor options attrs state.point) := by
      refine ClassTable.modify_congr found ?_
      rw [ClassObject.withConstructor, if_pos wanted]
    rw [← same]
    exact AnalysisM.modifyClass_of_found found _
  · have same : state.classes.modify id (ClassObject.withConstructor options attrs state.point) =
        state.classes := by
      rw [← state.classes.modify_id id]
      rw [ClassTable.modify_modify]
      refine ClassTable.modify_congr found ?_
      rw [Function.comp_apply, ClassObject.withConstructor, if_neg wanted]
    rw [if_neg wanted, same]
    rfl

/-- The constructor does not belong to the names from which attributes are collected. -/
theorem locals_ordinary (body : Body) :
    ∀ entry ∈ (body.locals true .firstAnnotated).entries, constructorName ≠ entry.1 := by
  intro entry member named
  rw [Body.locals_entries] at member
  obtain ⟨name, listed, rfl⟩ := List.mem_map.mp member
  change constructorName = name at named
  rw [Body.attributeNames, List.mem_eraseDups, List.mem_filter, ← named] at listed
  exact absurd listed.2 (by decide)

/-- A name from which attributes are collected has the type of an annotation. -/
theorem exists_annotation_of_locals {body : Body} {entry : String × LocalSummary}
    (member : entry ∈ (body.locals true .firstAnnotated).entries) {type : TypeId}
    (typed : type ∈ entry.2.type) : ∃ annotated ∈ body.annotations, annotated.2 = type := by
  rw [Body.locals_entries] at member
  obtain ⟨name, -, rfl⟩ := List.mem_map.mp member
  rw [Body.summary_type, Option.mem_def, Body.lastType?] at typed
  obtain ⟨annotated, listed, same⟩ := List.mem_map.mp (List.mem_of_getLast? typed)
  exact ⟨annotated, (List.mem_filter.mp listed).1, same⟩

/-- A name from which attributes are collected has the value of an assignment. -/
theorem exists_assignment_of_locals {body : Body} {entry : String × LocalSummary}
    (member : entry ∈ (body.locals true .firstAnnotated).entries) {var : Variable}
    (assigned : var ∈ entry.2.value) : ∃ assignment ∈ body.assignments, assignment.2 = var := by
  rw [Body.locals_entries] at member
  obtain ⟨name, -, rfl⟩ := List.mem_map.mp member
  rw [Body.summary_value, Option.mem_def, Body.lastValue?] at assigned
  obtain ⟨assignment, listed, same⟩ := List.mem_map.mp (List.mem_of_getLast? assigned)
  exact ⟨assignment, (List.mem_filter.mp listed).1, same⟩

/-- The names from which attributes are collected have known types if every annotation does. -/
theorem locals_known {types : TypeContext} {body : Body}
    (known : ∀ entry ∈ body.annotations, types.Knows entry.2) :
    ∀ entry ∈ (body.locals true .firstAnnotated).entries, ∀ type ∈ entry.2.type,
      types.Knows type := by
  intro entry member type typed
  obtain ⟨annotated, listed, rfl⟩ := exists_annotation_of_locals member typed
  exact known annotated listed

/-- The values that are checked are those of assignments of the body, and defaults that they
describe. -/
theorem checkedValues_locals_subset (body : Body) :
    checkedValues (body.locals true .firstAnnotated).entries ⊆
      body.assignments.flatMap fun entry => entry.2.checkedValues := by
  intro value checked
  obtain ⟨entry, member, among⟩ := List.mem_flatMap.mp checked
  cases assigned : entry.2.value with
  | none =>
    rw [assigned] at among
    cases among
  | some var =>
    rw [assigned] at among
    obtain ⟨assignment, listed, rfl⟩ := exists_assignment_of_locals member assigned
    exact List.mem_flatMap.mpr ⟨assignment, listed, among⟩

/-- Collecting from a class body gives the attributes of the body. -/
theorem collect_body {id : ClassId} (body : Body) {state : Analysis} {object : ClassObject}
    (found : state.classes.get? id = some object) :
    ∃ after, collect id (body.locals true .firstAnnotated).entries state =
        .ok (body.ownAttributes state.types) after ∧
      Footprint id (checkedValues (body.locals true .firstAnnotated).entries) state after := by
  obtain ⟨after, collects, footprint⟩ := collect_spec (locals_ordinary body) found
  rw [Body.filterMap_locals] at collects
  exact ⟨after, collects, footprint⟩

/-- Collecting does not concern what a class inherits. -/
theorem Footprint.inherited_eq {id : ClassId} {values : List Value} {before after : Analysis}
    (footprint : Footprint id values before after) (ordered : before.classes.BasesFirst)
    {object : ClassObject} (found : before.classes.get? id = some object) :
    after.classes.inherited id =
      .ok (Attribute.mergeAll [] (before.classes.inheritedParts id)) := by
  obtain ⟨edit, tables, edited⟩ := footprint.classes
  have nowFound : after.classes.get? id = some (edit object) := by
    rw [edited, ClassTable.get?_modify_self found]
  have stillOrdered : after.classes.BasesFirst := by
    rw [edited]
    exact ordered.modify id fun object => by rw [tables.tables object]
  rw [ClassTable.inherited_eq stillOrdered nowFound, edited,
    ClassTable.inheritedParts_modify tables]

/-- Storing the attributes of a class and adding its constructor succeeds, and edits the class
only. -/
theorem store_eq (options : Options) {id : ClassId} (attrs : List Attribute) {state : Analysis}
    {object : ClassObject} (found : state.classes.get? id = some object) :
    (do
      AnalysisM.modifyClass id fun current => current.setFields (some attrs)
      installConstructor options id attrs
      let state ← get
      pure state.point : AnalysisM PointId) state = .ok state.point { state with
        classes := state.classes.modify id fun object =>
          (object.setFields (some attrs)).withConstructor options attrs state.point } := by
  have stores := AnalysisM.modifyClass_of_found found fun current => current.setFields (some attrs)
  have nowFound := ClassTable.get?_modify_self found fun current => current.setFields (some attrs)
  rw [bind_of_ok stores, bind_of_ok (installConstructor_eq options attrs nowFound), get_bind,
    ClassTable.modify_modify]
  rfl

/-- Decorating an existing class succeeds and gives the point at which it ends. The attributes
collected from the body are those that the body gives. -/
theorem decorate_spec {state : Analysis} (ordered : state.classes.BasesFirst) {id : ClassId}
    {object : ClassObject} (found : state.classes.get? id = some object) (options : Options) :
    ∃ after, decorate options id state = .ok after.point after ∧
      Outcome options id (object.body.ownAttributes state.types) state after := by
  have got := AnalysisM.getClass_of_found found
  obtain ⟨reported, repeats⟩ := reportRepetitions_succeeds object.body.repetitions state
  obtain ⟨sameTypes, sameClasses⟩ :=
    definesNothing_reportRepetitions object.body.repetitions state
  rw [stateAfter_of_ok repeats] at sameTypes sameClasses
  obtain ⟨collected, collects, footprint⟩ := collect_body object.body (sameClasses ▸ found)
  have inherits := footprint.inherited_eq (sameClasses ▸ ordered) (sameClasses ▸ found)
  rw [sameClasses] at inherits
  obtain ⟨typed, among, grown⟩ := footprint.types
  obtain ⟨edit, tables, edited⟩ := footprint.classes
  rw [sameTypes] at grown collects
  rw [sameClasses] at edited
  set own := object.body.ownAttributes state.types
  have merges : AnalysisM.ofExcept (collected.classes.inherited id) collected =
      .ok (Attribute.mergeAll [] (state.classes.inheritedParts id)) collected := by
    rw [inherits]
    rfl
  have merged : Attribute.mergeAll (Attribute.mergeAll [] (state.classes.inheritedParts id)) own =
      Attribute.mergeAll [] (state.classes.inheritedParts id ++ own) :=
    (Attribute.mergeAll_append ..).symm
  generalize stored : Attribute.mergeAll [] (state.classes.inheritedParts id ++ own) = attrs
    at merged
  obtain ⟨warned, orders⟩ := reportOrder_succeeds object attrs collected
  obtain ⟨stillTypes, stillClasses⟩ := definesNothing_reportOrder object attrs collected
  rw [stateAfter_of_ok orders] at stillTypes stillClasses
  have nowFound : warned.classes.get? id = some (edit object) := by
    rw [stillClasses, edited, ClassTable.get?_modify_self found]
  refine ⟨{ warned with
    classes := warned.classes.modify id fun object =>
      (object.setFields (some attrs)).withConstructor options attrs warned.point },
    ?_, ?_, edit, tables, ?_⟩
  · rw [decorate, bind_of_ok got, bind_of_ok repeats, bind_of_ok collects, get_bind,
      bind_of_ok merges]
    simp only [merged]
    rw [bind_of_ok orders, store_eq options attrs nowFound]
  · intro other alsoFound
    obtain rfl : object = other := Option.some.inj (found.symm.trans alsoFound)
    exact ⟨typed, among, stillTypes.trans grown⟩
  · rw [stored, stillClasses, edited, ClassTable.modify_modify]
    rfl

/-- Decorating a class that does not exist fails and changes nothing. -/
theorem decorate_of_missing {state : Analysis} {id : ClassId}
    (missing : state.classes.get? id = none) (options : Options) :
    decorate options id state = .error (.unknownClass id) state := by
  rw [decorate, bind_of_error (AnalysisM.getClass_of_missing missing)]

end Decoration

end DataclassSynthesis
