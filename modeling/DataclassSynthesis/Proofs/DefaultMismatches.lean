import DataclassSynthesis.Proofs.ArisenStates
import DataclassSynthesis.Proofs.DecorationSteps

/-!
# The reports about defaults

Decorating a class reports each own attribute whose default has a visible binding of a wrong type,
once, in the order of the first annotations, and about the first such binding. What is visible
depends on the constructor variables up to the attribute, and the types in which a value is judged
on the values that were typed before it. For a body over types that can be taken apart, the reports
can be foreseen in the types before the decoration. What is stored does not depend on what is
reported (`DataclassSynthesis.Reaches.decorate_reports_mismatches`).
-/

namespace DataclassSynthesis

open TypeContext

namespace Body

variable {types : TypeContext} {body : Body} {name : String}

/-- The first statement that annotates a name. -/
def firstAnnotation? (body : Body) (name : String) : Option Statement :=
  body.find? fun statement => statement.name == name && statement.annotated?.isSome

/-- The type that the last annotation of a name applies a marker to; the unknown type when the
marker is bare. -/
def marked? (types : TypeContext) (marker : Container) (body : Body) (name : String) :
    Option TypeId :=
  (body.lastType? name).bind fun type => types.argumentOf? type marker.qualified

/-- The number of constructor variables among the attribute names before a name. -/
def instancesBefore (types : TypeContext) (body : Body) (name : String) : Nat :=
  (body.attributeNames.takeWhile (· != name)).countP fun earlier =>
    (body.marked? types .initVariable earlier).isSome

/-- The number of constructor variables among the attribute names up to a name. -/
def instancesUpTo (types : TypeContext) (body : Body) (name : String) : Nat :=
  body.instancesBefore types name + if (body.marked? types .initVariable name).isSome then 1 else 0

/-- The attribute that a body gives for a name: that of its last annotation and its last value. -/
def ownAttribute? (types : TypeContext) (body : Body) (name : String) : Option Attribute :=
  (body.lastType? name).bind fun type => attributeOf? types name type (body.lastValue? name)

/-- The values of the default of a name that are visible when it is checked, after the instances of
the constructor variables up to the name are created. -/
def seen (state : Analysis) (body : Body) (name : String) : List Value :=
  let made := body.instancesUpTo state.types name
  ((body.ownAttribute? state.types name).map
    (Attribute.seen (state.programAfter made) (state.pointAfter made))).getD []

/-- The types when the default of a name is checked: the visible values of the defaults of the names
before it have been typed. -/
def typesBefore (state : Analysis) (body : Body) (name : String) : TypeContext :=
  (Value.types ((body.attributeNames.takeWhile (· != name)).flatMap (body.seen state))
    state.types).2

/-- The report about the default of a name, which points at the first annotation of the name. -/
def mismatch? (state : Analysis) (body : Body) (name : String) : Option CheckError := do
  let first ← body.firstAnnotation? name
  let attr ← body.ownAttribute? state.types name
  let made := body.instancesUpTo state.types name
  attr.mismatch? (state.programAfter made) (state.pointAfter made) (body.typesBefore state name)
    first.span

/-- The report about the default of a name as it can be foreseen in the types of the state. -/
def foreseen? (state : Analysis) (body : Body) (name : String) : Option CheckError := do
  let first ← body.firstAnnotation? name
  let attr ← body.ownAttribute? state.types name
  let made := body.instancesUpTo state.types name
  attr.foreseen? (state.programAfter made) (state.pointAfter made) state.types first.span

/-- The marker of a summary is that of the last annotation. -/
theorem summary_marked? (types : TypeContext) (marker : Container) (body : Body) (name : String) :
    (body.summary name).marked? types marker = body.marked? types marker name := by
  rw [LocalSummary.marked?, summary_type, marked?]

/-- The first annotation of a name is the first one among the statements about it. -/
theorem find?_about (body : Body) (name : String) :
    (body.about name).find? (·.annotated?.isSome) = body.firstAnnotation? name := by
  simp only [about, firstAnnotation?, List.find?_filter, Bool.decide_and, Bool.decide_eq_true]

/-- No attribute name comes twice. -/
theorem nodup_attributeNames (body : Body) : body.attributeNames.Nodup := by
  have distinct := (body.locals true .firstAnnotated).distinct
  rw [locals_entries, List.map_map] at distinct
  simpa only [Function.comp_def, List.map_id'] using distinct

/-- An annotated name is annotated first somewhere, and its summary points there. -/
theorem exists_firstAnnotation {type : TypeId} (typed : body.lastType? name = some type) :
    ∃ first, body.firstAnnotation? name = some first ∧ (body.summary name).span = first.span := by
  rw [← summary_type] at typed
  obtain ⟨statement, about, annotated⟩ := List.mem_filterMap.mp (List.mem_of_getLast? typed)
  have found : ((body.about name).find? (·.annotated?.isSome)).isSome := by
    rw [List.find?_isSome]
    exact ⟨statement, about, by rw [annotated, Option.isSome_some]⟩
  obtain ⟨first, isFirst⟩ := Option.isSome_iff_exists.mp found
  refine ⟨first, (body.find?_about name).symm.trans isFirst, ?_⟩
  simp only [summary, isFirst]

/-- A name is checked after the instances before it and its own. -/
theorem instancesBefore_add_instances (types : TypeContext) (body : Body) (name : String) :
    body.instancesBefore types name + (body.summary name).instances types =
      body.instancesUpTo types name := by
  rw [LocalSummary.instances, summary_marked?, instancesUpTo]

/-- What a summary shows of its default is what the body does. -/
theorem seen_summary (state : Analysis) (body : Body) (name : String) :
    (body.summary name).seen state (body.instancesBefore state.types name) name =
      body.seen state name := by
  rw [LocalSummary.seen, instancesBefore_add_instances, attribute?_summary, seen, ownAttribute?]

/-- The report about a name is the one about its summary, after the values of earlier names. -/
theorem mismatch?_summary (state : Analysis) (body : Body) (name : String) :
    (body.summary name).mismatch? state (body.instancesBefore state.types name)
        ((body.attributeNames.takeWhile (· != name)).flatMap (body.seen state)) name =
      body.mismatch? state name := by
  rw [LocalSummary.mismatch?, instancesBefore_add_instances, attribute?_summary, mismatch?,
    ownAttribute?, typesBefore]
  cases typed : body.lastType? name with
  | none => cases body.firstAnnotation? name <;> rfl
  | some type =>
    obtain ⟨first, isFirst, span⟩ := exists_firstAnnotation typed
    rw [isFirst, span]
    rfl

end Body

namespace Decoration

/-- A name is numbered by the constructor variables among the names before it. -/
theorem numbered_summaries (types : TypeContext) (body : Body) {names : List String}
    (distinct : names.Nodup) (made : Nat) :
    numbered types made (names.map fun name => (name, body.summary name)) =
      names.map fun name => (made + (names.takeWhile (· != name)).countP fun earlier =>
        (body.marked? types .initVariable earlier).isSome, name, body.summary name) := by
  induction names generalizing made with
  | nil => rfl
  | cons first rest ih =>
    obtain ⟨fresh, others⟩ := List.nodup_cons.mp distinct
    rw [List.map_cons, numbered, ih others, List.map_cons]
    refine congrArg₂ _ (by simp) (List.map_congr_left fun name listed => ?_)
    have differ : (first != name) = true := bne_iff_ne.mpr fun same => fresh (same ▸ listed)
    have passed : (first :: rest).takeWhile (· != name) = first :: rest.takeWhile (· != name) :=
      List.takeWhile_cons_of_pos differ
    rw [passed, List.countP_cons, LocalSummary.instances, Body.summary_marked?,
      Nat.add_assoc, Nat.add_comm (List.countP _ _)]

/-- The names of a class body are collected in the order of their first annotations, each after the
constructor variables before it. -/
theorem steps_eq (types : TypeContext) (body : Body) :
    steps types body = body.attributeNames.map fun name =>
      (body.instancesBefore types name, name, body.summary name) := by
  rw [steps, Body.locals_entries, numbered_summaries types body body.nodup_attributeNames]
  simp only [Nat.zero_add]
  rfl

/-- The names that are collected are the attribute names of the body. -/
theorem map_name_steps (types : TypeContext) (body : Body) :
    (steps types body).map (fun step => step.2.1) = body.attributeNames := by
  rw [steps_eq, List.map_map]
  exact List.map_id _

/-- Each name is collected with its summary. -/
theorem summary_of_mem_steps {types : TypeContext} {body : Body}
    {step : Nat × String × LocalSummary} (listed : step ∈ steps types body) :
    step.2.1 ∈ body.attributeNames ∧ step.2.2 = body.summary step.2.1 := by
  rw [steps_eq] at listed
  obtain ⟨name, isName, rfl⟩ := List.mem_map.mp listed
  exact ⟨isName, rfl⟩

/-- Of distinct names each is reported after the values of the names before it. -/
theorem mismatches_summaries (state : Analysis) (body : Body) {names : List String}
    (distinct : names.Nodup) (typed : List Value) :
    mismatches state typed (names.map fun name =>
        (body.instancesBefore state.types name, name, body.summary name)) =
      names.filterMap fun name => (body.summary name).mismatch? state
        (body.instancesBefore state.types name)
        (typed ++ (names.takeWhile (· != name)).flatMap (body.seen state)) name := by
  induction names generalizing typed with
  | nil => rfl
  | cons first rest ih =>
    obtain ⟨fresh, others⟩ := List.nodup_cons.mp distinct
    have passed : ∀ name ∈ rest,
        (first :: rest).takeWhile (· != name) = first :: rest.takeWhile (· != name) := by
      intro name listed
      exact List.takeWhile_cons_of_pos (bne_iff_ne.mpr fun same => fresh (same ▸ listed))
    have here : (first :: rest).takeWhile (· != first) = [] :=
      List.takeWhile_cons_of_neg (by simp)
    have later := List.filterMap_congr fun name listed => congrArg
      (fun typed => (body.summary name).mismatch? state (body.instancesBefore state.types name)
        typed name) (congrArg (typed ++ ·.flatMap (body.seen state)) (passed name listed))
    rw [List.map_cons, mismatches, ih others, Body.seen_summary, List.filterMap_cons, here, later]
    simp only [List.flatMap_cons, List.flatMap_nil, List.append_nil, List.append_assoc]
    cases (body.summary first).mismatch? state (body.instancesBefore state.types first) typed first
      <;> rfl

/-- The reports of a decoration are those about the attribute names, in order. -/
theorem mismatches_steps (state : Analysis) (body : Body) :
    mismatches state [] (steps state.types body) =
      body.attributeNames.filterMap (body.mismatch? state) := by
  rw [steps_eq, mismatches_summaries state body body.nodup_attributeNames]
  exact List.filterMap_congr fun name _ => body.mismatch?_summary state name

end Decoration

/-- The values of the default of an attribute are those of an assignment of the body. -/
theorem Body.default_values_subset {types : TypeContext} {body : Body} {name : String}
    {attr : Attribute} (given : body.ownAttribute? types name = some attr) :
    (attr.default.map Variable.values).getD [] ⊆
      ((body.lastValue? name).map Variable.checkedValues).getD [] := by
  obtain ⟨type, -, ofKind⟩ := Option.bind_eq_some_iff.mp given
  rw [← attribute?_of] at ofKind
  exact MemberKind.default_values_subset ofKind

/-- If a class body is over types that can be taken apart, what is reported about the default of a
name can be foreseen in the types before the decoration. -/
theorem Body.mismatch?_eq_foreseen {state : Analysis} (builtins : initial.Grows state.types)
    {body : Body} (grounded : ∀ entry ∈ body.annotations, state.types.Grounded entry.2)
    (checked : ∀ component ∈ body.checkedComponents, state.types.Grounded component)
    (name : String) : body.mismatch? state name = body.foreseen? state name := by
  rw [mismatch?, foreseen?]
  cases body.firstAnnotation? name with
  | none => rfl
  | some first =>
    cases given : body.ownAttribute? state.types name with
    | none => rfl
    | some attr =>
      obtain ⟨type, typed, ofKind⟩ := Option.bind_eq_some_iff.mp given
      rw [← attribute?_of] at ofKind
      obtain ⟨annotated, listed, same⟩ := List.mem_map.mp (List.mem_of_getLast? typed)
      have isGrounded : state.types.Grounded type :=
        same ▸ grounded annotated (List.mem_filter.mp listed).1
      refine Attribute.mismatch?_eq_foreseen builtins (Value.types_grows ..)
        (Decoration.attribute_grounded builtins isGrounded ofKind) ?_ _
      intro value isDefault component mentioned
      have among := Body.default_values_subset given isDefault
      cases assigned : body.lastValue? name with
      | none =>
        rw [assigned] at among
        cases among
      | some var =>
        rw [assigned] at among
        obtain ⟨assignment, about, rfl⟩ := List.mem_map.mp (List.mem_of_getLast? assigned)
        exact checked component (List.mem_flatMap.mpr
          ⟨assignment, (List.mem_filter.mp about).1, List.mem_flatMap.mpr
            ⟨value, among, mentioned⟩⟩)

/-- Decorating a class adds to the errors, besides promoted warnings, exactly the reports about the
own attributes whose defaults have a visible binding of a wrong type. Over types that can be taken
apart these are the reports foreseen in the types before. The attributes and the constructor that it
stores are those that it stores without such a binding. -/
theorem Reaches.decorate_reports_mismatches {config : WarningConfig} {state : Analysis}
    (reached : Reaches Operation.Any (Analysis.initial config) state) {id : ClassId}
    {object : ClassObject} (found : state.classes.get? id = some object) (options : Options) :
    ∃ after stored appended, Decoration.decorate options id state = .ok after.point after ∧
      after.log.errors = state.log.errors ++ appended ∧
      appended.filter (!·.isPromoted) =
        object.body.attributeNames.filterMap (object.body.mismatch? state) ∧
      ((∀ entry ∈ object.body.annotations, state.types.Grounded entry.2) →
        (∀ component ∈ object.body.checkedComponents, state.types.Grounded component) →
        ∀ name, object.body.mismatch? state name = object.body.foreseen? state name) ∧
      after.classes.get? id = some stored ∧
      stored.fields = some (state.prescribed state.types id object.body) ∧
      stored.members.find? constructorName =
        if options.init && !object.members.contains constructorName then
          some (.single (.function (constructorFor object.type
            (state.prescribed state.types id object.body))) after.point)
        else object.members.find? constructorName := by
  obtain ⟨after, errors, warnings, ran, completed⟩ :=
    Decoration.decorate_steps reached.basesFirst found options
  refine ⟨after, _, errors, ran, congrArg Log.errors completed.log,
    completed.reports.trans (Decoration.mismatches_steps ..),
    Body.mismatch?_eq_foreseen reached.arises.sound.builtins, ?_, ?_,
    Decoration.storedClass_constructor ..⟩
  · rw [completed.classes]
    exact ClassTable.get?_modify_self found _
  · rw [Decoration.storedClass_eq]

namespace Sample

/-- The state in which `InitVar[int]` denotes a type. -/
def initVariable : Analysis :=
  Operation.run (.initial .standard) (.container Container.initVariable.qualified [.int])

/-- The statement `class Late: seed: InitVar[int] = "" ...`, and an attribute whose values are a
text that is not visible, a truth value, and bytes that come with the instance of the variable. -/
def late : ClassDefinition :=
  ((ClassDefinition.start "Late" [] none).declare "seed" ⟨17⟩
    (.single (.constant (.str "")) Program.entry)).declare "count" .int
      ⟨[⟨.constant (.str ""), ⟨2⟩⟩, ⟨.constant (.bool true), Program.entry⟩,
        ⟨.constant (.bytes []), ⟨1⟩⟩]⟩

/-- Both defaults are reported, as is foreseen: the instance that the variable creates makes the
bytes visible. -/
theorem late_reports :
    ∃ after stored appended,
      Decoration.decorate {} ⟨0⟩ (Operation.run initVariable (.define late)) =
        .ok after.point after ∧
      after.log.errors = appended ∧
      appended.filter (!·.isPromoted) =
        [.mismatch "seed" "int" "str" "''" ⟨0, 0, 2, 5⟩,
          .mismatch "count" "int" "bytes" "b''" ⟨0, 0, 4, 5⟩] ∧
      late.body.foreseen? (Operation.run initVariable (.define late)) "count" =
        some (.mismatch "count" "int" "bytes" "b''" ⟨0, 0, 4, 5⟩) ∧
      after.classes.get? ⟨0⟩ = some stored ∧
      stored.fields.map (·.map Attribute.name) = some ["seed", "count"] := by
  have reached : Reaches Operation.Any (.initial .standard)
      (Operation.run initVariable (.define late)) :=
    .step (.step .refl (.container Container.initVariable.qualified [.int]) trivial)
      (.define late) trivial
  have known : Reaches Operation.Known (.initial .standard)
      (Operation.run initVariable (.define late)) :=
    .step (.step .refl (.container Container.initVariable.qualified [.int]) (by decide))
      (.define late) (by decide)
  obtain ⟨after, stored, appended, ran, errors, reports, foreseen, nowFound, fields, -⟩ :=
    @Reaches.decorate_reports_mismatches _ _ reached ⟨0⟩ _ rfl {}
  have settled := foreseen
    (fun entry _ => known.coherent.formed.grounded (by revert entry; decide))
    (fun component _ => known.coherent.formed.grounded (by revert component; decide)) "count"
  refine ⟨after, stored, appended, ran, errors, reports.trans (by decide),
    settled.symm.trans (by decide), nowFound, ?_⟩
  rw [fields, Analysis.prescribed, ClassTable.inheritedParts]
  rfl

end Sample

end DataclassSynthesis
