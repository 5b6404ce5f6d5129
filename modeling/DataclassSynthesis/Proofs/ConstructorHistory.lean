import DataclassSynthesis.Proofs.ReachedClasses

/-!
# Constructors and stored attributes over time

A decoration adds a constructor only to a class without one, so a constructor is never replaced,
whether it was written in the body or added by a decoration
(`DataclassSynthesis.Reaches.constructor_kept`). Later decorations of the class may store other
attributes. A constructor that was added is built from the list that was stored with it, and it is
in step with the attributes exactly when that list has the same effect on constructors
(`DataclassSynthesis.Reaches.constructor_since_installed`). Every constructor that the class body
does not write was added in this way (`DataclassSynthesis.Reaches.addedConstructor`).
-/

namespace DataclassSynthesis

/-- What the constructor does for an attribute: it takes a parameter, or it assigns a default, or
it does nothing. -/
inductive ConstructorPart where
  | take (parameter : Parameter)
  | assign (name : String) (value : Variable)

/-- What the constructor does for an attribute, if anything. -/
def Attribute.constructorPart? (attr : Attribute) : Option ConstructorPart :=
  if attr.init then some (.take attr.parameter)
  else attr.default.map (.assign attr.name)

namespace ConstructorPart

/-- The parts of a constructor with the given body and parameters after the receiver. -/
def rebuild : List AttributeAssignment → List Parameter → List ConstructorPart
  | ⟨_, .parameter _⟩ :: body, parameter :: rest => .take parameter :: rebuild body rest
  | ⟨name, .default value⟩ :: body, parameters => .assign name value :: rebuild body parameters
  | _, _ => []

/-- The parameter of a part, if any. -/
def parameter? : ConstructorPart → Option Parameter
  | take parameter => some parameter
  | assign _ _ => none

/-- The assignment of a part. -/
def assignment : ConstructorPart → AttributeAssignment
  | take parameter => ⟨parameter.name, .parameter parameter.name⟩
  | assign name value => ⟨name, .default value⟩

/-- The parts of a constructor are rebuilt from its body and its parameters. -/
theorem rebuild_eq (parts : List ConstructorPart) :
    rebuild (parts.map assignment) (parts.filterMap parameter?) = parts := by
  induction parts with
  | nil => rfl
  | cons part rest ih =>
    cases part with
    | take parameter => exact congrArg (take parameter :: ·) ih
    | assign name value => exact congrArg (assign name value :: ·) ih

end ConstructorPart

/-- The parameters of the constructor are those of its parts. -/
theorem Attribute.filterMap_parameter? (attrs : List Attribute) :
    (attrs.filterMap constructorPart?).filterMap ConstructorPart.parameter? =
      (attrs.filter Attribute.init).map Attribute.parameter := by
  induction attrs with
  | nil => rfl
  | cons attr rest ih =>
    cases wanted : attr.init with
    | true => simp [constructorPart?, wanted, ConstructorPart.parameter?, ih]
    | false =>
      cases value : attr.default <;>
        simp [List.filterMap_cons, constructorPart?, wanted, value, ConstructorPart.parameter?, ih]

/-- The body of the constructor consists of the assignments of its parts. -/
theorem Attribute.map_assignment (attrs : List Attribute) :
    (attrs.filterMap constructorPart?).map ConstructorPart.assignment =
      attrs.filterMap Attribute.assignment? := by
  rw [List.map_filterMap]
  refine List.filterMap_congr fun attr _ => ?_
  cases wanted : attr.init with
  | true => simp [constructorPart?, assignment?, wanted, ConstructorPart.assignment, parameter]
  | false =>
    cases value : attr.default <;>
      simp [constructorPart?, assignment?, wanted, value, ConstructorPart.assignment]

/-- Two lists of attributes give the same constructor exactly when they have the same parts. -/
theorem constructorFor_eq_iff (receiver : TypeId) (left right : List Attribute) :
    constructorFor receiver left = constructorFor receiver right ↔
      left.filterMap Attribute.constructorPart? = right.filterMap Attribute.constructorPart? := by
  constructor
  · intro same
    simp only [constructorFor, Function.mk.injEq, Signature.mk.injEq, List.cons.injEq,
      FunctionOrigin.synthesized.injEq, true_and, and_true] at same
    obtain ⟨parameters, body⟩ := same
    rw [← ConstructorPart.rebuild_eq (left.filterMap Attribute.constructorPart?),
      ← ConstructorPart.rebuild_eq (right.filterMap Attribute.constructorPart?),
      Attribute.filterMap_parameter?, Attribute.filterMap_parameter?, Attribute.map_assignment,
      Attribute.map_assignment, parameters, body]
  · intro same
    simp only [constructorFor, ← Attribute.filterMap_parameter?, ← Attribute.map_assignment, same]

/-- A function is the constructor of a list of attributes: it takes the receiver and then exactly
the constructor attributes in their order, with their types and defaults. It assigns, in order,
exactly the constructor attributes from their parameters, and those of the others that have a
default from that default. -/
structure Function.BuiltFrom (receiver : TypeId) (attrs : List Attribute) (function : Function) :
    Prop where
  name : function.name = "__init__"
  parameters : function.signature.parameters = ⟨"self", receiver, none⟩ ::
    (attrs.filter fun attr => attr.init).map fun attr => ⟨attr.name, attr.type, attr.default⟩
  result : function.signature.result = .none
  assignments : function.body? = some (attrs.filterMap fun attr =>
    match attr.init, attr.default with
    | true, _ => some ⟨attr.name, .parameter attr.name⟩
    | false, some default => some ⟨attr.name, .default default⟩
    | false, none => none)

/-- The constructor of a list of attributes is the only function that is built from the list. -/
theorem Function.builtFrom_iff {receiver : TypeId} {attrs : List Attribute}
    {function : Function} :
    function.BuiltFrom receiver attrs ↔ function = constructorFor receiver attrs := by
  have assigns : (fun attr : Attribute => match attr.init, attr.default with
      | true, _ => some (AttributeAssignment.mk attr.name (.parameter attr.name))
      | false, some default => some ⟨attr.name, .default default⟩
      | false, none => none) = Attribute.assignment? := by
    funext attr
    rw [Attribute.assignment?]
    cases attr.init <;> cases attr.default <;> rfl
  constructor
  · intro built
    obtain ⟨name, ⟨parameters, result⟩, origin⟩ := function
    have body := built.assignments
    rw [assigns] at body
    cases origin with
    | declared => cases body
    | synthesized assignments =>
      obtain rfl := Option.some.inj body
      obtain rfl : name = _ := built.name
      obtain rfl : parameters = _ := built.parameters
      obtain rfl : result = _ := built.result
      rfl
  · rintro rfl
    exact ⟨rfl, rfl, rfl, congrArg (fun part => some (attrs.filterMap part)) assigns.symm⟩

/-- The constructor of a class is in step with its attributes when it is built from the list that
the class stores now. -/
def ClassObject.ConstructorInStep (object : ClassObject) : Prop :=
  ∃ attrs function point, object.fields = some attrs ∧
    object.members.find? constructorName = some (.single (.function function) point) ∧
    function.BuiltFrom object.type attrs

/-- A class as it stands later in a run: its type and its constructor are the same, and it has
attributes if it had some. -/
structure ClassObject.KeepsConstructor (earlier later : ClassObject) : Prop where
  type : later.type = earlier.type
  constructor : later.members.find? constructorName = earlier.members.find? constructorName
  fields : earlier.fields.isSome → later.fields.isSome

namespace ClassObject.KeepsConstructor

theorem refl (object : ClassObject) : object.KeepsConstructor object := ⟨rfl, rfl, fun had => had⟩

theorem trans {first second third : ClassObject} (early : first.KeepsConstructor second)
    (late : second.KeepsConstructor third) : first.KeepsConstructor third :=
  ⟨late.type.trans early.type, late.constructor.trans early.constructor, late.fields ∘ early.fields⟩

/-- An edit that keeps the constructor neither adds nor removes it. -/
theorem contains {earlier later : ClassObject} (kept : earlier.KeepsConstructor later) :
    later.members.contains constructorName = earlier.members.contains constructorName := by
  rw [NameTable.contains_eq_isSome_find?, NameTable.contains_eq_isSome_find?, kept.constructor]

end ClassObject.KeepsConstructor

/-- A class with a constructor keeps it when it is decorated. -/
theorem Decoration.Outcome.keepsConstructor {options : Options} {id other : ClassId}
    {own : List Attribute} {before after : Analysis} (outcome : Outcome options id own before after)
    {object : ClassObject} (found : before.classes.get? other = some object)
    (present : object.members.contains constructorName = true) :
    ∃ later, after.classes.get? other = some later ∧ object.KeepsConstructor later := by
  obtain ⟨edit, tables, edited⟩ := outcome.classes
  by_cases same : other = id
  · subst same
    have kept := tables.constructor object
    have still : (edit object).members.contains constructorName = true := by
      rw [NameTable.contains_eq_isSome_find?, kept, ← NameTable.contains_eq_isSome_find?, present]
    refine ⟨_, by rw [edited, ClassTable.get?_modify_self found], ?_⟩
    rw [ClassObject.withConstructor, if_neg (by simp [ClassObject.setFields, still])]
    exact ⟨by rw [tables.tables object]; rfl, kept, fun _ => rfl⟩
  · refine ⟨object, ?_, .refl object⟩
    rw [edited, ClassTable.get?_modify_of_ne _ same, found]

/-- A class with a constructor keeps it whatever an operation does. -/
theorem Operation.keepsConstructor_run {state : Analysis} (ordered : state.classes.BasesFirst)
    (operation : Operation) {id : ClassId} {object : ClassObject}
    (found : state.classes.get? id = some object)
    (present : object.members.contains constructorName = true) :
    ∃ later, (operation.run state).classes.get? id = some later ∧
      object.KeepsConstructor later := by
  rcases operation.run_cases state with ⟨definition, rfl⟩ | ⟨options, target, -, ran⟩ | same
  · refine ⟨object, ?_, .refl object⟩
    rw [run, AnalysisM.stateAfter_define]
    split
    · exact ClassTable.get?_push_of_some found _
    · exact found
  · rw [ran]
    rcases Decoration.stateAfter_cases ordered options target with same | ⟨_, _, _, _, outcome⟩
    · rw [same]
      exact ⟨object, found, .refl object⟩
    · exact outcome.keepsConstructor found present
  · rw [same]
    exact ⟨object, found, .refl object⟩

/-- A class with a constructor keeps it for the rest of a run. -/
theorem Reaches.constructor_kept {admits : Analysis → Operation → Prop} {state later : Analysis}
    (ordered : state.classes.BasesFirst) (rest : Reaches admits state later) {id : ClassId}
    {object : ClassObject} (found : state.classes.get? id = some object)
    (present : object.members.contains constructorName = true) :
    later.classes.BasesFirst ∧
      ∃ current, later.classes.get? id = some current ∧ object.KeepsConstructor current := by
  induction rest with
  | refl => exact ⟨ordered, object, found, .refl object⟩
  | step _ operation _ ih =>
    obtain ⟨middleOrdered, middle, middleFound, kept⟩ := ih
    obtain ⟨current, currentFound, again⟩ :=
      operation.keepsConstructor_run middleOrdered middleFound (kept.contains.trans present)
    exact ⟨operation.basesFirst_run middleOrdered, current, currentFound, kept.trans again⟩

/-- A decoration that adds a constructor stores a list and builds the constructor from it. -/
theorem Decoration.Outcome.installs {options : Options} (wanted : options.init = true)
    {id : ClassId} {own : List Attribute} {before after : Analysis}
    (outcome : Outcome options id own before after)
    {object : ClassObject} (found : before.classes.get? id = some object)
    (missing : object.members.contains constructorName = false) :
    ∃ first builtFrom, after.classes.get? id = some first ∧ first.fields = some builtFrom ∧
      first.members.find? constructorName =
        some (.single (.function (constructorFor first.type builtFrom)) after.point) := by
  obtain ⟨edit, tables, edited⟩ := outcome.classes
  have still : (edit object).members.contains constructorName = false := by
    rw [NameTable.contains_eq_isSome_find?, tables.constructor object,
      ← NameTable.contains_eq_isSome_find?, missing]
  refine ⟨_, Attribute.mergeAll [] (before.classes.inheritedParts id ++ own),
    by rw [edited, ClassTable.get?_modify_self found], ?_, ?_⟩ <;>
    rw [ClassObject.withConstructor, if_pos (by simp [ClassObject.setFields, still, wanted])]
  · rfl
  · exact NameTable.find?_insert_self ..

/-- A class that has a constructor after a decoration had one before, or the decoration was wanted
to add it. -/
theorem Decoration.Outcome.had_or_wanted {options : Options} {id other : ClassId}
    {own : List Attribute} {before after : Analysis} (outcome : Outcome options id own before after)
    {later : ClassObject} (found : after.classes.get? other = some later)
    (present : later.members.contains constructorName = true) :
    ∃ object, before.classes.get? other = some object ∧ later.body = object.body ∧
      (object.members.contains constructorName = true ∨
        other = id ∧ object.members.contains constructorName = false ∧ options.init = true) := by
  obtain ⟨edit, tables, edited⟩ := outcome.classes
  rw [edited, ClassTable.get?_modify] at found
  by_cases same : other = id
  · subst same
    rw [if_pos rfl] at found
    obtain ⟨object, before, rfl⟩ := Option.map_eq_some_iff.mp found
    have kept : (edit object).members.contains constructorName =
        object.members.contains constructorName := by
      rw [NameTable.contains_eq_isSome_find?, NameTable.contains_eq_isSome_find?,
        tables.constructor]
    refine ⟨object, before, ?_, ?_⟩
    · have body : (edit object).body = object.body := by rw [tables.tables object]
      rw [ClassObject.withConstructor]
      split <;> exact body
    · by_cases had : object.members.contains constructorName = true
      · exact .inl had
      · refine .inr ⟨rfl, Bool.eq_false_iff.mpr had, ?_⟩
        by_contra unwanted
        rw [ClassObject.withConstructor, if_neg (by simp [unwanted])] at present
        exact had (kept ▸ present)
  · rw [if_neg same] at found
    exact ⟨later, found, rfl, .inl present⟩

/-- In the course of a run to the given state, a decoration added the constructor of a class. -/
def Decoration.AddedConstructor (config : WarningConfig) (id : ClassId) (state : Analysis) : Prop :=
  ∃ before object options point installed,
    Reaches Operation.Any (Analysis.initial config) before ∧
    before.classes.get? id = some object ∧ object.members.contains constructorName = false ∧
    options.init = true ∧ decorate options id before = .ok point installed ∧
    Reaches Operation.Any installed state

/-- What was added stays added. -/
theorem Decoration.AddedConstructor.run {config : WarningConfig} {id : ClassId} {state : Analysis}
    (added : AddedConstructor config id state) (operation : Operation) :
    AddedConstructor config id (operation.run state) := by
  obtain ⟨before, object, options, point, installed, start, found, lacked, wanted, ran, rest⟩ :=
    added
  exact ⟨before, object, options, point, installed, start, found, lacked, wanted, ran,
    rest.step operation trivial⟩

/-- A constructor that the class body does not write was added by a decoration. -/
theorem Reaches.addedConstructor {config : WarningConfig} {state : Analysis}
    (reached : Reaches Operation.Any (Analysis.initial config) state) {id : ClassId}
    {object : ClassObject} (found : state.classes.get? id = some object)
    (unwritten : constructorName ∉ object.body.assignments.map Prod.fst)
    (present : object.members.contains constructorName = true) :
    Decoration.AddedConstructor config id state := by
  induction reached generalizing object with
  | refl => cases found
  | @step state reached operation _ ih =>
    rcases operation.run_cases state with ⟨definition, rfl⟩ | ⟨options, target, -, ran⟩ | same
    · rw [Operation.run, AnalysisM.stateAfter_define] at found
      split at found
      · rcases ClassTable.get?_of_push found with before | ⟨-, rfl⟩
        · exact (ih before unwritten present).run _
        · rw [NameTable.contains_eq_isSome_find?, Option.isSome_iff_exists] at present
          obtain ⟨value, stored⟩ := present
          exact (unwritten ((NameTable.mem_keys_ofList _).mp
            (NameTable.mem_keys_of_find? stored))).elim
      · exact (ih found unwritten present).run _
    · rcases Decoration.stateAfter_cases reached.basesFirst options target with
        same | ⟨_, _, _, decorated, outcome⟩
      · rw [ran, same] at found
        exact (ih found unwritten present).run _
      · rw [ran] at found
        obtain ⟨before, there, body, had | ⟨rfl, lacked, wanted⟩⟩ :=
          outcome.had_or_wanted found present
        · exact (ih there (body ▸ unwritten) had).run _
        · exact ⟨state, before, options, _, _, reached, there, lacked, wanted, decorated,
            ran ▸ .refl⟩
    · rw [same] at found
      exact (ih found unwritten present).run _

/-- After a decoration added a constructor, and whatever the run does then, the class has the
constructor that is built from the list that this decoration stored. It is in step with the
attributes that the class stores now exactly when these have the same parts. -/
theorem Reaches.constructor_since_installed {config : WarningConfig}
    {before installed state : Analysis} {id : ClassId} {object : ClassObject} {options : Options}
    {point : PointId} (reached : Reaches Operation.Any (Analysis.initial config) before)
    (found : before.classes.get? id = some object)
    (missing : object.members.contains constructorName = false) (wanted : options.init = true)
    (ran : Decoration.decorate options id before = .ok point installed)
    (rest : Reaches Operation.Any installed state) :
    ∃ first attrs current fields function, installed.classes.get? id = some first ∧
      first.fields = some attrs ∧ state.classes.get? id = some current ∧
      current.fields = some fields ∧
      current.members.find? constructorName = some (.single (.function function) point) ∧
      function.BuiltFrom current.type attrs ∧
      (current.ConstructorInStep ↔
        attrs.filterMap Attribute.constructorPart? =
          fields.filterMap Attribute.constructorPart?) := by
  obtain ⟨after, alsoRan, outcome⟩ := Decoration.decorate_spec reached.basesFirst found options
  obtain ⟨rfl, rfl⟩ := EStateM.Result.ok.inj (alsoRan.symm.trans ran)
  obtain ⟨first, attrs, firstFound, stored, constructed⟩ :=
    outcome.installs wanted found missing
  have present : first.members.contains constructorName = true := by
    rw [NameTable.contains_eq_isSome_find?, constructed, Option.isSome_some]
  obtain ⟨-, current, currentFound, kept⟩ :=
    rest.constructor_kept (outcome.basesFirst reached.basesFirst) firstFound present
  obtain ⟨fields, nowStored⟩ := Option.isSome_iff_exists.mp (kept.fields (by rw [stored]; rfl))
  have constructor := kept.constructor.trans constructed
  rw [← kept.type] at constructor
  refine ⟨first, attrs, current, fields, _, firstFound, stored, currentFound, nowStored,
    constructor, Function.builtFrom_iff.mpr rfl, ?_⟩
  rw [← constructorFor_eq_iff current.type, ← Function.builtFrom_iff]
  constructor
  · rintro ⟨others, function, point, listed, present, built⟩
    obtain rfl : others = fields := Option.some.inj (listed.symm.trans nowStored)
    have same := Option.some.inj (constructor.symm.trans present)
    simp only [Variable.single, Variable.mk.injEq, List.cons.injEq, Binding.mk.injEq,
      Value.function.injEq] at same
    exact same.1.1 ▸ built
  · intro built
    exact ⟨fields, _, _, nowStored, constructor, built⟩

namespace Sample

/-- The state after the derived class was decorated alone. -/
def installed : Analysis := stateAfter (Decoration.decorate {} ⟨1⟩) defined

/-- The state after its base was decorated too, and the derived class once more. -/
def redecorated : Analysis :=
  Operation.run (Operation.run installed (.decorate .fresh ⟨0⟩)) (.decorate .fresh ⟨1⟩)

theorem reaches_redecorated : Reaches Operation.Any installed redecorated :=
  .step (.step .refl (.decorate .fresh ⟨0⟩) trivial) (.decorate .fresh ⟨1⟩) trivial

/-- The derived class has the constructor for its own attribute, and stores the inherited one as
well. -/
theorem constructor_since_first_decoration :
    ∃ first attrs current fields function, installed.classes.get? ⟨1⟩ = some first ∧
      first.fields = some attrs ∧ redecorated.classes.get? ⟨1⟩ = some current ∧
      current.fields = some fields ∧
      current.members.find? constructorName =
        some (.single (.function function) installed.point) ∧
      function.BuiltFrom current.type attrs ∧
      function.signature.parameters = [⟨"self", current.type, none⟩, ⟨"y", .str, none⟩] ∧
      (current.ConstructorInStep ↔
        attrs.filterMap Attribute.constructorPart? =
          fields.filterMap Attribute.constructorPart?) := by
  have ran : Decoration.decorate {} ⟨1⟩ defined = .ok installed.point installed := rfl
  obtain ⟨first, attrs, current, fields, function, found, stored, nowFound, nowStored, constructor,
    built, inStep⟩ :=
    reaches_defined.constructor_since_installed rfl rfl (by rfl) ran reaches_redecorated
  refine ⟨first, attrs, current, fields, function, found, stored, nowFound, nowStored, constructor,
    built, ?_, inStep⟩
  obtain rfl := Option.some.inj found
  obtain rfl : attrs = [⟨"y", .str, true, none⟩] := (Option.some.inj stored).symm
  exact built.parameters

/-- The constructor of a class that does not write one itself is not always in step with the
attributes: it is left as it is when decorating the class again stores an attribute of a base that
was decorated meanwhile. -/
theorem constructor_drifts :
    ∃ state id object, Reaches Operation.Any (.initial .standard) state ∧
      state.classes.get? id = some object ∧ object.body.assignments = [] ∧
      object.members.contains constructorName = true ∧ ¬ object.ConstructorInStep := by
  have reached : Reaches Operation.Any (.initial .standard) redecorated :=
    (reaches_defined.step (.decorate .fresh ⟨1⟩) trivial).trans reaches_redecorated
  refine ⟨redecorated, ⟨1⟩, _, reached, rfl, rfl, rfl, ?_⟩
  rintro ⟨attrs, function, point, stored, constructed, built⟩
  obtain rfl : attrs = [⟨"x", .int, true, none⟩, ⟨"y", .str, true, none⟩] :=
    (Option.some.inj stored).symm
  obtain rfl := Function.builtFrom_iff.mp built
  have remaining := constructed.symm.trans (rfl : _ = some (Variable.single
    (.function (constructorFor _ [⟨"y", .str, true, none⟩])) installed.point))
  simp [Variable.single, constructorFor] at remaining

end Sample

end DataclassSynthesis
