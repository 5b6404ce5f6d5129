import DataclassSynthesis.Proofs.ClassEdits
import DataclassSynthesis.Proofs.Frame
import DataclassSynthesis.Proofs.TypeMarkers
import Mathlib.Data.List.Basic

/-!
# What decoration reads and changes

Collecting the attributes of a class that exists always succeeds: every edit finds the class,
because no edit before it has removed one. It lets the types grow by the types of the defaults it
checks, edits the tables of the class that is decorated, and touches neither the other classes nor
any constructor (`DataclassSynthesis.Decoration.collect_spec`).
-/

namespace DataclassSynthesis

/-- The attribute of a name with the given type and value, by the kind of the name. -/
def MemberKind.attribute? (name : String) (type : TypeId) (value : Option Variable) :
    MemberKind → Option Attribute
  | classVariable => none
  | initVariable inner => some ⟨name, inner, true, value⟩
  | field descriptor =>
    some ⟨name, type, descriptor.init,
      if descriptor.default.isSome then descriptor.effective else none⟩
  | plain => some ⟨name, type, true, value⟩

/-- The attribute of a name that a class body introduces. -/
def LocalSummary.attribute? (types : TypeContext) (name : String) (summary : LocalSummary) :
    Option Attribute :=
  summary.type.bind fun type =>
    (MemberKind.of types type summary.value).attribute? name type summary.value

/-- The attribute of a name stays the same while the types grow, if its type is known. -/
theorem LocalSummary.attribute?_of_grows {before after : TypeContext} (grows : before.Grows after)
    {summary : LocalSummary} (known : ∀ type ∈ summary.type, before.Knows type) (name : String) :
    summary.attribute? after name = summary.attribute? before name := by
  cases typed : summary.type with
  | none => simp only [attribute?, typed, Option.bind_none]
  | some type =>
    have isKnown := known type typed
    simp only [attribute?, typed, Option.bind_some, MemberKind.of,
      grows.argumentOf?_eq isKnown]

/-- Where the markers are the same, the attribute of a name is. -/
theorem TypeContext.SameMarkers.attribute?_eq {first second : TypeContext}
    (same : first.SameMarkers second) (name : String) (summary : LocalSummary) :
    summary.attribute? second name = summary.attribute? first name := by
  simp only [LocalSummary.attribute?, same.kind_eq]

/-- The value that stands for an instance of a type. -/
def TypeContext.instanceValue (types : TypeContext) (type : TypeId) : Value :=
  if types.isAny type then .unknown else .instanceOf type

/-- What collecting a name of a kind does to the tables of its class. -/
def MemberKind.edit (types : TypeContext) (point : PointId) (name : String) (type : TypeId)
    (assigned : Bool) : MemberKind → ClassObject → ClassObject
  | classVariable, object => object
  | initVariable inner, object =>
    if assigned then object.setAnnotated name inner else object.forget name
  | field _, object | plain, object =>
    object.setMember name (.single (types.instanceValue type) point)

/-- Where an analysis goes on after a name of a kind: a constructor variable is instantiated at a
new point. -/
def MemberKind.moveOn : MemberKind → Analysis → Analysis
  | initVariable _, state => stateAfter (AnalysisM.advance "instantiate") state
  | classVariable, state | field _, state | plain, state => state

/-- The edit of an ordinary name concerns the tables of the class, and not its constructor. -/
theorem MemberKind.isTableEdit_edit {name : String} (ordinary : constructorName ≠ name)
    (types : TypeContext) (point : PointId) (type : TypeId) (assigned : Bool) (kind : MemberKind) :
    ClassObject.IsTableEdit (kind.edit types point name type assigned) := by
  cases kind with
  | classVariable => exact ClassObject.isTableEdit_id
  | field _ | plain => exact ClassObject.isTableEdit_setMember ordinary _
  | initVariable inner =>
    cases assigned with
    | true => exact ClassObject.isTableEdit_setAnnotated name inner
    | false => exact ClassObject.isTableEdit_forget ordinary

/-- The values of a variable and of the default that it describes if it is a field. -/
def Variable.checkedValues (var : Variable) : List Value :=
  var.values ++ ((var.field?.bind FieldDescriptor.effective).map Variable.values).getD []

/-- The kind of a name is that of a field only if its value describes that field. -/
theorem MemberKind.field?_of_eq_field {types : TypeContext} {type : TypeId}
    {value : Option Variable} {descriptor : FieldDescriptor}
    (isField : MemberKind.of types type value = .field descriptor) :
    value.bind Variable.field? = some descriptor := by
  unfold MemberKind.of at isField
  split at isField
  · cases isField
  · split at isField
    · cases isField
    · split at isField
      · next found =>
        cases isField
        exact found
      · cases isField

/-- An attribute has no default, the value of its name, or the default which that describes. -/
theorem MemberKind.default_cases {types : TypeContext} {name : String} {type : TypeId}
    {value : Option Variable} {attr : Attribute}
    (found : (MemberKind.of types type value).attribute? name type value = some attr) :
    attr.default = none ∨ attr.default = value ∨
      attr.default = (value.bind Variable.field?).bind FieldDescriptor.effective := by
  cases kind : MemberKind.of types type value with
  | classVariable => rw [kind] at found; cases found
  | initVariable inner => rw [kind] at found; cases found; exact .inr (.inl rfl)
  | plain => rw [kind] at found; cases found; exact .inr (.inl rfl)
  | field descriptor =>
    have described := field?_of_eq_field kind
    rw [kind] at found
    cases found
    rw [described, Option.bind_some]
    dsimp only
    split
    · exact .inr (.inr rfl)
    · exact .inl rfl

/-- The values of the default of an attribute are among those that are checked. -/
theorem MemberKind.default_values_subset {types : TypeContext} {name : String} {type : TypeId}
    {value : Option Variable} {attr : Attribute}
    (found : (MemberKind.of types type value).attribute? name type value = some attr) :
    (attr.default.map Variable.values).getD [] ⊆
      (value.map Variable.checkedValues).getD [] := by
  rcases default_cases found with none | same | described
  · rw [none]
    exact List.nil_subset _
  · rw [same]
    cases value with
    | none => exact List.nil_subset _
    | some var => exact List.subset_append_left _ _
  · rw [described]
    cases value with
    | none => exact List.nil_subset _
    | some var => exact List.subset_append_right _ _

namespace Decoration

/-- What a part of a decoration may change: the types grow by the types of some of the values, and
only the tables of the decorated class are edited. -/
structure Footprint (id : ClassId) (values : List Value) (before after : Analysis) : Prop where
  types : ∃ typed, typed ⊆ values ∧ after.types = (Value.types typed before.types).2
  classes : ∃ edit, ClassObject.IsTableEdit edit ∧ after.classes = before.classes.modify id edit

namespace Footprint

variable {id : ClassId} {values : List Value} {first second third : Analysis}

/-- A step that leaves types and classes alone has any footprint. -/
theorem of_eq (id : ClassId) (values : List Value) (types : second.types = first.types)
    (classes : second.classes = first.classes) : Footprint id values first second where
  types := ⟨[], List.nil_subset _, types⟩
  classes := ⟨_, ClassObject.isTableEdit_id, classes.trans (first.classes.modify_id id).symm⟩

/-- An edit of the tables of the class is within the footprint. -/
theorem of_edit {edit : ClassObject → ClassObject} (tables : ClassObject.IsTableEdit edit)
    (state : Analysis) :
    Footprint id values state { state with classes := state.classes.modify id edit } where
  types := ⟨[], List.nil_subset _, rfl⟩
  classes := ⟨edit, tables, rfl⟩

/-- Parts of a decoration follow one another within one footprint. -/
theorem trans (early : Footprint id values first second) (late : Footprint id values second third) :
    Footprint id values first third := by
  obtain ⟨typed, among, grown⟩ := early.types
  obtain ⟨later, alsoAmong, grownLater⟩ := late.types
  obtain ⟨edit, tables, edited⟩ := early.classes
  obtain ⟨again, alsoTables, editedAgain⟩ := late.classes
  exact
    { types := ⟨typed ++ later, List.append_subset.mpr ⟨among, alsoAmong⟩, by
        rw [grownLater, grown, Value.types_append]⟩
      classes := ⟨again ∘ edit, tables.comp alsoTables, by
        rw [editedAgain, edited, ClassTable.modify_modify]⟩ }

/-- A footprint may be widened to more values. -/
theorem mono {more : List Value} (step : Footprint id values first second)
    (among : values ⊆ more) : Footprint id more first second where
  types := by
    obtain ⟨typed, inside, grown⟩ := step.types
    exact ⟨typed, List.Subset.trans inside among, grown⟩
  classes := step.classes

/-- Within a footprint the types grow. -/
theorem grows (step : Footprint id values first second) : first.types.Grows second.types := by
  obtain ⟨typed, -, grown⟩ := step.types
  exact grown ▸ Value.types_grows typed first.types

/-- Within a footprint the markers are the same. -/
theorem sameMarkers (step : Footprint id values first second) :
    first.types.SameMarkers second.types := by
  obtain ⟨typed, -, grown⟩ := step.types
  exact grown ▸ Value.types_sameMarkers typed first.types

/-- The decorated class does not disappear. -/
theorem found (step : Footprint id values first second) {object : ClassObject}
    (present : first.classes.get? id = some object) :
    ∃ current, second.classes.get? id = some current := by
  obtain ⟨edit, -, edited⟩ := step.classes
  exact ⟨edit object, edited ▸ ClassTable.get?_modify_self present edit⟩

end Footprint

/-- Checking a default succeeds, and asks for the types of its visible values only. -/
theorem checkDefault_spec (id : ClassId) (name : String) (type : TypeId)
    (default : Option Variable) (span : Span) (state : Analysis) :
    ∃ after, checkDefault name type default span state = .ok () after ∧
      Footprint id ((default.map Variable.values).getD []) state after := by
  cases default with
  | none => exact ⟨state, rfl, .of_eq id _ rfl rfl⟩
  | some value =>
    have matched : AnalysisM.badMatchesAt value type state.point state =
        .ok (badMatches state.program type state.point value.bindings state.types).1
          { state with
            types := (badMatches state.program type state.point value.bindings state.types).2 } :=
      rfl
    have step : Footprint id value.values state
        { state with
          types := (badMatches state.program type state.point value.bindings state.types).2 } :=
      { types := ⟨visibleValues state.program state.point value.bindings,
          List.map_subset _ List.filter_sublist.subset, badMatches_types ..⟩
        classes := ⟨_, ClassObject.isTableEdit_id, (state.classes.modify_id id).symm⟩ }
    simp only [checkDefault]
    rw [get_bind, bind_of_ok matched]
    cases (badMatches state.program type state.point value.bindings state.types).1.head? with
    | none => exact ⟨_, rfl, step⟩
    | some first => exact ⟨_, rfl, step.trans (.of_eq id _ rfl rfl)⟩

section

variable {id : ClassId} {state : Analysis} {object : ClassObject}
  (found : state.classes.get? id = some object)

include found

/-- An instance is stored in a class that exists. -/
theorem storeInstance_eq (name : String) (type : TypeId) :
    storeInstance id name type state = .ok () { state with
      classes := state.classes.modify id fun current =>
        current.setMember name (state.instanceAt type) } := by
  rw [storeInstance, get_bind, AnalysisM.modifyClass_of_found found]

/-- A name of a kind gives its attribute, and is collected by its edit and by moving on. -/
theorem collectKind_eq (name : String) (type : TypeId) (value : Option Variable)
    (kind : MemberKind) :
    collectKind id name type value kind state = .ok (kind.attribute? name type value)
      (kind.moveOn { state with
        classes := state.classes.modify id
          (kind.edit state.types state.point name type value.isSome) }) := by
  cases kind with
  | classVariable =>
    have same : state.classes.modify id
        (MemberKind.classVariable.edit state.types state.point name type value.isSome) =
          state.classes := state.classes.modify_id id
    rw [same]
    rfl
  | field _ | plain =>
    simp only [collectKind]
    rw [bind_of_ok (storeInstance_eq found name type)]
    rfl
  | initVariable inner =>
    have adjusted := AnalysisM.modifyClass_of_found found
      ((MemberKind.initVariable inner).edit state.types state.point name type value.isSome)
    exact bind_of_ok adjusted

/-- A name of a kind edits only the tables of the class. -/
theorem collectKind_spec {name : String} (ordinary : constructorName ≠ name) (type : TypeId)
    (value : Option Variable) (kind : MemberKind) :
    ∃ after, collectKind id name type value kind state =
        .ok (kind.attribute? name type value) after ∧ Footprint id [] state after := by
  have edits := kind.isTableEdit_edit ordinary state.types state.point type value.isSome
  refine ⟨_, collectKind_eq found name type value kind, (Footprint.of_edit edits state).trans ?_⟩
  cases kind <;> exact .of_eq id _ rfl rfl

/-- A name of the class body gives its attribute. -/
theorem collectLocal_spec {name : String} (ordinary : constructorName ≠ name)
    (summary : LocalSummary) :
    ∃ after, collectLocal id name summary state =
        .ok (summary.attribute? state.types name).toList after ∧
      Footprint id ((summary.value.map Variable.checkedValues).getD []) state after := by
  obtain ⟨type, value, span⟩ := summary
  cases type with
  | none => exact ⟨state, rfl, .of_eq id _ rfl rfl⟩
  | some type =>
    obtain ⟨middle, collected, edited⟩ :=
      collectKind_spec found ordinary type value (MemberKind.of state.types type value)
    simp only [collectLocal, LocalSummary.attribute?, Option.bind_some]
    rw [get_bind, bind_of_ok collected]
    cases isAttribute : (MemberKind.of state.types type value).attribute? name type value with
    | none => exact ⟨middle, rfl, edited.mono (List.nil_subset _)⟩
    | some attr =>
      obtain ⟨after, checked, typed⟩ :=
        checkDefault_spec id name attr.type attr.default span middle
      exact ⟨after, bind_of_ok checked, (edited.mono (List.nil_subset _)).trans
        (typed.mono (MemberKind.default_values_subset isAttribute))⟩

end

/-- The values that are checked while some names of a class body are collected. -/
def checkedValues (locals : List (String × LocalSummary)) : List Value :=
  locals.flatMap fun entry => (entry.2.value.map Variable.checkedValues).getD []

/-- Collecting from a class that exists succeeds. It gives the attributes that the names have at the
beginning, although the types grow while it goes on. -/
theorem collect_spec {id : ClassId} {locals : List (String × LocalSummary)}
    (ordinary : ∀ entry ∈ locals, constructorName ≠ entry.1) {state : Analysis}
    {object : ClassObject} (found : state.classes.get? id = some object) :
    ∃ after, collect id locals state =
        .ok (locals.filterMap fun entry => entry.2.attribute? state.types entry.1) after ∧
      Footprint id (checkedValues locals) state after := by
  induction locals generalizing state object with
  | nil => exact ⟨state, rfl, .of_eq id _ rfl rfl⟩
  | cons entry rest ih =>
    obtain ⟨name, summary⟩ := entry
    obtain ⟨isOrdinary, othersOrdinary⟩ := List.forall_mem_cons.mp ordinary
    obtain ⟨middle, first, step⟩ := collectLocal_spec found isOrdinary summary
    obtain ⟨_, stillFound⟩ := step.found found
    obtain ⟨after, later, steps⟩ := ih othersOrdinary stillFound
    have same : (rest.filterMap fun entry => entry.2.attribute? middle.types entry.1) =
        rest.filterMap fun entry => entry.2.attribute? state.types entry.1 :=
      List.filterMap_congr fun entry _ => step.sameMarkers.attribute?_eq entry.1 entry.2
    refine ⟨after, ?_, (step.mono ?_).trans (steps.mono ?_)⟩
    · simp only [collect]
      rw [bind_of_ok first, bind_of_ok later, same]
      cases given : summary.attribute? state.types name <;> simp [given, pure, EStateM.pure]
    · exact List.subset_append_left _ _
    · exact List.subset_append_right _ _

end Decoration

end DataclassSynthesis
