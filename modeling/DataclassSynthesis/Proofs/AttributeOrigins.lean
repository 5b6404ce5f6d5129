import DataclassSynthesis.Proofs.ArisenStates
import DataclassSynthesis.Proofs.InheritanceSearch
import DataclassSynthesis.Proofs.StableMarkers

/-!
# Where stored attributes come from

The attributes that a class stores are its own or inherited from the stored ones of its ancestors,
so in the end each of them is an attribute that the body of some class gives
(`DataclassSynthesis.Reaches.storesGiven`). A field description among the values of its default is
what the body assigns to a constructor variable, if the values that class bodies assign hold field
descriptions only where they describe a field (`DataclassSynthesis.Reaches.descriptor_origin`).
-/

namespace DataclassSynthesis

/-- A class with a stored attribute among its ancestors passes it on. -/
theorem ClassTable.exists_of_mem_inheritedParts {table : ClassTable} {id : ClassId}
    {attr : Attribute} (inherited : attr ∈ table.inheritedParts id) :
    ∃ ancestor object attrs, table.get? ancestor = some object ∧ object.fields = some attrs ∧
      attr ∈ attrs := by
  induction age : id.index using Nat.strongRecOn generalizing id with
  | ind position ih =>
    rw [inheritedParts] at inherited
    split at inherited
    · cases inherited
    · next object found =>
      obtain ⟨base, -, passed⟩ := List.mem_flatMap.mp inherited
      split at passed
      · next older =>
        cases stored : (table.get? base).bind ClassObject.fields with
        | none =>
          rw [stored] at passed
          exact ih base.index (age ▸ older) passed rfl
        | some attrs =>
          rw [stored] at passed
          obtain ⟨ancestor, present, fields⟩ := Option.bind_eq_some_iff.mp stored
          exact ⟨base, ancestor, attrs, present, fields, passed⟩
      · cases passed

/-- The body of some class gives an attribute, in types that have grown since. -/
def Analysis.Gives (state : Analysis) (attr : Attribute) : Prop :=
  ∃ origin source types, state.classes.get? origin = some source ∧ types.Grows state.types ∧
    attr ∈ source.body.ownAttributes types

/-- The classes of a state are still there later, with their bodies, and the types have grown. -/
structure Analysis.KeepsBodies (before after : Analysis) : Prop where
  types : before.types.Grows after.types
  bodies : ∀ id object, before.classes.get? id = some object →
    ∃ later, after.classes.get? id = some later ∧ later.body = object.body

/-- What a state gives it goes on to give as long as it keeps the bodies of its classes. -/
theorem Analysis.Gives.mono {before after : Analysis} {attr : Attribute} (given : before.Gives attr)
    (keeps : before.KeepsBodies after) : after.Gives attr := by
  obtain ⟨origin, source, types, found, grows, listed⟩ := given
  obtain ⟨later, nowFound, sameBody⟩ := keeps.bodies origin source found
  exact ⟨origin, later, types, nowFound, grows.trans keeps.types, sameBody ▸ listed⟩

/-- A decoration keeps the bodies of all classes. -/
theorem Decoration.Outcome.keepsBodies {options : Options} {id : ClassId} {own : List Attribute}
    {before after : Analysis} (outcome : Outcome options id own before after) {object : ClassObject}
    (found : before.classes.get? id = some object) : before.KeepsBodies after := by
  refine ⟨outcome.grows found, fun other current present => ?_⟩
  obtain ⟨edit, tables, edited⟩ := outcome.classes
  by_cases same : other = id
  · subst same
    have kept : (edit current).body = current.body := by rw [tables.tables current]
    rw [edited, ClassTable.get?_modify_self present]
    refine ⟨_, rfl, ?_⟩
    rw [ClassObject.withConstructor]
    split <;> exact kept
  · exact ⟨current, by rw [edited, ClassTable.get?_modify_of_ne _ same, present], rfl⟩

/-- Every operation keeps the bodies of all classes. -/
theorem Operation.keepsBodies_run {state : Analysis} (ordered : state.classes.BasesFirst)
    (operation : Operation) : state.KeepsBodies (operation.run state) := by
  refine ⟨operation.grows_run ordered, fun id object found => ?_⟩
  rcases operation.run_cases state with ⟨definition, rfl⟩ | ⟨options, target, -, ran⟩ | same
  · rw [run, AnalysisM.stateAfter_define]
    split
    · exact ⟨object, ClassTable.get?_push_of_some found _, rfl⟩
    · exact ⟨object, found, rfl⟩
  · rw [ran]
    rcases Decoration.stateAfter_cases ordered options target with
      same | ⟨_, _, present, _, outcome⟩
    · rw [same]
      exact ⟨object, found, rfl⟩
    · exact (outcome.keepsBodies present).bodies id object found
  · rw [same]
    exact ⟨object, found, rfl⟩

/-- Every attribute that a class stores is one that a class body gives. -/
def Analysis.StoresGiven (state : Analysis) : Prop :=
  ∀ id object attrs, state.classes.get? id = some object → object.fields = some attrs →
    ∀ attr ∈ attrs, state.Gives attr

/-- A decoration stores attributes that class bodies give if all stored ones were given. -/
theorem Decoration.storesGiven {state : Analysis} (ordered : state.classes.BasesFirst)
    (stored : state.StoresGiven) {id : ClassId} {object : ClassObject}
    (found : state.classes.get? id = some object) (options : Options) :
    (stateAfter (decorate options id) state).StoresGiven := by
  obtain ⟨after, ran, outcome⟩ := decorate_spec ordered found options
  have keeps := outcome.keepsBodies found
  rw [stateAfter_of_ok ran]
  intro other current attrs present fields attr listed
  by_cases same : other = id
  · subst same
    obtain ⟨sameTypes, sameClasses⟩ :=
      definesNothing_reportRepetitions object.body.repetitions state
    obtain ⟨collected, collects, -⟩ := collect_body object.body (sameClasses.symm ▸ found)
    rw [sameTypes] at collects
    obtain ⟨_, decorated, alsoRan, nowFound, merged, -⟩ :=
      decorate_collected ordered found options collects
    obtain ⟨-, rfl⟩ := EStateM.Result.ok.inj (ran.symm.trans alsoRan)
    obtain rfl := Option.some.inj (present.symm.trans nowFound)
    obtain rfl := Option.some.inj (fields.symm.trans merged)
    obtain ⟨before, rest, split, -⟩ := Attribute.exists_last_of_mem_mergeAll listed
    have among : attr ∈ state.classes.inheritedParts other ++
        object.body.ownAttributes state.types := by
      rw [split]
      exact List.mem_append_right before List.mem_cons_self
    rcases List.mem_append.mp among with inherited | isOwn
    · obtain ⟨ancestor, parent, passed, there, stores, isStored⟩ :=
        ClassTable.exists_of_mem_inheritedParts inherited
      exact (stored ancestor parent passed there stores attr isStored).mono keeps
    · exact Analysis.Gives.mono ⟨other, object, state.types, found, .refl state.types, isOwn⟩ keeps
  · obtain ⟨edit, -, edited⟩ := outcome.classes
    rw [edited, ClassTable.get?_modify_of_ne _ same] at present
    exact (stored other current attrs present fields attr listed).mono keeps

/-- In every reached state, each attribute that a class stores is one that the body of some class
gives. -/
theorem Reaches.storesGiven {admits : Analysis → Operation → Prop} {config : WarningConfig}
    {state : Analysis} (reached : Reaches admits (Analysis.initial config) state) :
    state.StoresGiven := by
  induction reached with
  | refl =>
    intro id object attrs found
    cases found
  | @step state reached operation _ ih =>
    have ordered := reached.basesFirst
    have keeps := operation.keepsBodies_run ordered
    have stays : ∀ id object attrs, state.classes.get? id = some object →
        object.fields = some attrs → ∀ attr ∈ attrs, (operation.run state).Gives attr :=
      fun id object attrs found fields attr listed =>
        (ih id object attrs found fields attr listed).mono keeps
    rcases operation.run_cases state with ⟨definition, rfl⟩ | ⟨options, target, -, ran⟩ | same
    · intro id object attrs found fields
      rw [Operation.run, AnalysisM.stateAfter_define] at found
      split at found
      · rcases ClassTable.get?_of_push found with before | ⟨-, rfl⟩
        · exact stays id object attrs before fields
        · cases fields
      · exact stays id object attrs found fields
    · rw [ran]
      cases present : state.classes.get? target with
      | none =>
        rw [stateAfter, Decoration.decorate_of_missing present]
        exact ih
      | some object => exact Decoration.storesGiven ordered ih present options
    · intro id object attrs found fields
      rw [same] at found
      exact stays id object attrs found fields

/-- A member is a constructor variable only if its annotation applies that marker. -/
theorem MemberKind.argumentOf?_of_eq_initVariable {types : TypeContext} {type inner : TypeId}
    {value : Option Variable} (isInit : MemberKind.of types type value = .initVariable inner) :
    types.argumentOf? type Container.initVariable.qualified = some inner := by
  unfold MemberKind.of at isInit
  split at isInit
  · cases isInit
  · split at isInit
    · next marked =>
      cases isInit
      exact marked
    · split at isInit <;> cases isInit

/-- A plain member is not assigned a field descriptor. -/
theorem MemberKind.field?_of_eq_plain {types : TypeContext} {type : TypeId}
    {value : Option Variable} (isPlain : MemberKind.of types type value = .plain) :
    value.bind Variable.field? = none := by
  unfold MemberKind.of at isPlain
  split at isPlain
  · cases isPlain
  · split at isPlain
    · cases isPlain
    · split at isPlain
      · cases isPlain
      · assumption

/-- A field descriptor is among the values of a variable. -/
def Variable.HoldsDescriptor (var : Variable) : Prop := ∃ descriptor, .field descriptor ∈ var.values

/-- A value that a class body assigns holds field descriptors only where it describes a field:
either it holds none, or it describes a field whose default holds none. -/
def Variable.Plain (var : Variable) : Prop :=
  match var.field? with
  | none => ¬ var.HoldsDescriptor
  | some descriptor => ∀ default ∈ descriptor.effective, ¬ default.HoldsDescriptor

/-- If an attribute that a body gives has a default that holds a field descriptor, then its name is
a constructor variable and the default is the value that is assigned to the name. -/
theorem Body.initVariable_of_holdsDescriptor {types : TypeContext} {body : Body}
    (plain : ∀ name, ∀ var ∈ body.lastValue? name, var.Plain) {attr : Attribute}
    (given : attr ∈ body.ownAttributes types) {default : Variable}
    (isDefault : attr.default = some default) (holds : default.HoldsDescriptor) :
    (body.marked? types .initVariable attr.name).isSome = true ∧
      body.lastValue? attr.name = some default := by
  obtain ⟨name, -, gives⟩ := List.mem_filterMap.mp given
  obtain ⟨type, typed, ofType⟩ := Option.bind_eq_some_iff.mp gives
  rw [← attribute?_of] at ofType
  cases kind : MemberKind.of types type (body.lastValue? name) with
  | classVariable =>
    rw [kind] at ofType
    cases ofType
  | initVariable inner =>
    have argument := MemberKind.argumentOf?_of_eq_initVariable kind
    rw [kind] at ofType
    cases ofType
    exact ⟨by rw [marked?, typed, Option.bind_some, argument]; rfl, isDefault⟩
  | field descriptor =>
    obtain ⟨var, assigned, described⟩ :=
      Option.bind_eq_some_iff.mp (MemberKind.field?_of_eq_field kind)
    rw [kind] at ofType
    cases ofType
    have isPlain := plain name var assigned
    rw [Variable.Plain, described] at isPlain
    dsimp only at isDefault
    split at isDefault
    · exact absurd holds (isPlain default isDefault)
    · cases isDefault
  | plain =>
    have undescribed := MemberKind.field?_of_eq_plain kind
    rw [kind] at ofType
    cases ofType
    have assigned : body.lastValue? name = some default := isDefault
    rw [assigned, Option.bind_some] at undescribed
    have isPlain := plain name default assigned
    rw [Variable.Plain, undescribed] at isPlain
    exact absurd holds isPlain

/-- In a reached state whose class bodies assign field descriptors only where they describe fields,
a stored attribute has a default that holds a field descriptor only if some class body has a
constructor variable of its name and assigns that default to it. -/
theorem Reaches.descriptor_origin {admits : Analysis → Operation → Prop} {config : WarningConfig}
    {state : Analysis} (reached : Reaches admits (Analysis.initial config) state)
    (plain : ∀ id object, state.classes.get? id = some object →
      ∀ name, ∀ var ∈ object.body.lastValue? name, var.Plain) {id : ClassId} {object : ClassObject}
    (found : state.classes.get? id = some object) {attrs : List Attribute}
    (fields : object.fields = some attrs) {attr : Attribute} (listed : attr ∈ attrs)
    {default : Variable} (isDefault : attr.default = some default)
    (holds : default.HoldsDescriptor) :
    ∃ origin source, state.classes.get? origin = some source ∧
      (source.body.marked? state.types .initVariable attr.name).isSome = true ∧
      source.body.lastValue? attr.name = some default := by
  obtain ⟨origin, source, types, there, grows, given⟩ :=
    reached.storesGiven id object attrs found fields attr listed
  obtain ⟨marked, assigned⟩ :=
    Body.initVariable_of_holdsDescriptor (plain origin source there) given isDefault holds
  obtain ⟨inner, isInit⟩ := Option.isSome_iff_exists.mp marked
  rw [← Body.summary_marked?] at isInit
  refine ⟨origin, source, there, ?_, assigned⟩
  rw [← Body.summary_marked?, LocalSummary.marked?_of_grows grows isInit]
  rfl

end DataclassSynthesis
