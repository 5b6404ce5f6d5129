import DataclassSynthesis.Proofs.AssignabilityOrder
import DataclassSynthesis.Proofs.ReachedClasses
import DataclassSynthesis.Proofs.TypeConstruction

/-!
# The types of reached states

A run whose operations mention known identifiers only keeps the type context well formed, because a
class statement gives its class the first and only type (`DataclassSynthesis.Reaches.coherent`). So
in every reached state assignability is a preorder on the static types
(`DataclassSynthesis.Reaches.isAssignable_preorder`), and unions are least upper bounds
(`DataclassSynthesis.Reaches.isJoin_union`).
-/

namespace DataclassSynthesis

open TypeContext

/-- The identifiers in the types of the values that decorating a class with the given body
checks. -/
def Body.checkedComponents (body : Body) : List TypeId :=
  body.assignments.flatMap fun entry => entry.2.checkedValues.flatMap Value.components

namespace Operation

/-- The identifiers in the types of the values that the decoration performed by an operation
checks. -/
def checkedComponents (state : Analysis) (operation : Operation) : List TypeId :=
  match operation.decoration? state with
  | some (_, id) =>
    ((state.classes.get? id).map fun object => object.body.checkedComponents).getD []
  | none => []

/-- The identifiers from which an operation may build types. A class statement builds the type of
its class from those of the bases, which it finds itself. -/
def mentions (state : Analysis) : Operation → List TypeId
  | container _ arguments | parameterize _ arguments | union arguments => arguments
  | optional type => [type]
  | callable parameters result _ => result :: parameters
  | typeOf var | badMatches var _ _ => var.values.flatMap Value.components
  | decorate decorator id => (decorate decorator id).checkedComponents state
  | apply decorator id => (apply decorator id).checkedComponents state
  | callDecorator decorator arguments => (callDecorator decorator arguments).checkedComponents state
  | define _ | describeField _ | call _ _ | instantiate _ | advance _ | branch _ _ | warn _ => []

/-- An operation builds types from known identifiers only. -/
def Known (state : Analysis) (operation : Operation) : Prop :=
  ∀ id ∈ operation.mentions state, state.types.Knows id

instance (state : Analysis) (operation : Operation) : Decidable (operation.Known state) :=
  inferInstanceAs (Decidable (∀ id ∈ operation.mentions state, state.types.Knows id))

end Operation

/-- The types and the classes of an analysis hang together. -/
structure Analysis.Coherent (state : Analysis) : Prop where
  formed : state.types.WellFormed
  /-- Only classes that exist have types. -/
  defined : ∀ type id name bases, state.types.get? type = some (.nominal id name bases) →
    id.index < state.classes.size
  /-- The types of classes are known. -/
  known : ∀ id object, state.classes.get? id = some object → state.types.Knows object.type

namespace Analysis.Coherent

variable {state after : Analysis}

/-- Coherence is kept by extending the types and by edits of classes that keep their types. -/
theorem of_extension (coherent : state.Coherent) (extension : state.types.Extension after.types)
    (size : after.classes.size = state.classes.size)
    (classes : ∀ id object, after.classes.get? id = some object →
      ∃ earlier, state.classes.get? id = some earlier ∧ object.type = earlier.type) :
    after.Coherent where
  formed := extension.formed
  defined type id name bases found := by
    rw [size]
    exact coherent.defined type id name bases (extension.classes type id name bases found)
  known id object found := by
    obtain ⟨earlier, present, same⟩ := classes id object found
    rw [same]
    exact extension.grows.knows (coherent.known id earlier present)

/-- Coherence is kept by extending the types. -/
theorem of_types (coherent : state.Coherent) {types : TypeContext}
    (extension : state.types.Extension types) : { state with types := types }.Coherent :=
  coherent.of_extension extension rfl fun _ object found => ⟨object, found, rfl⟩

/-- Coherence concerns types and classes only. -/
theorem of_definesNothing {α : Type} (coherent : state.Coherent) {action : AnalysisM α}
    (nothing : AnalysisM.DefinesNothing action) : (stateAfter action state).Coherent := by
  obtain ⟨types, classes⟩ := nothing state
  refine coherent.of_extension (types.symm ▸ .refl coherent.formed) (by rw [classes])
    fun id object found => ⟨object, classes ▸ found, rfl⟩

end Analysis.Coherent

/-- The initial state is coherent: the only types are built in, and there are no classes. -/
theorem Analysis.coherent_initial (config : WarningConfig) : (initial config).Coherent where
  formed := wellFormed_initial
  defined type id name bases found := ((simple_of_builtin found).2.2 id name bases rfl).elim
  known id object found := by cases found

namespace Analysis.Coherent

variable {state : Analysis}

/-- The type of a new class is admitted: its bases are known, and no type belongs to the class
yet. -/
theorem admits_class (coherent : state.Coherent) {definition : ClassDefinition}
    {bases : List TypeId} (found : state.baseTypes definition.bases = .ok bases) :
    state.types.Admits (.nominal state.classes.nextId definition.name
      (if bases.isEmpty then [.object] else bases)) where
  components component member := by
    change component ∈ (if bases.isEmpty then [.object] else bases) at member
    split at member
    · rw [List.mem_singleton.mp member]
      exact coherent.formed.starts.knows (by decide)
    · obtain ⟨base, -, object, present, rfl⟩ :=
        ClassTable.exists_of_mem_typed (baseTypes_eq_ok found) member
      exact coherent.known base object present
  flat := nofun
  fresh id name bases same other otherName otherBases present := by
    cases same
    exact Nat.lt_irrefl _ (coherent.defined other _ otherName otherBases present)

/-- A class statement that succeeds keeps the state coherent. -/
theorem define (coherent : state.Coherent) {definition : ClassDefinition} {bases : List TypeId}
    (found : state.baseTypes definition.bases = .ok bases) :
    (state.defined definition bases).Coherent := by
  have admitted := coherent.admits_class found
  have size : (state.defined definition bases).classes.size = state.classes.size + 1 := by
    simp [Analysis.defined, ClassTable.push, ClassTable.size]
  refine ⟨(coherent.formed.intern admitted).register _ _, ?_, ?_⟩
  · intro type id name others present
    rw [size]
    have older : state.types.get? type = some (.nominal id name others) →
        id.index < state.classes.size + 1 := fun before =>
      Nat.lt_succ_of_lt (coherent.defined type id name others before)
    change (TypeM.intern _ state.types).2.get? type = _ at present
    rcases TypeM.intern_cases (.nominal state.classes.nextId definition.name
      (if bases.isEmpty then [.object] else bases)) state.types with ⟨_, _, same⟩ | ⟨_, added⟩
    · rw [same] at present
      exact older present
    · rw [added] at present
      rcases get?_of_append present with before | ⟨-, new⟩
      · exact older before
      · cases new
        exact Nat.lt_succ_self _
  · intro id object present
    rcases ClassTable.get?_of_push present with before | ⟨-, rfl⟩
    · exact (TypeM.intern_grows _ state.types).knows (coherent.known id object before)
    · exact TypeM.knows_intern coherent.formed.inStep _

/-- A decoration that checks values over known identifiers keeps the state coherent. -/
theorem decorate (coherent : state.Coherent) (ordered : state.classes.BasesFirst)
    (options : Options) (id : ClassId)
    (known : ∀ object, state.classes.get? id = some object →
      ∀ component ∈ object.body.checkedComponents, state.types.Knows component) :
    (stateAfter (Decoration.decorate options id) state).Coherent := by
  rcases Decoration.stateAfter_cases ordered options id with same | ⟨object, _, found, _, outcome⟩
  · rw [same]
    exact coherent
  obtain ⟨typed, among, grown⟩ := outcome.types object found
  obtain ⟨edit, tables, edited⟩ := outcome.classes
  have typedKnown : ∀ value ∈ typed, ∀ component ∈ value.components,
      state.types.Knows component := by
    intro value checked component mentioned
    obtain ⟨entry, listed, within⟩ :=
      List.mem_flatMap.mp (Decoration.checkedValues_locals_subset _ (among checked))
    exact known object found component
      (List.mem_flatMap.mpr ⟨entry, listed, List.mem_flatMap.mpr ⟨value, within, mentioned⟩⟩)
  have extension := (Value.types_extension coherent.formed typedKnown).1
  refine coherent.of_extension (grown ▸ extension) ?_ ?_
  · rw [edited, ClassTable.size_modify]
  · intro other later present
    rw [edited, ClassTable.get?_modify] at present
    split at present
    · next same =>
      obtain ⟨earlier, before, rfl⟩ := Option.map_eq_some_iff.mp present
      have kept : (edit earlier).type = earlier.type := by rw [tables.tables earlier]
      refine ⟨earlier, same ▸ before, ?_⟩
      rw [ClassObject.withConstructor]
      split <;> exact kept
    · exact ⟨later, present, rfl⟩

end Analysis.Coherent

namespace Operation

variable {state : Analysis} {operation : Operation}

/-- An operation that checks values over known identifiers decorates coherently. -/
theorem coherent_decoration (coherent : state.Coherent) (ordered : state.classes.BasesFirst)
    {options : Options} {id : ClassId}
    (decorates : operation.decoration? state = some (options, id))
    (known : ∀ component ∈ operation.checkedComponents state, state.types.Knows component) :
    (stateAfter (Decoration.decorate options id) state).Coherent := by
  refine coherent.decorate ordered options id fun object found component listed => ?_
  refine known component ?_
  rw [checkedComponents, decorates]
  dsimp only
  rw [found]
  exact listed

/-- The components that are known together are known for each value. -/
theorem knows_components {values : List Value}
    (known : ∀ component ∈ values.flatMap Value.components, state.types.Knows component) :
    ∀ value ∈ values, ∀ component ∈ value.components, state.types.Knows component :=
  fun value listed component mentioned =>
    known component (List.mem_flatMap.mpr ⟨value, listed, mentioned⟩)

/-- An operation that builds types from known identifiers only keeps the state coherent. -/
theorem coherent_run (coherent : state.Coherent) (ordered : state.classes.BasesFirst)
    (known : operation.Known state) : (operation.run state).Coherent := by
  have formed := coherent.formed
  cases operation with
  | container qualified arguments =>
    exact coherent.of_types (TypeM.container_extension formed qualified known)
  | parameterize name arguments =>
    exact coherent.of_types (TypeM.parameterize_extension formed name known)
  | union members => exact coherent.of_types (TypeM.union_extension formed known)
  | optional type =>
    have builtin : state.types.Knows .none := formed.starts.knows (by decide)
    refine coherent.of_types (TypeM.union_extension formed (List.forall_mem_cons.mpr ?_))
    exact ⟨known type List.mem_cons_self, List.forall_mem_singleton.mpr builtin⟩
  | callable parameters result required =>
    exact coherent.of_types (TypeM.callable_extension formed known required)
  | typeOf var =>
    exact coherent.of_types (Variable.type_extension formed (knows_components known))
  | badMatches var declared point =>
    refine coherent.of_types (badMatches_extension formed state.program declared point ?_)
    intro binding listed
    exact knows_components known binding.value (List.mem_map_of_mem listed)
  | define definition =>
    rw [run, AnalysisM.stateAfter_define]
    cases based : state.baseTypes definition.bases with
    | error error => exact coherent
    | ok bases => exact coherent.define based
  | describeField arguments =>
    exact coherent.of_definesNothing (Field.definesNothing_call arguments)
  | call callee arguments =>
    exact coherent.of_definesNothing (AnalysisM.definesNothing_call callee arguments)
  | instantiate type =>
    exact coherent.of_definesNothing (AnalysisM.definesNothing_instantiate type)
  | advance label => exact coherent.of_definesNothing (AnalysisM.definesNothing_advance label)
  | branch source label =>
    exact coherent.of_definesNothing (AnalysisM.definesNothing_branch source label)
  | warn warning => exact coherent.of_definesNothing (AnalysisM.definesNothing_warn warning)
  | decorate decorator id =>
    have decorates : (decorate decorator id).decoration? state = some (_, id) := rfl
    rw [run, Decorator.stateAfter_decorate]
    exact coherent_decoration coherent ordered decorates known
  | apply decorator id =>
    have decorates : (apply decorator id).decoration? state = some (_, id) := rfl
    rw [run, Decorator.stateAfter_apply]
    exact coherent_decoration coherent ordered decorates known
  | callDecorator decorator arguments =>
    rw [run, Decorator.stateAfter_call]
    cases decorates : (callDecorator decorator arguments).decoration? state with
    | none => exact coherent
    | some chosen => exact coherent_decoration coherent ordered decorates known

end Operation

/-- Runs that build types from known identifiers only reach coherent states. -/
theorem Reaches.coherent {config : WarningConfig} {state : Analysis}
    (reached : Reaches Operation.Known (Analysis.initial config) state) : state.Coherent := by
  induction reached with
  | refl => exact Analysis.coherent_initial config
  | step reached operation known ih => exact operation.coherent_run ih reached.basesFirst known

section

variable {config : WarningConfig} {state : Analysis}

/-- On the static types of a reached state assignability is reflexive and transitive, the empty type
is below every type, and `object` is above every type. -/
theorem Reaches.isAssignable_preorder
    (reached : Reaches Operation.Known (Analysis.initial config) state)
    {first second third : TypeId} (isFirst : state.types.Static first)
    (isSecond : state.types.Static second) (isThird : state.types.Static third) :
    state.types.isAssignable first first = true ∧
      (state.types.isAssignable first second = true →
        state.types.isAssignable second third = true →
        state.types.isAssignable first third = true) ∧
      state.types.isAssignable .never first = true ∧
      state.types.isAssignable first .object = true := by
  have formed := reached.coherent.formed
  have isNever : state.types.get? .never = some .never := formed.get?_builtin rfl
  exact ⟨state.types.isAssignable_refl first, formed.isAssignable_trans isFirst isSecond isThird,
    formed.isAssignable_of_any_or_never (.inr isNever) isFirst.knows,
    formed.isAssignable_object isFirst.knows⟩

/-- In a reached state the union of known types is their least upper bound, and the empty type when
there are none. The unknown type, the empty type, unions and classes may be among them. -/
theorem Reaches.union_isLeastUpperBound
    (reached : Reaches Operation.Known (Analysis.initial config) state) {types : List TypeId}
    (known : ∀ type ∈ types, state.types.Knows type) :
    (TypeM.union types state.types).2.IsJoin types (TypeM.union types state.types).1 ∧
      (types = [] → (TypeM.union types state.types).1 = .never) :=
  ⟨reached.coherent.formed.isJoin_union known, (reached.coherent.formed.union_spec known).2.1⟩

end

namespace Sample

/-- The state after the two class statements and `Optional[Base]`. -/
def optionalBase : Analysis := Operation.run defined (.optional ⟨17⟩)

theorem reaches_optionalBase : Reaches Operation.Known (.initial .standard) optionalBase :=
  .step (.step (.step .refl (.define base) (by decide)) (.define derived) (by decide))
    (.optional ⟨17⟩) (by decide)

theorem static_base : optionalBase.types.Static ⟨17⟩ :=
  .intro rfl nofun nofun (List.forall_mem_singleton.mpr (.intro rfl nofun nofun nofun))

/-- The derived class is below the optional base class. -/
theorem derived_isAssignable_optional :
    optionalBase.types.isAssignable ⟨18⟩ ⟨19⟩ = true := by
  have isDerived : optionalBase.types.Static ⟨18⟩ :=
    .intro rfl nofun nofun (List.forall_mem_singleton.mpr static_base)
  have isOptional : optionalBase.types.Static ⟨19⟩ :=
    .intro rfl nofun nofun (List.forall_mem_cons.mpr
      ⟨.intro rfl nofun nofun nofun, List.forall_mem_singleton.mpr static_base⟩)
  exact (reaches_optionalBase.isAssignable_preorder isDerived static_base isOptional).2.1
    (by decide) (by decide)

/-- `Optional[Derived]` is the least upper bound of the derived class and `None`. -/
theorem optional_isLeastUpperBound :
    (TypeM.union [⟨18⟩, .none] optionalBase.types).2.IsJoin [⟨18⟩, .none] ⟨20⟩ :=
  (reaches_optionalBase.union_isLeastUpperBound (by decide)).1

end Sample

end DataclassSynthesis
