import DataclassSynthesis.Proofs.DecorationOutcome
import DataclassSynthesis.Proofs.Operation

/-!
# The classes of reached states

A class statement that fails changes nothing, and one that succeeds adds a class whose bases exist.
Decorations keep the bases of every class. So in every reached state bases are older than the
classes derived from them, and decorating an existing class stores what its ancestors and its body
prescribe (`DataclassSynthesis.Reaches.decorate_stores`).
-/

namespace DataclassSynthesis

/-- The types of the bases are found exactly when all bases exist, and then they are the types of
their instances. -/
theorem Analysis.baseTypes_eq_ok {state : Analysis} {bases : List ClassId} {types : List TypeId}
    (found : state.baseTypes bases = .ok types) :
    types.map some = bases.map fun base => (state.classes.get? base).map ClassObject.type := by
  induction bases generalizing types with
  | nil =>
    cases found
    rfl
  | cons base rest ih =>
    simp only [baseTypes, class?] at found
    cases present : state.classes.get? base with
    | none =>
      rw [present] at found
      cases found
    | some object =>
      cases others : state.baseTypes rest with
      | error error =>
        rw [present, others] at found
        cases found
      | ok remaining =>
        rw [present, others] at found
        cases found
        rw [List.map_cons, List.map_cons, present, ih others, Option.map_some]

section

variable {table : ClassTable} {ids : List ClassId} {types : List TypeId}

/-- Classes whose types are listed exist, and theirs are among the types. -/
theorem ClassTable.exists_of_typed
    (typed : types.map some = ids.map fun id => (table.get? id).map ClassObject.type)
    {id : ClassId} (member : id ∈ ids) :
    ∃ object, table.get? id = some object ∧ object.type ∈ types := by
  have listed : (table.get? id).map ClassObject.type ∈ types.map some := by
    rw [typed]
    exact List.mem_map_of_mem member
  obtain ⟨type, among, same⟩ := List.mem_map.mp listed
  obtain ⟨object, found, rfl⟩ := Option.map_eq_some_iff.mp same.symm
  exact ⟨object, found, among⟩

/-- Each of the types of some classes is that of one of them. -/
theorem ClassTable.exists_of_mem_typed
    (typed : types.map some = ids.map fun id => (table.get? id).map ClassObject.type)
    {type : TypeId} (member : type ∈ types) :
    ∃ id ∈ ids, ∃ object, table.get? id = some object ∧ object.type = type := by
  have listed : some type ∈ types.map some := List.mem_map_of_mem member
  rw [typed] at listed
  obtain ⟨id, among, same⟩ := List.mem_map.mp listed
  exact ⟨id, among, Option.map_eq_some_iff.mp same⟩

end

/-- The class that a class statement adds when its bases have the given types, with the types that
the context holds then. -/
def Analysis.defined (state : Analysis) (definition : ClassDefinition) (bases : List TypeId) :
    Analysis :=
  let id := state.classes.nextId
  let typed := TypeM.nominal id definition.name (if bases.isEmpty then [.object] else bases)
    state.types
  { state with
    types := typed.2.register definition.name typed.1
    classes := state.classes.push (ClassObject.ofBody id definition.name typed.1 definition.bases
      definition.body definition.span) }

/-- Adding a class adds its type, and names it. -/
theorem Analysis.grows_defined (state : Analysis) (definition : ClassDefinition)
    (bases : List TypeId) : state.types.Grows (state.defined definition bases).types :=
  (TypeM.intern_grows _ state.types).trans (TypeContext.grows_register _ _ _)

/-- A class statement whose bases exist adds its class. -/
theorem AnalysisM.define_of_ok {definition : ClassDefinition} {state : Analysis}
    {bases : List TypeId} (based : state.baseTypes definition.bases = .ok bases) :
    define definition state = .ok state.classes.nextId (state.defined definition bases) := by
  have accepted : ofExcept (state.baseTypes definition.bases) state = .ok bases state := by
    rw [based]
    rfl
  rw [define, get_bind, bind_of_ok accepted]
  rfl

/-- A class statement with an unknown base changes nothing. -/
theorem AnalysisM.define_of_error {definition : ClassDefinition} {state : Analysis}
    {error : DecorateError} (missing : state.baseTypes definition.bases = .error error) :
    define definition state = .error error state := by
  have refused : ofExcept (state.baseTypes definition.bases) state = .error error state := by
    rw [missing]
    rfl
  rw [define, get_bind, bind_of_error refused]

/-- A class statement adds its class, or fails and changes nothing. -/
theorem AnalysisM.stateAfter_define (definition : ClassDefinition) (state : Analysis) :
    stateAfter (define definition) state = match state.baseTypes definition.bases with
      | .ok bases => state.defined definition bases
      | .error _ => state := by
  cases based : state.baseTypes definition.bases with
  | error error => rw [stateAfter, define_of_error based]
  | ok bases => rw [stateAfter, define_of_ok based]

/-- A decoration in a table with older bases changes nothing, when the class does not exist, or has
its outcome. -/
theorem Decoration.stateAfter_cases {state : Analysis} (ordered : state.classes.BasesFirst)
    (options : Options) (id : ClassId) :
    stateAfter (decorate options id) state = state ∨
      ∃ object own, state.classes.get? id = some object ∧
        decorate options id state = .ok (stateAfter (decorate options id) state).point
          (stateAfter (decorate options id) state) ∧
        Outcome options id own state (stateAfter (decorate options id) state) := by
  cases found : state.classes.get? id with
  | none =>
    rw [stateAfter, decorate_of_missing found]
    exact .inl rfl
  | some object =>
    obtain ⟨after, ran, outcome⟩ := decorate_spec ordered found options
    rw [stateAfter_of_ok ran]
    exact .inr ⟨object, _, rfl, ran, outcome⟩

/-- Bases stay older when a class is decorated. -/
theorem Decoration.Outcome.basesFirst {options : Options} {id : ClassId} {own : List Attribute}
    {before after : Analysis} (outcome : Outcome options id own before after)
    (ordered : before.classes.BasesFirst) : after.classes.BasesFirst := by
  obtain ⟨edit, tables, edited⟩ := outcome.classes
  rw [edited]
  refine ordered.modify id fun object => ?_
  have kept : (edit object).bases = object.bases := by rw [tables.tables object]
  rw [ClassObject.withConstructor]
  split <;> exact kept

/-- Every operation keeps bases older. -/
theorem Operation.basesFirst_run {state : Analysis} (ordered : state.classes.BasesFirst)
    (operation : Operation) : (operation.run state).classes.BasesFirst := by
  rcases operation.run_cases state with ⟨definition, rfl⟩ | ⟨options, id, -, ran⟩ | same
  · rw [run, AnalysisM.stateAfter_define]
    cases based : state.baseTypes definition.bases with
    | error error => exact ordered
    | ok bases =>
      refine ordered.push fun base member => ?_
      obtain ⟨object, found, -⟩ :=
        ClassTable.exists_of_typed (Analysis.baseTypes_eq_ok based) member
      exact ⟨object, found⟩
  · rw [ran]
    rcases Decoration.stateAfter_cases ordered options id with same | ⟨_, _, _, _, outcome⟩
    · rw [same]
      exact ordered
    · exact outcome.basesFirst ordered
  · rw [same]
    exact ordered

/-- In every reached state bases are older than the classes derived from them. -/
theorem Reaches.basesFirst {admits : Analysis → Operation → Prop} {config : WarningConfig}
    {state : Analysis} (reached : Reaches admits (Analysis.initial config) state) :
    state.classes.BasesFirst := by
  induction reached with
  | refl =>
    intro id object found
    cases found
  | step _ operation _ ih => exact operation.basesFirst_run ih

/-- Decorating an existing class of a reached state succeeds, whatever the options. It stores the
lists of the nearest decorated ancestors, in the order in which the bases name them, merged with the
attributes that the body gives. -/
theorem Reaches.decorate_stores {config : WarningConfig} {state : Analysis}
    (reached : Reaches Operation.Any (Analysis.initial config) state) {id : ClassId}
    {object : ClassObject} (found : state.classes.get? id = some object) (options : Options) :
    ∃ point after stored, Decoration.decorate options id state = .ok point after ∧
      after.classes.get? id = some stored ∧
      stored.fields = some (Attribute.mergeAll []
        (state.classes.inheritedParts id ++ object.body.ownAttributes state.types)) := by
  obtain ⟨after, ran, outcome⟩ := Decoration.decorate_spec reached.basesFirst found options
  obtain ⟨edit, tables, edited⟩ := outcome.classes
  have nowFound := ClassTable.get?_modify_self found _ ▸ congrArg (ClassTable.get? · id) edited
  refine ⟨after.point, after, _, ran, nowFound, ?_⟩
  rw [ClassObject.withConstructor]
  split <;> rfl

namespace Sample

/-- The statement `class Base: x: int`. -/
def base : ClassDefinition := (ClassDefinition.start "Base" [] none).annotate "x" .int none

/-- The statement `class Derived(Base): y: str`. -/
def derived : ClassDefinition :=
  (ClassDefinition.start "Derived" [⟨0⟩] none).annotate "y" .str none

/-- The state after both statements. -/
def defined : Analysis :=
  Operation.run (Operation.run (.initial .standard) (.define base)) (.define derived)

theorem reaches_defined : Reaches Operation.Any (.initial .standard) defined :=
  .step (.step .refl (.define base) trivial) (.define derived) trivial

end Sample

/-- The attributes of a decorated base come before those of the derived class. -/
theorem Sample.decorate_stores_derived :
    ∃ point after stored, Decoration.decorate {} ⟨1⟩
        (Operation.run defined (.decorate .fresh ⟨0⟩)) = .ok point after ∧
      after.classes.get? ⟨1⟩ = some stored ∧
      stored.fields = some [⟨"x", .int, true, none⟩, ⟨"y", .str, true, none⟩] := by
  have stores := @Reaches.decorate_stores _ _
    (reaches_defined.step (.decorate .fresh ⟨0⟩) trivial) ⟨1⟩ _ rfl {}
  rw [ClassTable.inheritedParts] at stores
  exact stores

end DataclassSynthesis
