import DataclassSynthesis.Proofs.DefaultMismatches
import DataclassSynthesis.Proofs.TableEdits

/-!
# The bounds of a decoration

Decorating a class changes no other class, and of the class its tables and its attributes only: the
members of plain and described attributes are replaced, constructor variables without a default are
forgotten, and those with a default are annotated anew where they stand. For that an annotated name
that is assigned must still be annotated, which no decoration undoes. The program grows by one point
for each constructor variable, and everything else grows at the end
(`DataclassSynthesis.Reaches.decorate_bounded`).
-/

namespace DataclassSynthesis

namespace Body

/-- The constructor variables of a body, each once, where it is annotated first. -/
def initVariables (types : TypeContext) (body : Body) : List String :=
  body.attributeNames.filter fun name => (body.marked? types .initVariable name).isSome

/-- Whether decorating may replace or drop the member of a name: it is annotated, does not belong to
the language, and is neither a class variable nor a constructor variable with a default. -/
def replacesMember (types : TypeContext) (body : Body) (name : String) : Bool :=
  body.attributeNames.contains name && (body.marked? types .classVariable name).isNone &&
    !((body.marked? types .initVariable name).isSome && (body.lastValue? name).isSome)

/-- Whether decorating leaves the member of a name alone, whatever the class is. -/
def keepsMember (types : TypeContext) (body : Body) (name : String) : Bool :=
  name != constructorName && !body.replacesMember types name

/-- The type of an annotated name after decorating: a constructor variable with a default has the
type that its marker is applied to, one without a default has none, and any other name keeps its
type. -/
def retyped? (types : TypeContext) (body : Body) (name : String) (type : TypeId) : Option TypeId :=
  if name ∈ body.initVariables types then
    if (body.lastValue? name).isSome then body.marked? types .initVariable name else none
  else some type

end Body

/-- The names that a class body annotates and assigns are annotated names of the class. -/
def ClassObject.AnnotatesAssigned (object : ClassObject) : Prop :=
  ∀ name ∈ object.body.attributeNames, (object.body.lastValue? name).isSome = true →
    name ∈ object.annotations.keys

/-- A class after an edit: it has its body, and of the names that the given body assigns it has lost
none from its annotated names. -/
structure ClassObject.KeepsAssigned (body : Body) (before after : ClassObject) : Prop where
  sameBody : after.body = before.body
  names : ∀ name, (body.lastValue? name).isSome = true → name ∈ before.annotations.keys →
    name ∈ after.annotations.keys

namespace ClassObject.KeepsAssigned

variable {body : Body} {first second third : ClassObject}

theorem refl (body : Body) (object : ClassObject) : object.KeepsAssigned body object :=
  ⟨rfl, fun _ _ present => present⟩

theorem trans (early : first.KeepsAssigned body second) (late : second.KeepsAssigned body third) :
    first.KeepsAssigned body third :=
  ⟨late.sameBody.trans early.sameBody, fun name assigned present =>
    late.names name assigned (early.names name assigned present)⟩

/-- An edit that keeps the assigned annotations keeps every assigned name annotated. -/
theorem annotatesAssigned (keeps : first.KeepsAssigned first.body second)
    (annotates : first.AnnotatesAssigned) : second.AnnotatesAssigned := by
  intro name listed assigned
  rw [keeps.sameBody] at listed assigned
  exact keeps.names name assigned (annotates name listed assigned)

end ClassObject.KeepsAssigned

namespace Decoration

/-- Collecting names of a class body keeps the annotated names that the body assigns. -/
theorem collectedBy_keepsAssigned (start : Analysis) {body : Body}
    {steps : List (Nat × String × LocalSummary)}
    (ordinary : ∀ step ∈ steps, constructorName ≠ step.2.1)
    (summarized : ∀ step ∈ steps, step.2.2 = body.summary step.2.1) (object : ClassObject) :
    object.KeepsAssigned body (collectedBy start steps object) := by
  induction steps generalizing object with
  | nil => exact .refl body object
  | cons step rest ih =>
    obtain ⟨isOrdinary, othersOrdinary⟩ := List.forall_mem_cons.mp ordinary
    obtain ⟨isSummary, othersSummarized⟩ := List.forall_mem_cons.mp summarized
    have tables :=
      (isTableEdit_edit isOrdinary start.types (start.pointAfter step.1) step.2.2).tables object
    have first : object.KeepsAssigned body
        (step.2.2.edit start.types (start.pointAfter step.1) step.2.1 object) := by
      refine ⟨by rw [tables], fun name assigned present => ?_⟩
      -- A name is forgotten only if its summary has no value, and then the body never assigns it.
      refine LocalSummary.mem_keys_edit start.types _ step.2.2 (fun same => ?_) present
      rw [isSummary, Body.summary_value, ← same]
      exact assigned
    exact first.trans (ih othersOrdinary othersSummarized _)

/-- Decorating a class keeps the annotated names that its body assigns. -/
theorem storedClass_keepsAssigned (state : Analysis) (options : Options) (id : ClassId)
    (point : PointId) (object : ClassObject) :
    object.KeepsAssigned object.body (storedClass state options id point object) := by
  have kept := collectedBy_keepsAssigned state (steps_ordinary state.types object.body)
    (fun step listed => (summary_of_mem_steps listed).2) object
  unfold storedClass ClassObject.withConstructor
  dsimp only
  split <;> exact ⟨kept.sameBody, kept.names⟩

end Decoration

/-- No operation makes a class forget the annotation of a name that its body assigns. -/
theorem Operation.annotatesAssigned_run {state : Analysis} (ordered : state.classes.BasesFirst)
    (annotates : ∀ id object, state.classes.get? id = some object → object.AnnotatesAssigned)
    (operation : Operation) :
    ∀ id object, (operation.run state).classes.get? id = some object →
      object.AnnotatesAssigned := by
  rcases operation.run_cases state with ⟨definition, rfl⟩ | ⟨options, target, -, ran⟩ | same
  · rw [run, AnalysisM.stateAfter_define]
    cases state.baseTypes definition.bases with
    | error error => exact annotates
    | ok bases =>
      intro id object found
      rcases ClassTable.get?_of_push found with before | ⟨-, rfl⟩
      · exact annotates id object before
      · intro name listed _
        rw [Body.attributeNames, List.mem_eraseDups] at listed
        exact (NameTable.mem_keys_ofList _).mpr (List.mem_filter.mp listed).1
  · rw [ran]
    cases found : state.classes.get? target with
    | none =>
      rw [stateAfter, Decoration.decorate_of_missing found]
      exact annotates
    | some object =>
      obtain ⟨after, _, _, decorated, completed⟩ :=
        Decoration.decorate_steps ordered found options
      intro id later present
      rw [stateAfter_of_ok decorated, completed.classes, ClassTable.get?_modify] at present
      split at present
      · rw [found] at present
        obtain rfl := Option.some.inj present
        exact (Decoration.storedClass_keepsAssigned ..).annotatesAssigned
          (annotates target object found)
      · exact annotates id later present
  · rw [same]
    exact annotates

/-- In every reached state classes annotate what they assign. -/
theorem Reaches.annotatesAssigned {admits : Analysis → Operation → Prop} {config : WarningConfig}
    {state : Analysis} (reached : Reaches admits (Analysis.initial config) state) :
    ∀ id object, state.classes.get? id = some object → object.AnnotatesAssigned := by
  induction reached with
  | refl =>
    intro id object found
    cases found
  | step reached operation _ ih => exact operation.annotatesAssigned_run reached.basesFirst ih

namespace Body

variable {types : TypeContext} {body : Body} {name : String}

/-- The constructor variables that are created while a body is collected are those of the body. -/
theorem instances_locals (types : TypeContext) (body : Body) :
    Decoration.instances types (body.locals true .firstAnnotated).entries =
      (body.initVariables types).length := by
  rw [Decoration.instances, locals_entries, List.countP_map, initVariables,
    ← List.countP_eq_length_filter]
  simp only [Function.comp_def, summary_marked?]

/-- A name is collected once, after the constructor variables before it, if the body annotates
it. -/
theorem find?_steps (types : TypeContext) (body : Body) (name : String) :
    (Decoration.steps types body).find? (fun step => step.2.1 == name) =
      if name ∈ body.attributeNames then
        some (body.instancesBefore types name, name, body.summary name)
      else none := by
  rw [Decoration.steps_eq, List.find?_map]
  split
  · next listed =>
    have present : (body.attributeNames.find? fun other => other == name).isSome = true :=
      List.find?_isSome.mpr ⟨name, listed, beq_self_eq_true name⟩
    obtain ⟨other, found⟩ := Option.isSome_iff_exists.mp present
    have same := List.find?_some found
    rw [beq_iff_eq] at same
    subst same
    simp only [Function.comp_def, found, Option.map_some]
  · next missing =>
    simp only [Option.map_eq_none_iff, List.find?_eq_none]
    intro other listed same
    exact missing (beq_iff_eq.mp same ▸ listed)

/-- What a name is annotated with after collecting is decided by its summary. -/
theorem retyped?_eq (types : TypeContext) (body : Body) (name : String) (type : TypeId) :
    (match (Decoration.steps types body).find? fun step => step.2.1 == name with
      | some step => step.2.2.retyped? types type
      | none => some type) = body.retyped? types name type := by
  rw [find?_steps, retyped?, initVariables]
  by_cases listed : name ∈ body.attributeNames
  · simp only [listed, ↓reduceIte, LocalSummary.retyped?, summary_marked?, summary_value,
      List.mem_filter, true_and]
    cases body.marked? types .initVariable name <;> rfl
  · simp only [listed, ↓reduceIte, List.mem_filter, false_and]

/-- The summary of a name replaces its member only if the body does. -/
theorem replacesMember_summary (listed : name ∈ body.attributeNames)
    (kept : body.replacesMember types name = false) :
    (body.summary name).replacesMember types = false := by
  simp only [replacesMember, List.contains_iff_mem.mpr listed, Bool.true_and] at kept
  simp only [LocalSummary.replacesMember, summary_marked?, summary_value, Bool.and_assoc, kept,
    Bool.and_false]

end Body

namespace Decoration

/-- Decorating rewrites or drops annotations as the body says. -/
theorem annotations_decorated (state : Analysis) {object : ClassObject}
    (annotates : object.AnnotatesAssigned) :
    (collectedBy state (steps state.types object.body) object).annotations =
      object.annotations.revise (object.body.retyped? state.types) := by
  have distinct := object.body.nodup_attributeNames
  rw [← map_name_steps state.types] at distinct
  rw [annotations_collectedBy distinct fun step listed assigned => ?_]
  · exact congrArg (NameTable.revise · object.annotations)
      (funext₂ fun name type => Body.retyped?_eq state.types object.body name type)
  · obtain ⟨isName, isSummary⟩ := summary_of_mem_steps listed
    rw [isSummary, Body.summary_value] at assigned
    exact annotates step.2.1 isName assigned

/-- Decorating leaves alone the members that the body does not replace, except for the
constructor. -/
theorem restrict_storedClass (state : Analysis) (options : Options) (id : ClassId)
    (point : PointId) (object : ClassObject) :
    (storedClass state options id point object).members.restrict
        (object.body.keepsMember state.types) =
      object.members.restrict (object.body.keepsMember state.types) := by
  have kept : ∀ step ∈ steps state.types object.body,
      object.body.keepsMember state.types step.2.1 = true →
        step.2.2.replacesMember state.types = false := by
    intro step listed keeps
    obtain ⟨isName, isSummary⟩ := summary_of_mem_steps listed
    rw [Body.keepsMember, Bool.and_eq_true, Bool.not_eq_true'] at keeps
    rw [isSummary]
    exact Body.replacesMember_summary isName keeps.2
  have collected := restrict_collectedBy kept object
  unfold storedClass ClassObject.withConstructor
  dsimp only
  split
  · have dropped : object.body.keepsMember state.types constructorName = false := by
      rw [Body.keepsMember, bne_self_eq_false, Bool.false_and]
    exact (NameTable.restrict_insert dropped _ _).trans collected
  · exact collected

end Decoration

/-- What decorating a class leaves alone, and how the rest changes. -/
structure Decoration.Bounded (id : ClassId) (object stored : ClassObject)
    (state after : Analysis) : Prop where
  others : ∀ other, other ≠ id → after.classes.get? other = state.classes.get? other
  found : after.classes.get? id = some stored
  /-- Of the class only the tables and the attributes change. -/
  tables : stored = { object with
    members := stored.members
    annotations := stored.annotations
    fields := stored.fields }
  /-- The members of all other names are the same, in the same order. -/
  members : stored.members.restrict (object.body.keepsMember state.types) =
    object.members.restrict (object.body.keepsMember state.types)
  constructor : object.members.contains constructorName = true →
    stored.members.find? constructorName = object.members.find? constructorName
  /-- Annotated names are dropped or rewritten where they stand. -/
  annotations : stored.annotations = object.annotations.revise (object.body.retyped? state.types)
  types : state.types.types <+: after.types.types
  errors : state.log.errors <+: after.log.errors
  warnings : state.log.warnings <+: after.log.warnings
  /-- Each constructor variable adds a point that continues the current one and becomes current. -/
  program : after.program = state.programAfter (object.body.initVariables state.types).length
  point : after.point = state.pointAfter (object.body.initVariables state.types).length

/-- Decorating a class of a reached state stays within its bounds, whatever the options. -/
theorem Reaches.decorate_bounded {config : WarningConfig} {state : Analysis}
    (reached : Reaches Operation.Any (Analysis.initial config) state) {id : ClassId}
    {object : ClassObject} (found : state.classes.get? id = some object) (options : Options) :
    ∃ after stored, Decoration.decorate options id state = .ok after.point after ∧
      Decoration.Bounded id object stored state after := by
  obtain ⟨after, errors, warnings, ran, completed⟩ :=
    Decoration.decorate_steps reached.basesFirst found options
  have stored := Decoration.storedClass_eq state options id after.point object
  refine ⟨after, Decoration.storedClass state options id after.point object, ran, ?_⟩
  exact
    { others := fun other differ => by
        rw [completed.classes, ClassTable.get?_modify_of_ne _ differ]
      found := by
        rw [completed.classes, ClassTable.get?_modify_self found]
      tables := by
        rw [stored]
      members := Decoration.restrict_storedClass ..
      constructor := fun present => by
        rw [Decoration.storedClass_constructor, present, Bool.not_true, Bool.and_false]
        rfl
      annotations := by
        rw [stored]
        exact Decoration.annotations_decorated state (reached.annotatesAssigned id object found)
      types := completed.created.grows.types
      errors := by
        rw [completed.log]
        exact List.prefix_append _ _
      warnings := by
        rw [completed.log]
        exact List.prefix_append _ _
      program := by
        rw [completed.created.program, object.body.instances_locals]
      point := by
        rw [completed.created.point, object.body.instances_locals] }

namespace Sample

/-- The statement `class Marked: seed: InitVar[int] = 1; gone: InitVar[int]; shared: ClassVar[int] =
2; x: int = 3`. -/
def marked : ClassDefinition :=
  ((((ClassDefinition.start "Marked" [] none).declare "seed" ⟨17⟩
    (.single (.constant (.int 1)) Program.entry)).annotate "gone" ⟨17⟩ none).declare "shared" ⟨18⟩
      (.single (.constant (.int 2)) Program.entry)).declare "x" .int
        (.single (.constant (.int 3)) Program.entry)

/-- The state after `InitVar[int]`, `ClassVar[int]` and the statement. -/
def definedMarked : Analysis :=
  Operation.run (Operation.run initVariable (.container Container.classVariable.qualified [.int]))
    (.define marked)

theorem reaches_definedMarked : Reaches Operation.Any (.initial .standard) definedMarked :=
  .step (.step (.step .refl (.container Container.initVariable.qualified [.int]) trivial)
    (.container Container.classVariable.qualified [.int]) trivial) (.define marked) trivial

/-- Decorating the class moves on by two points, annotates one constructor variable anew and forgets
the other. Their members, if any, and that of the class variable stay. -/
theorem marked_bounded :
    ∃ after stored, Decoration.decorate {} ⟨0⟩ definedMarked = .ok after.point after ∧
      after.classes.get? ⟨0⟩ = some stored ∧ after.point = ⟨2⟩ ∧
      after.program.points =
        [⟨"entry", none⟩, ⟨"instantiate", some ⟨0⟩⟩, ⟨"instantiate", some ⟨1⟩⟩] ∧
      stored.annotations.entries = [("seed", .int), ("shared", ⟨18⟩), ("x", .int)] ∧
      stored.members.find? "seed" = some (.single (.constant (.int 1)) Program.entry) ∧
      stored.members.find? "shared" = some (.single (.constant (.int 2)) Program.entry) := by
  obtain ⟨after, stored, ran, bounded⟩ :=
    @Reaches.decorate_bounded _ _ reaches_definedMarked ⟨0⟩ _ rfl {}
  have member : ∀ name value, marked.body.keepsMember definedMarked.types name = true →
      (NameTable.ofList marked.body.assignments).find? name = some value →
        stored.members.find? name = some value := by
    intro name value kept found
    have same := congrArg (fun table => table.find? name) bounded.members
    exact (NameTable.find?_restrict kept stored.members).symm.trans
      (same.trans ((NameTable.find?_restrict kept _).trans found))
  refine ⟨after, stored, ran, bounded.found, bounded.point.trans rfl, ?_, ?_, ?_, ?_⟩
  · rw [bounded.program]
    rfl
  · rw [bounded.annotations]
    rfl
  · exact member "seed" _ (by decide) rfl
  · exact member "shared" _ (by decide) rfl

end Sample

end DataclassSynthesis
