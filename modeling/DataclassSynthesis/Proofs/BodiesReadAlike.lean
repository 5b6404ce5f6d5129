import DataclassSynthesis.Proofs.StableMarkers

/-!
# Class bodies that read alike

Decorating reads a class body through its annotations and through the attribute that each annotated
name has. So two class statements that differ in their bodies only, and whose bodies agree on these,
are decorated alike: both decorations store the same attributes, report the same, and add the same
constructor (`DataclassSynthesis.ClassDefinition.decorated_alike`).
-/

namespace DataclassSynthesis

/-- Two summaries of a name read alike: collecting sees the same type, the same place and the same
attribute. -/
structure LocalSummary.ReadsAlike (base : TypeContext) (name : String)
    (left right : LocalSummary) : Prop where
  type : right.type = left.type
  span : right.span = left.span
  attr : right.attribute? base name = left.attribute? base name

/-- Two states differ at most in their classes, and both have the class of an identity. Their types
have the markers of the given ones. -/
structure Analysis.Beside (base : TypeContext) (id : ClassId) (left right : Analysis) :
    Prop where
  types : right.types = left.types
  program : right.program = left.program
  log : right.log = left.log
  point : right.point = left.point
  markers : base.SameMarkers left.types
  leftFound : ∃ object, left.classes.get? id = some object
  rightFound : ∃ object, right.classes.get? id = some object

namespace Decoration

open Analysis

variable {base : TypeContext} {id : ClassId}

/-- Checking a default does not look at the class that is being decorated. -/
theorem checkDefault_beside (name : String) (type : TypeId) (default : Option Variable)
    (span : Span) :
    RunsAlike (Beside base id) Eq (checkDefault name type default span)
      (checkDefault name type default span) := by
  cases default with
  | none => exact .pure rfl
  | some value =>
    intro left right same
    rw [checkDefault_eq, checkDefault_eq, same.types, same.program, same.point, same.log]
    refine ⟨rfl, rfl, rfl, rfl, rfl, ?_, same.leftFound, same.rightFound⟩
    dsimp only
    rw [badMatches_types]
    exact same.markers.trans (Value.types_sameMarkers ..)

/-- Kinds that give the same attribute and create as many instances are collected alike. -/
theorem collectKind_beside (name : String) (type : TypeId)
    (value other : Option Variable) {kind another : MemberKind}
    (instances : another.instances = kind.instances)
    (attr : another.attribute? name type other = kind.attribute? name type value) :
    RunsAlike (Beside base id) Eq (collectKind id name type value kind)
      (collectKind id name type other another) := by
  intro left right same
  obtain ⟨_, isLeft⟩ := same.leftFound
  obtain ⟨_, isRight⟩ := same.rightFound
  have created : left.Created 0 [] left := ⟨rfl, left.programAfter_zero.symm, rfl⟩
  have createdBeside : left.Created 0 [] right :=
    ⟨same.types, same.program.trans created.program, same.point⟩
  rw [collectKind_eq isLeft, collectKind_eq isRight, created_moveOn created,
    created_moveOn createdBeside, instances, attr]
  exact ⟨rfl, same.types, rfl, same.log, rfl, same.markers,
    ⟨_, ClassTable.get?_modify_self isLeft _⟩, ⟨_, ClassTable.get?_modify_self isRight _⟩⟩

/-- Collecting a name has the same outcome from summaries that read alike. -/
theorem collectLocal_beside {name : String} {left right : LocalSummary}
    (alike : left.ReadsAlike base name right) :
    RunsAlike (Beside base id) Eq (collectLocal id name left) (collectLocal id name right) := by
  unfold collectLocal
  rw [alike.type, alike.span]
  cases typed : left.type with
  | none => exact .pure rfl
  | some type =>
    refine .get_bind fun before start same => ?_
    have attr := alike.attr
    simp only [LocalSummary.attribute?, alike.type, typed, Option.bind_some,
      ← same.markers.kind_eq] at attr
    rw [same.types]
    refine (collectKind_beside name type left.value right.value ?_ attr).bind
      fun given _ isGiven => ?_
    · rw [MemberKind.instances_of, MemberKind.instances_of]
    · subst isGiven
      cases given with
      | none => exact .pure rfl
      | some attr => exact (checkDefault_beside _ _ _ _).bind fun _ _ _ => .pure rfl

/-- Names whose summaries read alike are collected alike. -/
theorem collect_beside {left right : String → LocalSummary} {names : List String}
    (alike : ∀ name ∈ names, (left name).ReadsAlike base name (right name)) :
    RunsAlike (Beside base id) Eq (collect id (names.map fun name => (name, left name)))
      (collect id (names.map fun name => (name, right name))) := by
  induction names with
  | nil => exact .pure rfl
  | cons name rest ih =>
    obtain ⟨first, others⟩ := List.forall_mem_cons.mp alike
    refine (collectLocal_beside first).bind fun own _ isOwn => ?_
    refine (ih others).bind fun later _ isLater => ?_
    rw [isOwn, isLater]
    exact .pure rfl

theorem warn_beside (warning : Warning) :
    RunsAlike (Beside base id) Eq (AnalysisM.warn warning) (AnalysisM.warn warning) :=
  .modify fun _ _ same => { same with log := by rw [same.log] }

/-- Repetitions are reported without looking at the class. -/
theorem reportRepetitions_beside (repetitions : List Body.Repetition) :
    RunsAlike (Beside base id) Eq (reportRepetitions repetitions)
      (reportRepetitions repetitions) := by
  induction repetitions with
  | nil => exact .pure rfl
  | cons repetition rest ih => exact (warn_beside _).bind fun _ _ _ => ih

theorem reportOrder_beside {object other : ClassObject} (name : other.name = object.name)
    (span : other.span = object.span) (attrs : List Attribute) :
    RunsAlike (Beside base id) Eq (reportOrder object attrs) (reportOrder other attrs) := by
  unfold reportOrder
  rw [name, span]
  cases Attribute.requiredAfterDefault attrs with
  | none => exact .pure rfl
  | some attr => exact warn_beside _

end Decoration

namespace Body

/-- The statements of a body that annotate their names. -/
def annotating (body : Body) : Body := body.filter (·.annotated?.isSome)

/-- Two bodies read alike: they have the same annotations at the same places, and every annotated
name has the same attribute in both. -/
structure ReadsAlike (base : TypeContext) (left right : Body) : Prop where
  annotating : right.annotating = left.annotating
  attr : ∀ name ∈ left.attributeNames,
    (right.summary name).attribute? base name = (left.summary name).attribute? base name

/-- Leaving out what is assigned keeps the annotations. -/
theorem annotations_annotating (body : Body) : body.annotating.annotations = body.annotations := by
  induction body with
  | nil => rfl
  | cons statement rest ih =>
    simp only [annotating, annotations] at ih ⊢
    cases annotated : statement.annotated? with
    | none => simp [annotated, ih]
    | some type => simp [annotated, ih]

theorem firstAnnotation?_annotating (body : Body) (name : String) :
    body.annotating.firstAnnotation? name = body.firstAnnotation? name := by
  rw [firstAnnotation?, firstAnnotation?, annotating, List.find?_filter]
  refine congrArg (fun test => body.find? test) (funext fun statement => ?_)
  cases statement.annotated?.isSome with
  | false => simp
  | true => simp [beq_eq_decide]

theorem repetitionsAfter_annotating (earlier : List (String × Span)) (body : Body) :
    repetitionsAfter earlier body.annotating = repetitionsAfter earlier body := by
  induction body generalizing earlier with
  | nil => rfl
  | cons statement rest ih =>
    cases annotated : statement.annotated?.isSome with
    | false =>
      rw [annotating, List.filter_cons_of_neg (by simp [annotated]), ← annotating, ih]
      simp [repetitionsAfter, Option.isSome_eq_false_iff.mp annotated]
    | true =>
      rw [annotating, List.filter_cons, if_pos annotated, ← annotating]
      simp only [repetitionsAfter, ih]

/-- An annotated name has a last type. -/
theorem exists_lastType {body : Body} {name : String}
    (annotated : name ∈ body.annotations.map Prod.fst) :
    ∃ type, body.lastType? name = some type := by
  obtain ⟨entry, listed, named⟩ := List.mem_map.mp annotated
  have about : entry ∈ body.annotations.filter fun entry => entry.1 == name :=
    List.mem_filter.mpr ⟨listed, beq_iff_eq.mpr named⟩
  have nonempty : (body.annotations.filter fun entry => entry.1 == name).map Prod.snd ≠ [] :=
    List.ne_nil_of_mem (List.mem_map_of_mem about)
  exact Option.isSome_iff_exists.mp (List.getLast?_isSome.mpr nonempty)

namespace ReadsAlike

variable {base : TypeContext} {left right : Body}

/-- Bodies that read alike have the same annotations. -/
theorem annotations (alike : left.ReadsAlike base right) :
    right.annotations = left.annotations := by
  rw [← annotations_annotating, alike.annotating, annotations_annotating]

theorem attributeNames (alike : left.ReadsAlike base right) :
    right.attributeNames = left.attributeNames := by
  rw [Body.attributeNames, Body.attributeNames, alike.annotations]

theorem lastType? (alike : left.ReadsAlike base right) (name : String) :
    right.lastType? name = left.lastType? name := by
  rw [Body.lastType?, Body.lastType?, alike.annotations]

theorem repetitions (alike : left.ReadsAlike base right) :
    right.repetitions = left.repetitions := by
  rw [Body.repetitions, Body.repetitions, ← repetitionsAfter_annotating, alike.annotating,
    repetitionsAfter_annotating]

/-- An annotated name is summarized alike in both bodies. -/
theorem summary (alike : left.ReadsAlike base right) {name : String}
    (listed : name ∈ left.attributeNames) :
    (left.summary name).ReadsAlike base name (right.summary name) := by
  have annotated : name ∈ left.annotations.map Prod.fst :=
    (List.mem_filter.mp (List.mem_eraseDups.mp listed)).1
  obtain ⟨type, typed⟩ := exists_lastType annotated
  obtain ⟨first, isFirst, span⟩ := exists_firstAnnotation typed
  obtain ⟨_, alsoFirst, spanRight⟩ := exists_firstAnnotation ((alike.lastType? name).trans typed)
  rw [← firstAnnotation?_annotating, alike.annotating, firstAnnotation?_annotating, isFirst]
    at alsoFirst
  obtain rfl := Option.some.inj alsoFirst
  refine ⟨?_, spanRight.trans span.symm, alike.attr name listed⟩
  rw [summary_type, summary_type, alike.lastType?]

end ReadsAlike

end Body

/-- Bodies that read alike give the same attributes when they are collected, after their repetitions
are reported. -/
theorem Decoration.collect_alike {base : TypeContext} {left right : Analysis}
    {id : ClassId} (beside : Analysis.Beside base id left right) {first second : Body}
    (bodies : first.ReadsAlike base second) :
    ∃ own collected gathered,
      collect id (first.locals true .firstAnnotated).entries
        (stateAfter (reportRepetitions first.repetitions) left) = .ok own collected ∧
      collect id (second.locals true .firstAnnotated).entries
        (stateAfter (reportRepetitions second.repetitions) right) = .ok own gathered ∧
      Analysis.Beside base id collected gathered := by
  have locals : (second.locals true .firstAnnotated).entries =
      first.attributeNames.map fun name => (name, second.summary name) := by
    rw [Body.locals_entries, bodies.attributeNames]
  have starts := (reportRepetitions_beside first.repetitions).stateAfter beside
  have alike := collect_beside (fun name listed => bodies.summary listed) _ _ starts
  obtain ⟨_, isLeft⟩ := starts.leftFound
  obtain ⟨_, isRight⟩ := starts.rightFound
  obtain ⟨collected, collects, -⟩ := collect_body first isLeft
  obtain ⟨gathered, gathers, -⟩ := collect_body second isRight
  rw [← Body.locals_entries, ← locals, collects, gathers] at alike
  obtain ⟨sameOwn, stillBeside⟩ := alike
  rw [← sameOwn] at gathers
  rw [bodies.repetitions]
  exact ⟨_, collected, gathered, collects, gathers, stillBeside⟩

/-- Classes whose bodies read alike, and which inherit the same, are decorated alike in two states
that differ at most in their classes. -/
theorem Decoration.decorate_alike {base : TypeContext} {left right : Analysis}
    {id : ClassId} (beside : Analysis.Beside base id left right)
    (ordered : left.classes.BasesFirst) (alsoOrdered : right.classes.BasesFirst)
    {first second : ClassObject}
    (found : left.classes.get? id = some first) (alsoFound : right.classes.get? id = some second)
    (same : second = { first with
      body := second.body, members := second.members, annotations := second.annotations })
    (bodies : first.body.ReadsAlike base second.body)
    (inherits : right.classes.inheritedParts id = left.classes.inheritedParts id)
    (options : Options) :
    ∃ after other stored another,
      decorate options id left = .ok after.point after ∧
      decorate options id right = .ok other.point other ∧
      after.classes.get? id = some stored ∧ other.classes.get? id = some another ∧
      another.fields = stored.fields ∧ other.log = after.log ∧
      (first.members.contains constructorName = false →
        second.members.contains constructorName = false →
        another.members.find? constructorName = stored.members.find? constructorName) := by
  obtain ⟨own, collected, gathered, collects, gathers, stillBeside⟩ := collect_alike beside bodies
  obtain ⟨after, stored, ran, nowFound, fields, constructed, log, point⟩ :=
    decorate_collected ordered found options collects
  obtain ⟨other, another, alsoRan, alsoNowFound, otherFields, otherConstructed, otherLog,
    otherPoint⟩ := decorate_collected alsoOrdered alsoFound options gathers
  rw [inherits] at otherFields otherConstructed otherLog otherPoint
  have sameName : second.name = first.name := by rw [same]
  have sameSpan : second.span = first.span := by rw [same]
  have sameType : second.type = first.type := by rw [same]
  have ends := (reportOrder_beside sameName sameSpan (Attribute.mergeAll []
    (left.classes.inheritedParts id ++ own))).stateAfter stillBeside
  refine ⟨after, other, stored, another, ran, alsoRan, nowFound, alsoNowFound,
    otherFields.trans fields.symm, otherLog.trans (ends.log.trans log.symm), ?_⟩
  intro lacks alsoLacks
  have samePoint := otherPoint.trans (ends.point.trans point.symm)
  have noneStored := (NameTable.contains_eq_false_iff.mp alsoLacks).trans
    (NameTable.contains_eq_false_iff.mp lacks).symm
  rw [otherConstructed, constructed, lacks, alsoLacks, sameType, samePoint, noneStored]

/-- Bodies with the same annotations give the same attributes if the names have the same ones. -/
theorem Body.ownAttributes_congr {types : TypeContext} {left right : Body}
    (annotations : right.annotations = left.annotations)
    (attr : ∀ name type, left.lastType? name = some type →
      attributeOf? types name type (right.lastValue? name) =
        attributeOf? types name type (left.lastValue? name)) :
    right.ownAttributes types = left.ownAttributes types := by
  rw [ownAttributes, ownAttributes, attributeNames, attributeNames, annotations]
  refine List.filterMap_congr fun name _ => ?_
  rw [lastType?, annotations, ← lastType?]
  cases typed : left.lastType? name with
  | none => rfl
  | some type => exact attr name type typed

/-- Over contexts with the same markers a body gives the same attributes. -/
theorem Body.ownAttributes_sameMarkers {first second : TypeContext}
    (same : first.SameMarkers second) (body : Body) :
    body.ownAttributes second = body.ownAttributes first := by
  rw [← filterMap_locals, ← filterMap_locals]
  exact List.filterMap_congr fun entry _ => same.attribute?_eq entry.1 entry.2

/-- What is seen of a class when its statement has been decorated: its attributes, the constructor
that the decoration added, and the log. -/
@[ext] structure ClassDefinition.View where
  fields : Option (List Attribute)
  added : Option Variable
  log : Log

/-- Define a class and decorate it. -/
def ClassDefinition.decorated (definition : ClassDefinition) (options : Options) :
    AnalysisM View := do
  let id ← AnalysisM.define definition
  let written ← AnalysisM.getClass id
  let _ ← Decoration.decorate options id
  let stored ← AnalysisM.getClass id
  let state ← get
  pure
    { fields := stored.fields
      added := if written.members.contains constructorName then none
        else stored.members.find? constructorName
      log := state.log }

/-- The class that a class statement adds when its bases have the given types. -/
def Analysis.definedObject (state : Analysis) (definition : ClassDefinition) (types : List TypeId) :
    ClassObject :=
  ClassObject.ofBody state.classes.nextId definition.name
    (TypeM.nominal state.classes.nextId definition.name
      (if types.isEmpty then [.object] else types) state.types).1
    definition.bases definition.body definition.span

section

variable {state : Analysis} {definition : ClassDefinition} {types : List TypeId}

/-- A class that has just been defined is found under its identifier. -/
theorem Analysis.get?_defined :
    (state.defined definition types).classes.get? state.classes.nextId =
      some (state.definedObject definition types) :=
  ClassTable.get?_push_self ..

/-- A class statement adds neither class variables nor constructor variables to the types. -/
theorem Analysis.defined_sameMarkers :
    state.types.SameMarkers (state.defined definition types).types := by
  have added : state.types.SameMarkers (TypeM.nominal state.classes.nextId definition.name
      (if types.isEmpty then [.object] else types) state.types).2 := by
    refine TypeM.intern_sameMarkers ?_ (fun _ _ _ => ?_) state.types
    · nofun
    · nofun
  exact ⟨added.isAny, added.classVariable, added.initVariable⟩

/-- A class statement keeps bases before the classes that are derived from them. -/
theorem ClassDefinition.basesFirst_defined {config : WarningConfig}
    (reached : Reaches Operation.Any (Analysis.initial config) state)
    (based : state.baseTypes definition.bases = .ok types) :
    (state.defined definition types).classes.BasesFirst := by
  have stays := (Operation.define definition).basesFirst_run reached.basesFirst
  rw [Operation.run, AnalysisM.stateAfter_define, based] at stays
  exact stays

/-- What a definition looks like when it is decorated is what is stored for its class. -/
theorem ClassDefinition.decorated_eq (based : state.baseTypes definition.bases = .ok types)
    (options : Options) {after : Analysis} {stored : ClassObject}
    (ran : Decoration.decorate options state.classes.nextId (state.defined definition types) =
      .ok after.point after)
    (nowFound : after.classes.get? state.classes.nextId = some stored) :
    definition.decorated options state = .ok
      { fields := stored.fields
        added :=
          if (state.definedObject definition types).members.contains constructorName then none
          else stored.members.find? constructorName
        log := after.log } after := by
  rw [decorated, bind_of_ok (AnalysisM.define_of_ok based),
    bind_of_ok (AnalysisM.getClass_of_found Analysis.get?_defined), bind_of_ok ran,
    bind_of_ok (AnalysisM.getClass_of_found nowFound)]
  rfl

/-- Decorating a class that has just been defined succeeds. The class stores what it inherits with
the attributes that its body gives merged in. -/
theorem ClassDefinition.decorated_fields {config : WarningConfig}
    (reached : Reaches Operation.Any (Analysis.initial config) state)
    (based : state.baseTypes definition.bases = .ok types) (options : Options) :
    ∃ view after, definition.decorated options state = .ok view after ∧
      view.fields = some (Attribute.mergeAll []
        ((state.defined definition types).classes.inheritedParts state.classes.nextId ++
          definition.body.ownAttributes state.types)) := by
  have ordered := definition.basesFirst_defined reached based
  obtain ⟨sameTypes, sameClasses⟩ := Decoration.definesNothing_reportRepetitions
    definition.body.repetitions (state.defined definition types)
  obtain ⟨collected, collects, -⟩ := Decoration.collect_body definition.body
    (sameClasses.symm ▸ Analysis.get?_defined :
      (stateAfter (Decoration.reportRepetitions definition.body.repetitions)
        (state.defined definition types)).classes.get? state.classes.nextId = _)
  obtain ⟨after, stored, ran, nowFound, fields, -, -, -⟩ :=
    Decoration.decorate_collected ordered Analysis.get?_defined options collects
  refine ⟨_, after, definition.decorated_eq based options ran nowFound, ?_⟩
  rw [fields, sameTypes, Body.ownAttributes_sameMarkers Analysis.defined_sameMarkers]

end

/-- What a class inherits does not depend on the body of a class that is added last. -/
theorem ClassTable.inheritedParts_push_congr (table : ClassTable) {first second : ClassObject}
    (bases : second.bases = first.bases) (fields : second.fields = first.fields) (id : ClassId) :
    (table.push second).inheritedParts id = (table.push first).inheritedParts id := by
  have read : ∀ queried, ((table.push second).get? queried).map
        (fun object => (object.bases, object.fields)) =
      ((table.push first).get? queried).map fun object => (object.bases, object.fields) := by
    intro queried
    simp only [get?, push, ← List.getElem?_map, List.map_append, List.map_cons, List.map_nil, bases,
      fields]
  refine inheritedParts_congr (fun queried => ?_) (fun queried => ?_) id
  · have same := congrArg (Option.map Prod.fst) (read queried)
    rwa [Option.map_map, Option.map_map] at same
  · have same := congrArg (Option.bind · Prod.snd) (read queried)
    rwa [Option.bind_map, Option.bind_map] at same

/-- Two class statements that differ in their bodies only are decorated alike if the bodies read
alike: the attributes and the reports are the same, and so is the constructor that is added, unless
only one of the bodies writes it. -/
theorem ClassDefinition.decorated_alike {config : WarningConfig} {state : Analysis}
    (reached : Reaches Operation.Any (Analysis.initial config) state) {definition : ClassDefinition}
    {types : List TypeId} (based : state.baseTypes definition.bases = .ok types) {body : Body}
    (alike : definition.body.ReadsAlike state.types body) (options : Options) :
    ∃ view another after other, definition.decorated options state = .ok view after ∧
      { definition with body := body }.decorated options state = .ok another other ∧
      another.fields = view.fields ∧ another.log = view.log ∧
      ((constructorName ∈ body.assignments.map Prod.fst ↔
          constructorName ∈ definition.body.assignments.map Prod.fst) →
        another.added = view.added) := by
  have written : ∀ other : ClassDefinition,
      (state.definedObject other types).members.contains constructorName = true ↔
        constructorName ∈ other.body.assignments.map Prod.fst := by
    intro other
    rw [← NameTable.mem_keys_ofList]
    simp [Analysis.definedObject, ClassObject.ofBody, NameTable.contains, NameTable.keys]
  set changed : ClassDefinition := { definition with body := body }
  have beside : Analysis.Beside state.types state.classes.nextId (state.defined definition types)
      (state.defined changed types) :=
    ⟨rfl, rfl, rfl, rfl, Analysis.defined_sameMarkers, ⟨_, Analysis.get?_defined⟩,
      ⟨_, Analysis.get?_defined⟩⟩
  have sameBases : (state.definedObject changed types).bases =
      (state.definedObject definition types).bases := rfl
  obtain ⟨after, other, stored, another, ran, alsoRan, nowFound, alsoNowFound, fields, log,
    added⟩ := Decoration.decorate_alike beside (definition.basesFirst_defined reached based)
      (changed.basesFirst_defined reached based) Analysis.get?_defined Analysis.get?_defined rfl
      alike (state.classes.inheritedParts_push_congr sameBases rfl state.classes.nextId) options
  refine ⟨_, _, after, other, definition.decorated_eq based options ran nowFound,
    changed.decorated_eq based options alsoRan alsoNowFound, fields, log, fun both => ?_⟩
  have samePresence : (state.definedObject changed types).members.contains constructorName =
      (state.definedObject definition types).members.contains constructorName :=
    Bool.eq_iff_iff.mpr (((written changed).trans both).trans (written definition).symm)
  dsimp only
  rw [samePresence]
  cases present : (state.definedObject definition types).members.contains constructorName with
  | true => rfl
  | false => exact added present (samePresence.trans present)

end DataclassSynthesis
