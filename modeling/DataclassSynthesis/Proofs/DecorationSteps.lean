import DataclassSynthesis.Proofs.MismatchReports

/-!
# The steps of a decoration

Collecting goes through the names of a class body one by one. Each constructor variable creates an
instance at a new program point, so a name is collected at the point that was reached by the
constructor variables before it. The edit of the class and the report about the default are
functions of the name and of that point, and so the state after a decoration is known exactly
(`DataclassSynthesis.Decoration.decorate_steps`).
-/

namespace DataclassSynthesis

open TypeContext

namespace Analysis

/-- The point at which an analysis stands after it created a number of instances. -/
def pointAfter (state : Analysis) : Nat → PointId
  | 0 => state.point
  | made + 1 => ⟨state.program.size + made⟩

/-- The program after a number of instances were created, each at a point that continues the one
before. -/
def programAfter (state : Analysis) (made : Nat) : Program where
  points := state.program.points ++
    (List.range made).map fun earlier => ⟨"instantiate", some (state.pointAfter earlier)⟩

theorem programAfter_zero (state : Analysis) : state.programAfter 0 = state.program :=
  congrArg Program.mk (List.append_nil _)

theorem size_programAfter (state : Analysis) (made : Nat) :
    (state.programAfter made).size = state.program.size + made := by
  simp only [Program.size, programAfter, List.length_append, List.length_map, List.length_range]

/-- The next instance is created at the next point, from the one before it. -/
theorem extend_programAfter (state : Analysis) (made : Nat) :
    (state.programAfter made).extend (state.pointAfter made) "instantiate" =
      (state.pointAfter (made + 1), state.programAfter (made + 1)) := by
  refine Prod.ext (congrArg PointId.mk (state.size_programAfter made)) ?_
  simp only [Program.extend, programAfter, List.range_succ, List.map_append, List.map_cons,
    List.map_nil, List.append_assoc]

/-- A state that differs from an earlier one in its types, by the types of some values that were
asked for, in its classes and its log, and by a number of instances that were created. -/
structure Created (start : Analysis) (made : Nat) (typed : List Value) (state : Analysis) :
    Prop where
  types : state.types = (Value.types typed start.types).2
  program : state.program = start.programAfter made
  point : state.point = start.pointAfter made

namespace Created

variable {start state : Analysis} {made : Nat} {typed : List Value}

/-- The types grow while names are collected. -/
theorem grows (created : start.Created made typed state) : start.types.Grows state.types :=
  created.types ▸ Value.types_grows typed start.types

/-- Markers are read alike at the start and while names are collected. -/
theorem sameMarkers (created : start.Created made typed state) :
    start.types.SameMarkers state.types :=
  created.types ▸ Value.types_sameMarkers typed start.types

end Created

end Analysis

/-- The type that the annotation of a name applies a marker to; the unknown type when the marker is
bare. -/
def LocalSummary.marked? (types : TypeContext) (marker : Container) (summary : LocalSummary) :
    Option TypeId :=
  summary.type.bind fun type => types.argumentOf? type marker.qualified

/-- The number of instances that are created for a name. -/
def LocalSummary.instances (types : TypeContext) (summary : LocalSummary) : Nat :=
  if (summary.marked? types .initVariable).isSome then 1 else 0

/-- The number of instances that are created for a name of a kind. -/
def MemberKind.instances : MemberKind → Nat
  | initVariable _ => 1
  | classVariable | field _ | plain => 0

/-- A type has at most one marker. -/
theorem TypeContext.argumentOf?_classVariable {types : TypeContext} {type inner : TypeId}
    (marked : types.argumentOf? type Container.initVariable.qualified = some inner) :
    types.argumentOf? type Container.classVariable.qualified = none := by
  unfold argumentOf? at marked ⊢
  split
  · next base arguments found =>
    rw [found] at marked
    dsimp only at marked
    split at marked
    · next same =>
      rw [if_neg]
      rw [same]
      decide
    · cases marked
  · rfl

/-- A member whose annotation applies the marker is a constructor variable, whatever it is
assigned. -/
theorem MemberKind.of_of_initVariable {types : TypeContext} {type inner : TypeId}
    (marked : types.argumentOf? type Container.initVariable.qualified = some inner)
    (value : Option Variable) : MemberKind.of types type value = .initVariable inner := by
  unfold MemberKind.of
  rw [argumentOf?_classVariable marked, marked]

/-- A member needs an instance if its annotation applies the marker of constructor variables. -/
theorem MemberKind.instances_of (types : TypeContext) (type : TypeId) (value : Option Variable) :
    (MemberKind.of types type value).instances =
      if (types.argumentOf? type Container.initVariable.qualified).isSome then 1 else 0 := by
  cases marked : types.argumentOf? type Container.initVariable.qualified with
  | some inner =>
    rw [of_of_initVariable marked]
    rfl
  | none =>
    unfold MemberKind.of
    rw [marked]
    cases types.argumentOf? type Container.classVariable.qualified with
    | some _ => rfl
    | none => cases value.bind Variable.field? <;> rfl

/-- The values of the default of a name that are visible after its instance is created. -/
def LocalSummary.seen (start : Analysis) (made : Nat) (name : String) (summary : LocalSummary) :
    List Value :=
  ((summary.attribute? start.types name).map
    (Attribute.seen (start.programAfter (made + summary.instances start.types))
      (start.pointAfter (made + summary.instances start.types)))).getD []

/-- The report about the default of a name, which is checked after its instance is created and the
types of some values have been asked for. -/
def LocalSummary.mismatch? (start : Analysis) (made : Nat) (typed : List Value) (name : String)
    (summary : LocalSummary) : Option CheckError :=
  (summary.attribute? start.types name).bind fun attr =>
    attr.mismatch? (start.programAfter (made + summary.instances start.types))
      (start.pointAfter (made + summary.instances start.types))
      (Value.types typed start.types).2 summary.span

/-- An attribute has the name that it is given for. -/
theorem LocalSummary.attribute?_name {types : TypeContext} {name : String} {summary : LocalSummary}
    {attr : Attribute} (given : summary.attribute? types name = some attr) : attr.name = name := by
  obtain ⟨type, -, ofKind⟩ := Option.bind_eq_some_iff.mp given
  cases kind : MemberKind.of types type summary.value with
  | classVariable =>
    rw [kind] at ofKind
    cases ofKind
  | initVariable _ | field _ | plain =>
    rw [kind] at ofKind
    cases ofKind
    rfl

namespace Decoration

/-- The names of a class body, each with the number of instances that were created before it. -/
def numbered (types : TypeContext) :
    Nat → List (String × LocalSummary) → List (Nat × String × LocalSummary)
  | _, [] => []
  | made, entry :: rest =>
    (made, entry) :: numbered types (made + entry.2.instances types) rest

/-- The number of instances that are created for some names. -/
def instances (types : TypeContext) (locals : List (String × LocalSummary)) : Nat :=
  locals.countP fun entry => (entry.2.marked? types .initVariable).isSome

/-- The instances of a list of names are those of the first one and those of the others. -/
theorem instances_cons (types : TypeContext) (entry : String × LocalSummary)
    (rest : List (String × LocalSummary)) :
    instances types (entry :: rest) = entry.2.instances types + instances types rest := by
  rw [instances, instances, List.countP_cons, LocalSummary.instances, Nat.add_comm]

/-- What collecting some names does to the tables of their class. -/
def collectedBy (start : Analysis) (steps : List (Nat × String × LocalSummary))
    (object : ClassObject) : ClassObject :=
  steps.foldl (fun object step =>
    step.2.2.edit start.types (start.pointAfter step.1) step.2.1 object) object

/-- The values that are typed while some names are collected. -/
def seenBy (start : Analysis) (steps : List (Nat × String × LocalSummary)) : List Value :=
  steps.flatMap fun step => step.2.2.seen start step.1 step.2.1

/-- The reports about the defaults of some names, after the types of some values have been asked
for. -/
def mismatches (start : Analysis) :
    List Value → List (Nat × String × LocalSummary) → List CheckError
  | _, [] => []
  | typed, (made, name, summary) :: rest =>
    (summary.mismatch? start made typed name).toList ++
      mismatches start (typed ++ summary.seen start made name) rest

/-- A report about a default is no promoted warning. -/
theorem not_isPromoted_of_mem_mismatches {start : Analysis} {typed : List Value}
    {steps : List (Nat × String × LocalSummary)} {error : CheckError}
    (member : error ∈ mismatches start typed steps) : error.isPromoted = false := by
  induction steps generalizing typed with
  | nil => cases member
  | cons step rest ih =>
    rcases List.mem_append.mp member with first | later
    · obtain ⟨attr, -, reported⟩ := Option.bind_eq_some_iff.mp (Option.mem_toList.mp first)
      obtain ⟨binding, -, rfl⟩ := Option.map_eq_some_iff.mp reported
      rfl
    · exact ih later

/-- A name of a kind moves an analysis on by the instances that are created for it. -/
theorem created_moveOn {start state : Analysis} {made : Nat} {typed : List Value}
    (created : start.Created made typed state) (classes : ClassTable) (kind : MemberKind) :
    kind.moveOn { state with classes := classes } =
      { types := state.types
        classes := classes
        program := start.programAfter (made + kind.instances)
        log := state.log
        point := start.pointAfter (made + kind.instances) } := by
  cases kind with
  | initVariable inner =>
    have moved : state.program.extend state.point "instantiate" =
        (start.pointAfter (made + 1), start.programAfter (made + 1)) := by
      rw [created.program, created.point, start.extend_programAfter]
    have advanced : (MemberKind.initVariable inner).moveOn { state with classes := classes } =
        { state with
          classes := classes
          program := (state.program.extend state.point "instantiate").2
          point := (state.program.extend state.point "instantiate").1 } := rfl
    rw [advanced, moved]
    rfl
  | classVariable | field _ | plain =>
    rw [MemberKind.instances, Nat.add_zero, ← created.program, ← created.point]
    rfl

section

variable {start state : Analysis} {made : Nat} {typed : List Value} {id : ClassId}
  {object : ClassObject}

/-- A name is collected by its edit at the point reached, an instance if it is a constructor
variable, and a report if its default has a visible value that does not fit. -/
theorem collectLocal_steps (created : start.Created made typed state)
    (found : state.classes.get? id = some object) (name : String) (summary : LocalSummary) :
    ∃ after, collectLocal id name summary state =
        .ok (summary.attribute? start.types name).toList after ∧
      start.Created (made + summary.instances start.types)
        (typed ++ summary.seen start made name) after ∧
      after.classes = state.classes.modify id
        (summary.edit start.types (start.pointAfter made) name) ∧
      after.log = state.log.extend (summary.mismatch? start made typed name).toList [] := by
  have edits := created.sameMarkers.edit_eq summary state.point name
  rw [created.point] at edits
  obtain ⟨type, value, span⟩ := summary
  cases type with
  | none =>
    refine ⟨state, rfl, ?_, (state.classes.modify_id id).symm, state.log.extend_nil.symm⟩
    exact (List.append_nil typed).symm ▸ created
  | some type =>
    have kindInstances := MemberKind.instances_of start.types type value
    set kind := MemberKind.of start.types type value with isKind
    set moved := made + kind.instances with isMoved
    have counted : made + LocalSummary.instances start.types ⟨some type, value, span⟩ = moved := by
      rw [isMoved, kindInstances]
      rfl
    have edited : kind.edit state.types state.point name type value.isSome =
        LocalSummary.edit start.types (start.pointAfter made) name ⟨some type, value, span⟩ := by
      rw [← edits, isKind, ← created.sameMarkers.kind_eq, created.point]
      rfl
    have collected := collectKind_eq found name type value kind
    rw [edited, created_moveOn created] at collected
    rw [LocalSummary.mismatch?, LocalSummary.seen, counted]
    -- The kind is found in the types that have grown, and it is the kind in those of the start.
    simp only [collectLocal, LocalSummary.attribute?, Option.bind_some]
    rw [get_bind, created.sameMarkers.kind_eq, ← isKind, bind_of_ok collected]
    cases given : kind.attribute? name type value with
    | none =>
      refine ⟨_, rfl, ⟨?_, rfl, rfl⟩, rfl, state.log.extend_nil.symm⟩
      exact (List.append_nil typed).symm ▸ created.types
    | some attr =>
      obtain rfl : attr.name = name :=
        @LocalSummary.attribute?_name start.types name ⟨some type, value, span⟩ attr given
      have checked := fun classes => checkDefault_reports attr span
        (.mk state.types classes (start.programAfter moved) state.log (start.pointAfter moved))
      refine ⟨_, bind_of_ok (checked _), ⟨?_, rfl, rfl⟩, rfl, ?_⟩
      · rw [Value.types_append, ← created.types]
        rfl
      · rw [← created.types]
        rfl

/-- Names are collected one after the other, each after the instances and the values of those before
it. -/
theorem collect_steps (created : start.Created made typed state)
    (found : state.classes.get? id = some object) (locals : List (String × LocalSummary)) :
    ∃ after, collect id locals state =
        .ok (locals.filterMap fun entry => entry.2.attribute? start.types entry.1) after ∧
      start.Created (made + instances start.types locals)
        (typed ++ seenBy start (numbered start.types made locals)) after ∧
      after.classes = state.classes.modify id
        (collectedBy start (numbered start.types made locals)) ∧
      after.log =
        state.log.extend (mismatches start typed (numbered start.types made locals)) [] := by
  induction locals generalizing made typed state object with
  | nil =>
    refine ⟨state, rfl, ?_, (state.classes.modify_id id).symm, state.log.extend_nil.symm⟩
    exact (List.append_nil typed).symm ▸ created
  | cons entry rest ih =>
    obtain ⟨name, summary⟩ := entry
    -- Collecting one name leaves a state that was created from the start by more instances and more
    -- values, so the hypothesis applies to the rest with these moved on and the start as it was.
    obtain ⟨middle, first, moved, edited, logged⟩ := collectLocal_steps created found name summary
    have stillFound := ClassTable.get?_modify_self found
      (summary.edit start.types (start.pointAfter made) name)
    rw [← edited] at stillFound
    obtain ⟨after, later, moves, editedLater, loggedLater⟩ := ih moved stillFound
    refine ⟨after, ?_, ?_, ?_, ?_⟩
    · simp only [collect]
      rw [bind_of_ok first, bind_of_ok later]
      cases given : summary.attribute? start.types name <;> simp [given, pure, EStateM.pure]
    · rw [instances_cons, ← Nat.add_assoc]
      rw [List.append_assoc] at moves
      exact moves
    · rw [editedLater, edited, ClassTable.modify_modify]
      rfl
    · rw [loggedLater, logged, Log.extend_extend, List.nil_append]
      rfl

end

/-- A warning adds to the log what the configuration makes of it; an error is a promoted warning. -/
theorem warn_eq (warning : Warning) (state : Analysis) :
    ∃ errors warnings, AnalysisM.warn warning state =
        .ok () { state with log := state.log.extend errors warnings } ∧
      ∀ error ∈ errors, error.isPromoted = true := by
  have warned : AnalysisM.warn warning state =
      .ok () { state with log := state.log.warn warning } := rfl
  rw [warned, Log.warn_eq, Log.routed_eq]
  exact ⟨_, _, rfl, fun error member => Log.isPromoted_of_mem_map member⟩

/-- Reporting repetitions adds warnings, or errors in their place, and nothing else. -/
theorem reportRepetitions_eq (repetitions : List Body.Repetition) (state : Analysis) :
    ∃ errors warnings, reportRepetitions repetitions state =
        .ok () { state with log := state.log.extend errors warnings } ∧
      ∀ error ∈ errors, error.isPromoted = true := by
  induction repetitions generalizing state with
  | nil => exact ⟨[], [], by rw [Log.extend_nil]; rfl, nofun⟩
  | cons repetition rest ih =>
    obtain ⟨errors, warnings, warned, promoted⟩ :=
      warn_eq (.annotatedTwice repetition.name repetition.first repetition.second) state
    obtain ⟨more, further, reported, alsoPromoted⟩ :=
      ih { state with log := state.log.extend errors warnings }
    refine ⟨errors ++ more, warnings ++ further, ?_, List.forall_mem_append.mpr
      ⟨promoted, alsoPromoted⟩⟩
    rw [← Log.extend_extend]
    exact (bind_of_ok warned).trans reported

theorem reportOrder_eq (object : ClassObject) (attrs : List Attribute) (state : Analysis) :
    ∃ errors warnings, reportOrder object attrs state =
        .ok () { state with log := state.log.extend errors warnings } ∧
      ∀ error ∈ errors, error.isPromoted = true := by
  unfold reportOrder
  cases Attribute.requiredAfterDefault attrs with
  | some attr => exact warn_eq _ state
  | none => exact ⟨[], [], by rw [Log.extend_nil]; rfl, nofun⟩

/-- A decoration collects after it reported repeated annotations, and then stores the attributes and
the constructor. Its own reports are promoted warnings. -/
theorem decorate_runs {state : Analysis} (ordered : state.classes.BasesFirst) {id : ClassId}
    {object : ClassObject} (found : state.classes.get? id = some object) (options : Options) :
    ∃ early earlyWarnings late lateWarnings own collected after,
      (∀ error ∈ early ++ late, error.isPromoted = true) ∧
      collect id (object.body.locals true .firstAnnotated).entries
        { state with log := state.log.extend early earlyWarnings } = .ok own collected ∧
      decorate options id state = .ok after.point after ∧
      let attrs := Attribute.mergeAll [] (state.classes.inheritedParts id ++ own)
      after = { collected with
        classes := collected.classes.modify id fun current =>
          (current.setFields (some attrs)).withConstructor options attrs collected.point
        log := collected.log.extend late lateWarnings } := by
  obtain ⟨early, earlyWarnings, repeats, earlyPromoted⟩ :=
    reportRepetitions_eq object.body.repetitions state
  have stillFound : { state with log := state.log.extend early earlyWarnings }.classes.get? id =
    some object := found
  obtain ⟨collected, collects, footprint⟩ := collect_body object.body stillFound
  set own := object.body.ownAttributes state.types
  have inherits := footprint.inherited_eq ordered found
  obtain ⟨late, lateWarnings, orders, latePromoted⟩ := reportOrder_eq object
    (Attribute.mergeAll [] (state.classes.inheritedParts id ++ own)) collected
  refine ⟨early, earlyWarnings, late, lateWarnings, own, collected, _,
    List.forall_mem_append.mpr ⟨earlyPromoted, latePromoted⟩, collects, ?_, rfl⟩
  rw [← stateAfter_of_ok repeats] at collects
  have ran := decorate_run found options collects inherits
  dsimp only at ran
  rw [← Attribute.mergeAll_append, stateAfter_of_ok orders] at ran
  exact ran

/-- The names that are collected from a class body, in order, each with the number of instances that
were created before it. -/
def steps (types : TypeContext) (body : Body) : List (Nat × String × LocalSummary) :=
  numbered types 0 (body.locals true .firstAnnotated).entries

/-- The class that decorating leaves, when it ends at a point. -/
def storedClass (state : Analysis) (options : Options) (id : ClassId) (point : PointId)
    (object : ClassObject) : ClassObject :=
  let attrs := state.prescribed state.types id object.body
  let collected := collectedBy state (steps state.types object.body) object
  (collected.setFields (some attrs)).withConstructor options attrs point

/-- What decorating a class step by step leaves: an instance for each constructor variable of the
body, the edited class with the attributes and the constructor, and the reports. -/
structure Completed (options : Options) (id : ClassId) (object : ClassObject)
    (state after : Analysis) (errors : List CheckError) (warnings : List Warning) : Prop where
  created : state.Created (instances state.types (object.body.locals true .firstAnnotated).entries)
    (seenBy state (steps state.types object.body)) after
  classes : after.classes = state.classes.modify id fun _ =>
    storedClass state options id after.point object
  log : after.log = state.log.extend errors warnings
  reports : errors.filter (!·.isPromoted) = mismatches state [] (steps state.types object.body)

/-- Decorating an existing class runs through step by step. -/
theorem decorate_steps {state : Analysis} (ordered : state.classes.BasesFirst) {id : ClassId}
    {object : ClassObject} (found : state.classes.get? id = some object) (options : Options) :
    ∃ after errors warnings, decorate options id state = .ok after.point after ∧
      Completed options id object state after errors warnings := by
  obtain ⟨early, earlyWarnings, late, lateWarnings, own, collected, after, promoted, collects, ran,
    isAfter⟩ := decorate_runs ordered found options
  have created : state.Created 0 [] { state with log := state.log.extend early earlyWarnings } :=
    ⟨rfl, state.programAfter_zero.symm, rfl⟩
  obtain ⟨_, alsoCollects, moved, edited, logged⟩ :=
    collect_steps created found (object.body.locals true .firstAnnotated).entries
  obtain ⟨rfl, rfl⟩ := EStateM.Result.ok.inj (collects.symm.trans alsoCollects)
  rw [Body.filterMap_locals] at isAfter
  rw [Nat.zero_add] at moved
  refine ⟨after, early ++ (mismatches state [] (steps state.types object.body) ++ late),
    earlyWarnings ++ lateWarnings, ran, ?_⟩
  subst isAfter
  refine ⟨⟨moved.types, moved.program, moved.point⟩, ?_, ?_, ?_⟩
  · rw [edited, ClassTable.modify_modify]
    exact ClassTable.modify_congr found rfl
  · rw [logged, Log.extend_extend, Log.extend_extend]
    rfl
  · obtain ⟨earlyPromoted, latePromoted⟩ := List.forall_mem_append.mp promoted
    rw [List.filter_append, List.filter_append, Log.filter_not_isPromoted earlyPromoted,
      Log.filter_not_isPromoted latePromoted, List.nil_append, List.append_nil]
    refine List.filter_eq_self.mpr fun error member => ?_
    rw [not_isPromoted_of_mem_mismatches member, Bool.not_false]

/-- Collecting an ordinary name edits the tables of the class, and not its constructor. -/
theorem isTableEdit_edit {name : String} (ordinary : constructorName ≠ name) (types : TypeContext)
    (point : PointId) (summary : LocalSummary) :
    ClassObject.IsTableEdit (summary.edit types point name) := by
  unfold LocalSummary.edit
  cases summary.type with
  | none => exact ClassObject.isTableEdit_id
  | some type => exact MemberKind.isTableEdit_edit ordinary types point type _ _

/-- The edits of all names together leave everything but the tables of the class alone. -/
theorem isTableEdit_collectedBy (start : Analysis) {steps : List (Nat × String × LocalSummary)}
    (ordinary : ∀ step ∈ steps, constructorName ≠ step.2.1) :
    ClassObject.IsTableEdit (collectedBy start steps) := by
  induction steps with
  | nil => exact ClassObject.isTableEdit_id
  | cons step rest ih =>
    obtain ⟨isOrdinary, othersOrdinary⟩ := List.forall_mem_cons.mp ordinary
    exact (isTableEdit_edit isOrdinary start.types (start.pointAfter step.1) step.2.2).comp
      (ih othersOrdinary)

theorem snd_of_mem_numbered {types : TypeContext} {made : Nat}
    {locals : List (String × LocalSummary)} {step : Nat × String × LocalSummary}
    (listed : step ∈ numbered types made locals) : step.2 ∈ locals := by
  induction locals generalizing made with
  | nil => cases listed
  | cons entry rest ih =>
    rcases List.mem_cons.mp listed with rfl | later
    · exact List.mem_cons_self
    · exact List.mem_cons_of_mem entry (ih later)

/-- The names that are collected do not include the constructor. -/
theorem steps_ordinary (types : TypeContext) (body : Body) :
    ∀ step ∈ steps types body, constructorName ≠ step.2.1 := fun step listed =>
  locals_ordinary body step.2 (snd_of_mem_numbered listed)

section

variable (state : Analysis) (options : Options) (id : ClassId) (point : PointId)
  (object : ClassObject)

/-- Decorating changes the tables of the class and its attributes only. -/
theorem storedClass_eq :
    storedClass state options id point object = { object with
      members := (storedClass state options id point object).members
      annotations := (collectedBy state (steps state.types object.body) object).annotations
      fields := some (state.prescribed state.types id object.body) } := by
  have tables := (isTableEdit_collectedBy state (steps_ordinary state.types object.body)).tables
  unfold storedClass ClassObject.withConstructor
  dsimp only
  rw [tables object]
  split <;> rfl

/-- The constructor is added if it is asked for and missing. -/
theorem storedClass_constructor :
    (storedClass state options id point object).members.find? constructorName =
      if options.init && !object.members.contains constructorName then
        some (.single (.function
          (constructorFor object.type (state.prescribed state.types id object.body))) point)
      else object.members.find? constructorName :=
  (isTableEdit_collectedBy state (steps_ordinary state.types object.body)).find?_constructor ..

end

end Decoration

end DataclassSynthesis
