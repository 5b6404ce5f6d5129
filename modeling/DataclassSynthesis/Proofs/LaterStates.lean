import DataclassSynthesis.Proofs.ArisenStates
import DataclassSynthesis.Proofs.DecorationEdits
import DataclassSynthesis.Proofs.MismatchTexts
import DataclassSynthesis.Proofs.SideBySide
import DataclassSynthesis.Proofs.WarningRouting

/-!
# Decorating later

A state is later than another when types and program points have been added, but what was visible is
still all of what was there that is visible. Decorating a class whose body stands in the earlier
state reports the same in every later state (`DataclassSynthesis.Decoration.exists_report`).
-/

namespace DataclassSynthesis

/-- A state that comes later: it has more types and no fewer classes, the current point is on its
trail, of the earlier program points it sees the same ones, and it treats warnings alike. -/
structure Analysis.Later (base state : Analysis) : Prop where
  types : base.types.Grows state.types
  classes : base.classes.size ≤ state.classes.size
  onTrail : state.OnTrail
  size : base.program.size ≤ state.program.size
  visible : ∀ point : PointId, point.index < base.program.size →
    state.program.isReachable point state.point = base.program.isReachable point base.point
  config : state.log.config = base.log.config

theorem Analysis.Later.refl {base : Analysis} (onTrail : base.OnTrail) : base.Later base :=
  ⟨.refl base.types, Nat.le_refl _, onTrail, Nat.le_refl _, fun _ _ => rfl, rfl⟩

/-- A state in which the analysis moved on is later. -/
theorem Analysis.Later.advance {base state : Analysis} (later : base.Later state) (label : String) :
    base.Later (stateAfter (AnalysisM.advance label) state) where
  types := later.types
  classes := later.classes
  onTrail := later.onTrail.next label
  size := by
    have grown : (stateAfter (AnalysisM.advance label) state).program.size =
        state.program.size + 1 := List.length_append
    rw [grown]
    exact Nat.le_succ_of_le later.size
  visible point inside := by
    have old : ((state.program.extend state.point label).1 == point) = false := by
      refine beq_eq_false_iff_ne.mpr fun same => ?_
      have here : state.program.size = point.index := congrArg PointId.index same
      have before := later.size
      omega
    have next := Program.isReachable_next later.onTrail label point
    rw [old, Bool.false_or] at next
    exact next.trans (later.visible point inside)
  config := later.config

/-- Two states are later than one, and the same was added to the logs of two others to give
theirs. -/
structure Analysis.Abreast (base first second left right : Analysis) : Prop where
  leftLater : base.Later left
  rightLater : base.Later right
  logs : ∃ errors warnings, left.log = first.log.extend errors warnings ∧
    right.log = second.log.extend errors warnings

namespace Analysis.Abreast

variable {base first second left right : Analysis}

/-- Two states stay abreast when the same reports are added to their logs. -/
theorem extend (abreast : base.Abreast first second left right) (errors : List CheckError)
    (warnings : List Warning) :
    base.Abreast first second { left with log := left.log.extend errors warnings }
      { right with log := right.log.extend errors warnings } where
  leftLater := { abreast.leftLater with config := abreast.leftLater.config }
  rightLater := { abreast.rightLater with config := abreast.rightLater.config }
  logs := by
    obtain ⟨before, warned, inLeft, inRight⟩ := abreast.logs
    refine ⟨before ++ errors, warned ++ warnings, ?_, ?_⟩
    · rw [inLeft, Log.extend_extend]
    · rw [inRight, Log.extend_extend]

theorem withEdits (abreast : base.Abreast first second left right) (id : ClassId)
    (edit other : ClassObject → ClassObject) :
    base.Abreast first second { left with classes := left.classes.modify id edit }
      { right with classes := right.classes.modify id other } where
  leftLater := { abreast.leftLater with
    classes := by simpa only [ClassTable.size_modify] using abreast.leftLater.classes }
  rightLater := { abreast.rightLater with
    classes := by simpa only [ClassTable.size_modify] using abreast.rightLater.classes }
  logs := abreast.logs

theorem withTypes (abreast : base.Abreast first second left right) {types other : TypeContext}
    (growsLeft : left.types.Grows types) (growsRight : right.types.Grows other) :
    base.Abreast first second { left with types := types } { right with types := other } where
  leftLater := { abreast.leftLater with types := abreast.leftLater.types.trans growsLeft }
  rightLater := { abreast.rightLater with types := abreast.rightLater.types.trans growsRight }
  logs := abreast.logs

end Analysis.Abreast

/-- The identifiers of a binding are grounded, and its program point exists. -/
def Binding.StandsIn (state : Analysis) (binding : Binding) : Prop :=
  binding.point.index < state.program.size ∧
    ∀ component ∈ binding.value.components, state.types.Grounded component

/-- The bindings of a variable and of the default that it describes if it is a field. -/
def Variable.checkedBindings (var : Variable) : List Binding :=
  var.bindings ++ ((var.field?.bind FieldDescriptor.effective).map Variable.bindings).getD []

/-- The identifiers that a class body mentions are grounded, and the program points of its bindings
exist. -/
structure Body.StandsIn (body : Body) (state : Analysis) : Prop where
  annotations : ∀ entry ∈ body.annotations, state.types.Grounded entry.2
  bindings : ∀ entry ∈ body.assignments, ∀ binding ∈ entry.2.checkedBindings,
    binding.StandsIn state

/-- What a class body says about a name mentions grounded identifiers and existing points only. -/
structure LocalSummary.StandsIn (state : Analysis) (summary : LocalSummary) : Prop where
  type : ∀ type ∈ summary.type, state.types.Grounded type
  bindings : ∀ var ∈ summary.value, ∀ binding ∈ var.checkedBindings, binding.StandsIn state

section

variable {base first second : Analysis}

namespace AnalysisM

/-- A warning is reported alike in both states. -/
theorem warn_abreast (warning : Warning) :
    RunsAlike (base.Abreast first second) Eq (warn warning) (warn warning) := by
  refine .modify fun left right abreast => ?_
  rw [Log.warn_eq, Log.warn_eq, abreast.leftLater.config, abreast.rightLater.config]
  exact abreast.extend _ _

/-- A class of the earlier state is edited in both states. -/
theorem modifyClass_abreast {id : ClassId} (inside : id.index < base.classes.size)
    (edit other : ClassObject → ClassObject) :
    RunsAlike (base.Abreast first second) Eq (modifyClass id edit) (modifyClass id other) := by
  intro left right abreast
  obtain ⟨_, isLeft⟩ := ClassTable.exists_get?_iff.mpr
    (Nat.lt_of_lt_of_le inside abreast.leftLater.classes)
  obtain ⟨_, isRight⟩ := ClassTable.exists_get?_iff.mpr
    (Nat.lt_of_lt_of_le inside abreast.rightLater.classes)
  rw [modifyClass_of_found isLeft, modifyClass_of_found isRight]
  exact ⟨rfl, abreast.withEdits id edit other⟩

/-- An instance is created in both states, possibly at different points. -/
theorem instantiate_abreast (type : TypeId) :
    RunsAlike (base.Abreast first second) (fun _ _ => True) (instantiate type)
      (instantiate type) := by
  have moves : RunsAlike (base.Abreast first second) (fun _ _ => True) (advance "instantiate")
      (advance "instantiate") := .modifyGet fun left right abreast =>
    ⟨trivial, abreast.leftLater.advance _, abreast.rightLater.advance _, abreast.logs⟩
  exact .get_bind fun _ _ _ => moves.bind fun _ _ _ => .pure trivial

end AnalysisM

namespace Decoration

open AnalysisM

/-- Checking a default adds the types of its visible values, and reports the first mismatch. -/
theorem checkDefault_eq (name : String) (type : TypeId) (value : Variable) (span : Span)
    (state : Analysis) :
    let matched := badMatches state.program type state.point value.bindings state.types
    checkDefault name type (some value) span state = .ok () { state with
      types := matched.2
      log := state.log.extend
        ((matched.1.map (BadMatch.error matched.2 name span)).take 1) [] } := by
  intro matched
  have typed : badMatchesAt value type state.point state =
      .ok matched.1 { state with types := matched.2 } := rfl
  simp only [checkDefault]
  rw [get_bind, bind_of_ok typed]
  cases matched.1 with
  | nil =>
    rw [List.map_nil, List.take_nil, Log.extend_nil]
    rfl
  | cons bad rest =>
    simp only [List.head?_cons, List.map_cons, List.take_succ_cons, List.take_zero, Log.extend,
      List.append_nil]
    rfl

/-- Checking a default finds the same mismatch in both states. -/
theorem checkDefault_abreast (builtins : TypeContext.initial.Grows base.types) (name : String)
    {type : TypeId} (grounded : base.types.Grounded type) {default : Option Variable}
    (stands : ∀ var ∈ default, ∀ binding ∈ var.bindings, binding.StandsIn base) (span : Span) :
    RunsAlike (base.Abreast first second) Eq (checkDefault name type default span)
      (checkDefault name type default span) := by
  cases default with
  | none => exact .pure rfl
  | some value =>
    intro left right abreast
    have standing := stands value rfl
    have visible : ∀ binding ∈ value.bindings,
        left.program.isReachable binding.point left.point =
          right.program.isReachable binding.point right.point := by
      intro binding member
      have inside := (standing binding member).1
      rw [abreast.leftLater.visible _ inside, abreast.rightLater.visible _ inside]
    have same := badMatches_map_error_eq abreast.leftLater.types abreast.rightLater.types builtins
      grounded visible (fun binding member => (standing binding member).2) name span
    rw [checkDefault_eq, checkDefault_eq, same]
    refine ⟨rfl, (abreast.extend _ _).withTypes ?_ ?_⟩
    · exact badMatches_grows left.program type left.point value.bindings left.types
    · exact badMatches_grows right.program type right.point value.bindings right.types

/-- The bindings of the default of an attribute are among those that are checked. -/
theorem default_bindings_subset {types : TypeContext} {name : String} {type : TypeId}
    {value : Option Variable} {attr : Attribute}
    (found : (MemberKind.of types type value).attribute? name type value = some attr) :
    ∀ default ∈ attr.default, ∃ var ∈ value, default.bindings ⊆ var.checkedBindings := by
  intro default isDefault
  rcases MemberKind.default_cases found with none | same | described
  · rw [none] at isDefault
    cases isDefault
  · rw [same] at isDefault
    exact ⟨default, isDefault, List.subset_append_left _ _⟩
  · rw [described, Option.mem_def, Option.bind_eq_some_iff] at isDefault
    obtain ⟨descriptor, describes, effective⟩ := isDefault
    obtain ⟨var, isValue, isField⟩ := Option.bind_eq_some_iff.mp describes
    refine ⟨var, isValue, ?_⟩
    rw [Variable.checkedBindings, isField, Option.bind_some, effective]
    exact List.subset_append_right _ _

/-- The type of an attribute is grounded if that of its name is. -/
theorem attribute_grounded (builtins : TypeContext.initial.Grows base.types) {name : String}
    {type : TypeId} (grounded : base.types.Grounded type) {value : Option Variable}
    {attr : Attribute}
    (found : (MemberKind.of base.types type value).attribute? name type value = some attr) :
    base.types.Grounded attr.type := by
  rw [Body.attribute?_of, Body.attributeOf?] at found
  have stored : some (Body.storedAttribute name type value) = some attr →
      base.types.Grounded attr.type := by
    intro same
    obtain rfl := Option.some.inj same
    unfold Body.storedAttribute
    split <;> exact grounded
  split at found
  · next marker arguments isContainer =>
    split at found
    · cases found
    · split at found
      · obtain rfl := Option.some.inj found
        cases arguments with
        | nil =>
          have builtin : TypeContext.initial.Knows .any := by decide
          exact TypeContext.grounded_of_builtin builtins builtin
        | cons argument rest => exact grounded.component isContainer argument List.mem_cons_self
      · exact stored found
  · exact stored found

/-- A name is collected alike in both states. -/
theorem collectKind_abreast {id : ClassId} (inside : id.index < base.classes.size) (name : String)
    (type : TypeId) (value : Option Variable) (kind : MemberKind) :
    RunsAlike (base.Abreast first second) (fun attr? other => attr? = other ∧
      attr? = kind.attribute? name type value) (collectKind id name type value kind)
      (collectKind id name type value kind) := by
  have stores : RunsAlike (base.Abreast first second) Eq (storeInstance id name type)
      (storeInstance id name type) := .get_bind fun left right _ => modifyClass_abreast inside _ _
  cases kind with
  | classVariable => exact .pure ⟨rfl, rfl⟩
  | initVariable inner =>
    have adjusts : RunsAlike (base.Abreast first second) Eq
        (adjustInitVariable id name inner value.isSome)
        (adjustInitVariable id name inner value.isSome) := modifyClass_abreast inside _ _
    exact adjusts.bind fun _ _ _ => (instantiate_abreast inner).bind fun _ _ _ => .pure ⟨rfl, rfl⟩
  | field descriptor => exact stores.bind fun _ _ _ => .pure ⟨rfl, rfl⟩
  | plain => exact stores.bind fun _ _ _ => .pure ⟨rfl, rfl⟩

/-- A name of a class body that stands in the earlier state is collected alike in both states. -/
theorem collectLocal_abreast (builtins : TypeContext.initial.Grows base.types) {id : ClassId}
    (inside : id.index < base.classes.size) (name : String) {summary : LocalSummary}
    (stands : summary.StandsIn base) :
    RunsAlike (base.Abreast first second) Eq (collectLocal id name summary)
      (collectLocal id name summary) := by
  obtain ⟨type, value, span⟩ := summary
  cases type with
  | none => exact .pure rfl
  | some type =>
    have grounded := stands.type type rfl
    refine .get_bind fun left right abreast => ?_
    rw [MemberKind.of_grows abreast.leftLater.types grounded.knows,
      MemberKind.of_grows abreast.rightLater.types grounded.knows]
    refine (collectKind_abreast inside name type value _).bind fun attr? _ alike => ?_
    obtain ⟨rfl, given⟩ := alike
    cases attr? with
    | none => exact .pure rfl
    | some attr =>
      have standing : ∀ default ∈ attr.default, ∀ binding ∈ default.bindings,
          binding.StandsIn base := by
        intro default isDefault binding member
        obtain ⟨var, isValue, among⟩ := default_bindings_subset given.symm default isDefault
        exact stands.bindings var isValue binding (among member)
      have typed := attribute_grounded builtins grounded given.symm
      exact (checkDefault_abreast builtins name typed standing span).bind fun _ _ _ => .pure rfl

/-- A class whose body stands in the earlier state is reported on alike in both states. -/
theorem report_abreast (builtins : TypeContext.initial.Grows base.types) {id : ClassId}
    (inside : id.index < base.classes.size) {object : ClassObject}
    (stands : object.body.StandsIn base) (attrs : List Attribute) :
    RunsAlike (base.Abreast first second) Eq (report id object attrs) (report id object attrs) := by
  refine (reportRepetitions_runsAlike warn_abreast _).bind fun _ _ _ => ?_
  refine (collect_runsAlike fun entry member => ?_).bind fun _ _ _ =>
    reportOrder_runsAlike warn_abreast object attrs
  refine collectLocal_abreast builtins inside entry.1 ⟨fun type typed => ?_, fun var assigned => ?_⟩
  · obtain ⟨annotated, listed, rfl⟩ := exists_annotation_of_locals member typed
    exact stands.annotations annotated listed
  · obtain ⟨assignment, listed, rfl⟩ := exists_assignment_of_locals member assigned
    exact stands.bindings assignment listed

/-- The reports of a decoration whose class stands in a state are the same in every later state. -/
theorem exists_report (sound : base.Sound) {id : ClassId} (inside : id.index < base.classes.size)
    {object : ClassObject} (stands : object.body.StandsIn base) (attrs : List Attribute) :
    ∃ errors warnings, ∀ other, base.Later other →
      (stateAfter (report id object attrs) other).log = other.log.extend errors warnings ∧
      base.Later (stateAfter (report id object attrs) other) := by
  have pair : ∀ other, base.Later other →
      base.Abreast base other (stateAfter (report id object attrs) base)
        (stateAfter (report id object attrs) other) := by
    intro other later
    refine (report_abreast sound.builtins inside stands attrs).stateAfter ?_
    exact ⟨.refl sound.onTrail, later, [], [], (Log.extend_nil _).symm, (Log.extend_nil _).symm⟩
  obtain ⟨errors, warnings, here, -⟩ := (pair base (.refl sound.onTrail)).logs
  refine ⟨errors, warnings, fun other later => ?_⟩
  obtain ⟨more, further, alsoHere, there⟩ := (pair other later).logs
  obtain ⟨rfl, rfl⟩ := Log.extend_inj (here.symm.trans alsoHere)
  exact ⟨there, (pair other later).rightLater⟩

end Decoration

end

end DataclassSynthesis
