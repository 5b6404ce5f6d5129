import DataclassSynthesis.Dataclass.Field
import DataclassSynthesis.Proofs.Inheritance
import DataclassSynthesis.Proofs.TwoRuns

/-!
# States that cannot be told apart

Calls, field descriptions and decorations read neither the log nor the members and annotated names
of classes, except for whether a class has a constructor. So they run alike from states that agree
on everything else, if the elementary effects keep such states related
(`DataclassSynthesis.Analysis.Indistinct.decorate_runsAlike`).
-/

namespace DataclassSynthesis

/-- Two classes differ at most in their members and annotated names, and both or none of them have a
constructor. -/
structure ClassObject.SameButTables (left right : ClassObject) : Prop where
  rest : right = { left with members := right.members, annotations := right.annotations }
  constructor : right.members.contains constructorName = left.members.contains constructorName

namespace ClassObject.SameButTables

variable {left right : ClassObject}

theorem refl (object : ClassObject) : object.SameButTables object := ⟨rfl, rfl⟩

/-- Setting a member concerns the tables only. -/
theorem setMember (same : left.SameButTables right) (name : String) (value : Variable) :
    (left.setMember name value).SameButTables (right.setMember name value) where
  rest := by
    rw [same.rest]
    rfl
  constructor := by
    simp only [ClassObject.setMember, NameTable.contains_insert, same.constructor]

theorem setAnnotated (same : left.SameButTables right) (name : String) (type : TypeId) :
    (left.setAnnotated name type).SameButTables (right.setAnnotated name type) where
  rest := by
    rw [same.rest]
    rfl
  constructor := same.constructor

theorem forget (same : left.SameButTables right) (name : String) :
    (left.forget name).SameButTables (right.forget name) where
  rest := by
    rw [same.rest]
    rfl
  constructor := by
    simp only [ClassObject.forget, NameTable.contains_erase, same.constructor]

/-- Storing the same attributes keeps what the classes share. -/
theorem setFields (same : left.SameButTables right) (fields : Option (List Attribute)) :
    (left.setFields fields).SameButTables (right.setFields fields) where
  rest := by
    rw [same.rest]
    rfl
  constructor := same.constructor

end ClassObject.SameButTables

/-- An edit that gives classes that differ at most in their tables to such classes. -/
def ClassObject.IsUniform (edit : ClassObject → ClassObject) : Prop :=
  ∀ object other, object.SameButTables other → (edit object).SameButTables (edit other)

/-- Where moving on leads depends on the program points alone. -/
theorem AnalysisM.stateAfter_advance_congr {left right : Analysis}
    (program : right.program = left.program) (point : right.point = left.point) (label : String) :
    (stateAfter (advance label) right).program = (stateAfter (advance label) left).program ∧
      (stateAfter (advance label) right).point = (stateAfter (advance label) left).point := by
  have same : right.program.extend right.point label = left.program.extend left.point label := by
    rw [program, point]
  exact ⟨congrArg Prod.snd same, congrArg Prod.fst same⟩

/-- States that calls and decorations cannot tell apart: what they read is the same, and the
elementary effects keep such states related. -/
structure Analysis.Indistinct (states : Analysis → Analysis → Prop) : Prop where
  types : ∀ {left right}, states left right → right.types = left.types
  program : ∀ {left right}, states left right → right.program = left.program
  point : ∀ {left right}, states left right → right.point = left.point
  classes : ∀ {left right}, states left right → ∀ id,
    Option.Rel ClassObject.SameButTables (left.classes.get? id) (right.classes.get? id)
  typed : ∀ {left right}, states left right → ∀ types,
    states { left with types := types } { right with types := types }
  edited : ∀ {left right}, states left right → ∀ id edit, ClassObject.IsUniform edit →
    states { left with classes := left.classes.modify id edit }
      { right with classes := right.classes.modify id edit }
  warned : ∀ {left right}, states left right → ∀ warning,
    states { left with log := left.log.warn warning }
      { right with log := right.log.warn warning }
  recorded : ∀ {left right}, states left right → ∀ name declared assigned value span,
    states { left with log := left.log.addError (.mismatch name declared assigned value span) }
      { right with log := right.log.addError (.mismatch name declared assigned value span) }
  advanced : ∀ {left right}, states left right → ∀ label,
    states (stateAfter (AnalysisM.advance label) left) (stateAfter (AnalysisM.advance label) right)

section

variable {states : Analysis → Analysis → Prop}

namespace Decoration

/-- Reports of repeated names run alike if warnings do. -/
theorem reportRepetitions_runsAlike
    (warns : ∀ warning, RunsAlike states Eq (AnalysisM.warn warning) (AnalysisM.warn warning))
    (repetitions : List Body.Repetition) :
    RunsAlike states Eq (reportRepetitions repetitions) (reportRepetitions repetitions) := by
  induction repetitions with
  | nil => exact .pure rfl
  | cons repetition rest ih => exact (warns _).bind fun _ _ _ => ih

theorem reportOrder_runsAlike
    (warns : ∀ warning, RunsAlike states Eq (AnalysisM.warn warning) (AnalysisM.warn warning))
    (object : ClassObject) (attrs : List Attribute) :
    RunsAlike states Eq (reportOrder object attrs) (reportOrder object attrs) := by
  unfold reportOrder
  split
  · exact warns _
  · exact .pure rfl

/-- Collecting runs alike if it does so for each name. -/
theorem collect_runsAlike {id : ClassId} {locals : List (String × LocalSummary)}
    (each : ∀ entry ∈ locals, RunsAlike states Eq (collectLocal id entry.1 entry.2)
      (collectLocal id entry.1 entry.2)) :
    RunsAlike states Eq (collect id locals) (collect id locals) := by
  induction locals with
  | nil => exact .pure rfl
  | cons entry rest ih =>
    obtain ⟨alike, others⟩ := List.forall_mem_cons.mp each
    refine alike.bind fun first _ isFirst => ?_
    exact (ih others).bind fun _ _ areOthers => .pure (by rw [isFirst, areOthers])

end Decoration

namespace Analysis.Indistinct

variable (indistinct : Indistinct states)

include indistinct

theorem warn_runsAlike (warning : Warning) :
    RunsAlike states Eq (AnalysisM.warn warning) (AnalysisM.warn warning) :=
  .modify fun _ _ alike => indistinct.warned alike warning

/-- A class is looked up alike, up to its tables. -/
theorem getClass_runsAlike (id : ClassId) :
    RunsAlike states ClassObject.SameButTables (AnalysisM.getClass id) (AnalysisM.getClass id) := by
  refine .get_bind fun left right alike => ?_
  simp only [Analysis.class?]
  rcases ClassTable.get?_cases_of_rel (indistinct.classes alike id) with
    ⟨isNone, alsoNone⟩ | ⟨object, other, found, alsoFound, same⟩
  · rw [isNone, alsoNone]
    exact .throw _
  · rw [found, alsoFound]
    exact .pure same

/-- A class is edited in both states, or missing in both. -/
theorem modifyClass_runsAlike (id : ClassId) {edit : ClassObject → ClassObject}
    (uniform : ClassObject.IsUniform edit) :
    RunsAlike states Eq (AnalysisM.modifyClass id edit) (AnalysisM.modifyClass id edit) :=
  (indistinct.getClass_runsAlike id).bind fun _ _ _ =>
    .modify fun _ _ alike => indistinct.edited alike id edit uniform

theorem advance_runsAlike (label : String) :
    RunsAlike states Eq (AnalysisM.advance label) (AnalysisM.advance label) := by
  refine .modifyGet fun left right alike => ⟨?_, indistinct.advanced alike label⟩
  rw [indistinct.program alike, indistinct.point alike]

/-- An instance is the same value in both states. -/
theorem instanceValue_eq {left right : Analysis} (alike : states left right) (type : TypeId) :
    right.instanceValue type = left.instanceValue type := by
  rw [instanceValue, instanceValue, indistinct.types alike]

theorem instantiate_runsAlike (type : TypeId) :
    RunsAlike states Eq (AnalysisM.instantiate type) (AnalysisM.instantiate type) := by
  refine .get_bind fun left right alike => ?_
  rw [indistinct.instanceValue_eq alike]
  exact (indistinct.advance_runsAlike _).bind fun _ _ same => .pure (by rw [same])

/-- A call gives the same result or error. -/
theorem call_runsAlike (callee : Variable) (arguments : CallArguments) :
    RunsAlike states Eq (AnalysisM.call callee arguments) (AnalysisM.call callee arguments) := by
  refine .get_bind fun left right alike => ?_
  have same : right.callResult callee arguments = left.callResult callee arguments := by
    simp only [callResult, indistinct.instanceValue_eq alike, indistinct.types alike]
  rw [same]
  refine (RunsAlike.ofExcept _).bind fun _ _ sameValue => ?_
  exact (indistinct.advance_runsAlike _).bind fun _ _ samePoint =>
    .pure (by rw [sameValue, samePoint])

/-- A field is described alike. -/
theorem describeField_runsAlike (arguments : CallArguments) :
    RunsAlike states Eq (Field.call arguments) (Field.call arguments) := by
  have default? : RunsAlike states Eq (Field.default? arguments) (Field.default? arguments) := by
    unfold Field.default?
    split
    · exact .throw _
    · exact .pure rfl
    · exact (indistinct.call_runsAlike _ _).bind fun _ _ same => .pure (by rw [same])
    · exact .pure rfl
  have init : RunsAlike states Eq (Field.init arguments) (Field.init arguments) := by
    unfold Field.init
    split
    · exact .pure rfl
    · split
      · exact .pure rfl
      · exact (indistinct.warn_runsAlike _).bind fun _ _ _ => .pure rfl
  refine (RunsAlike.ofExcept _).bind fun _ _ _ => default?.bind fun _ _ sameDefault =>
    init.bind fun _ _ sameInit => ?_
  refine .get_bind fun left right alike => ?_
  rw [sameDefault, sameInit, indistinct.point alike]
  exact .pure rfl

theorem badMatchesAt_runsAlike (var : Variable) (declared : TypeId) (point : PointId) :
    RunsAlike states Eq (AnalysisM.badMatchesAt var declared point)
      (AnalysisM.badMatchesAt var declared point) := by
  refine .get_bind fun left right alike => ?_
  rw [indistinct.program alike]
  refine .modifyGet fun left right alike => ?_
  rw [indistinct.types alike]
  exact ⟨rfl, indistinct.typed alike _⟩

theorem recordMismatch_runsAlike (bad : BadMatch) (name : String) (span : Span) :
    RunsAlike states Eq (AnalysisM.recordMismatch bad name span)
      (AnalysisM.recordMismatch bad name span) := by
  refine .get_bind fun left right alike => ?_
  rw [indistinct.types alike]
  exact .modify fun _ _ alike => indistinct.recorded alike _ _ _ _ _

theorem checkDefault_runsAlike (name : String) (type : TypeId) (default : Option Variable)
    (span : Span) :
    RunsAlike states Eq (Decoration.checkDefault name type default span)
      (Decoration.checkDefault name type default span) := by
  cases default with
  | none => exact .pure rfl
  | some value =>
    refine .get_bind fun left right alike => ?_
    rw [indistinct.point alike]
    refine (indistinct.badMatchesAt_runsAlike value type _).bind fun bad _ isBad => ?_
    rw [isBad]
    split
    · exact indistinct.recordMismatch_runsAlike _ name span
    · exact .pure rfl

theorem storeInstance_runsAlike (id : ClassId) (name : String) (type : TypeId) :
    RunsAlike states Eq (Decoration.storeInstance id name type)
      (Decoration.storeInstance id name type) := by
  refine .get_bind fun left right alike => ?_
  rw [instanceAt, instanceAt, indistinct.instanceValue_eq alike, indistinct.point alike]
  exact indistinct.modifyClass_runsAlike id fun _ _ same => same.setMember name _

theorem collectKind_runsAlike (id : ClassId) (name : String) (type : TypeId)
    (value : Option Variable) (kind : MemberKind) :
    RunsAlike states Eq (Decoration.collectKind id name type value kind)
      (Decoration.collectKind id name type value kind) := by
  have stores := indistinct.storeInstance_runsAlike id name type
  cases kind with
  | classVariable => exact .pure rfl
  | initVariable inner =>
    have adjusts : RunsAlike states Eq (Decoration.adjustInitVariable id name inner value.isSome)
        (Decoration.adjustInitVariable id name inner value.isSome) := by
      refine indistinct.modifyClass_runsAlike id fun object other same => ?_
      split
      · exact same.setAnnotated name inner
      · exact same.forget name
    exact adjusts.bind fun _ _ _ =>
      (indistinct.instantiate_runsAlike inner).bind fun _ _ _ => .pure rfl
  | field descriptor => exact stores.bind fun _ _ _ => .pure rfl
  | plain => exact stores.bind fun _ _ _ => .pure rfl

theorem collectLocal_runsAlike (id : ClassId) (name : String) (summary : LocalSummary) :
    RunsAlike states Eq (Decoration.collectLocal id name summary)
      (Decoration.collectLocal id name summary) := by
  obtain ⟨type, value, span⟩ := summary
  cases type with
  | none => exact .pure rfl
  | some type =>
    refine .get_bind fun left right alike => ?_
    rw [indistinct.types alike]
    refine (indistinct.collectKind_runsAlike id name type value _).bind fun attr? _ isAttr => ?_
    rw [isAttr]
    split
    · exact .pure rfl
    · exact (indistinct.checkDefault_runsAlike name _ _ span).bind fun _ _ _ => .pure rfl

/-- The constructor is installed alike, since both classes or none have one already. -/
theorem installConstructor_runsAlike (options : Options) (id : ClassId) (attrs : List Attribute) :
    RunsAlike states Eq (Decoration.installConstructor options id attrs)
      (Decoration.installConstructor options id attrs) := by
  refine (indistinct.getClass_runsAlike id).bind fun object other same => ?_
  rw [same.constructor]
  split
  · refine .get_bind fun left right alike => ?_
    have built : right.constructor? id attrs = left.constructor? id attrs := by
      simp only [constructor?, class?, indistinct.point alike]
      rcases ClassTable.get?_cases_of_rel (indistinct.classes alike id) with
        ⟨isNone, alsoNone⟩ | ⟨object, other, found, alsoFound, same⟩
      · rw [isNone, alsoNone]
      · rw [found, alsoFound, same.rest]
        rfl
    rw [built]
    refine (RunsAlike.ofExcept _).bind fun constructor _ isConstructor => ?_
    rw [isConstructor]
    exact indistinct.modifyClass_runsAlike id fun _ _ same => same.setMember constructorName _
  · exact .pure rfl

theorem inherited_eq {left right : Analysis} (alike : states left right) (id : ClassId) :
    right.classes.inherited id = left.classes.inherited id := by
  refine (ClassTable.inherited_congr (fun object other same => ?_)
    (indistinct.classes alike) id).symm
  rw [same.rest]
  exact ⟨rfl, rfl⟩

/-- A decoration runs alike from states that cannot be told apart. -/
theorem decorate_runsAlike (options : Options) (id : ClassId) :
    RunsAlike states Eq (Decoration.decorate options id) (Decoration.decorate options id) := by
  refine (indistinct.getClass_runsAlike id).bind fun object other same => ?_
  rw [same.rest]
  refine (Decoration.reportRepetitions_runsAlike indistinct.warn_runsAlike _).bind fun _ _ _ => ?_
  refine (Decoration.collect_runsAlike fun entry _ =>
    indistinct.collectLocal_runsAlike id entry.1 entry.2).bind fun own _ isOwn => ?_
  refine .get_bind fun left right alike => ?_
  rw [indistinct.inherited_eq alike, isOwn]
  refine (RunsAlike.ofExcept _).bind fun inherited _ isInherited => ?_
  rw [isInherited]
  refine (Decoration.reportOrder_runsAlike indistinct.warn_runsAlike _ _).bind fun _ _ _ => ?_
  refine (indistinct.modifyClass_runsAlike id fun _ _ same => same.setFields _).bind fun _ _ _ => ?_
  refine (indistinct.installConstructor_runsAlike options id _).bind fun _ _ _ => ?_
  exact .get_bind fun _ _ alike => .pure (indistinct.point alike).symm

end Analysis.Indistinct

end

end DataclassSynthesis
