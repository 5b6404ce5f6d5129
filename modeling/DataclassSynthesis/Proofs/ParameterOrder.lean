import DataclassSynthesis.Proofs.ConstructorHistory
import DataclassSynthesis.Proofs.LaterStates
import DataclassSynthesis.Proofs.WarningRouting
import Mathlib.Data.List.TakeWhile

/-!
# Reports about the order of parameters

A decoration reports the first required parameter that follows one with a default, in the signature
of the constructor that the stored attributes give. It does so before it decides whether the class
gets that constructor, so the report comes as well when the class writes its own constructor or the
decorator is not to add one (`DataclassSynthesis.Reaches.decorate_reports_order`). Of the parts of a
decoration no other one reports the order of parameters.
-/

namespace DataclassSynthesis

/-- Whether a parameter must be supplied. -/
def Parameter.isRequired (parameter : Parameter) : Bool := parameter.default.isNone

/-- A required parameter is the first one that follows an optional parameter. -/
def Signature.FirstMisplaced (signature : Signature) (parameter : Parameter) : Prop :=
  ∃ before after, signature.parameters = before ++ parameter :: after ∧
    parameter.isRequired = true ∧ (∃ earlier ∈ before, earlier.isRequired = false) ∧
    before.Pairwise fun earlier later => earlier.isRequired = false → later.isRequired = false

/-- The misplaced parameter is found by skipping the required parameters at the beginning. -/
theorem Signature.find?_dropWhile_iff {signature : Signature} {parameter : Parameter} :
    (signature.parameters.dropWhile Parameter.isRequired).find? Parameter.isRequired =
        some parameter ↔ signature.FirstMisplaced parameter := by
  constructor
  · intro found
    obtain ⟨required, optional, after, split, passed⟩ := List.find?_eq_some_iff_append.mp found
    have areOptional : ∀ earlier ∈ optional, earlier.isRequired = false := by
      simpa using passed
    refine ⟨signature.parameters.takeWhile Parameter.isRequired ++ optional, after, ?_, required,
      ?_, ?_⟩
    · rw [List.append_assoc, ← split, List.takeWhile_append_dropWhile]
    · -- What is left after skipping does not begin with a required parameter.
      cases optional with
      | nil =>
        have stopped := List.head?_dropWhile_not Parameter.isRequired signature.parameters
        rw [split] at stopped
        exact absurd required (Bool.eq_false_iff.mp stopped)
      | cons first rest =>
        exact ⟨first, by simp, areOptional first List.mem_cons_self⟩
    · refine List.pairwise_append.mpr ⟨?_, ?_, fun _ _ later listed _ => areOptional later listed⟩
      · refine List.pairwise_of_forall_mem_list fun earlier listed _ _ isOptional => ?_
        exact absurd (List.mem_takeWhile_imp listed) (Bool.eq_false_iff.mp isOptional)
      · exact List.pairwise_of_forall_mem_list fun _ _ later listed _ => areOptional later listed
  · rintro ⟨before, after, split, required, ⟨earlier, listed, isOptional⟩, ordered⟩
    have left := ordered.sublist (List.dropWhile_sublist Parameter.isRequired)
    have stopped := List.head?_dropWhile_not Parameter.isRequired before
    cases remaining : before.dropWhile Parameter.isRequired with
    | nil =>
      have skipped := List.dropWhile_eq_nil_iff.mp remaining earlier listed
      exact absurd skipped (Bool.eq_false_iff.mp isOptional)
    | cons first rest =>
      rw [remaining] at left stopped
      have passed : (first :: rest).find? Parameter.isRequired = none := by
        refine List.find?_eq_none.mpr (List.forall_mem_cons.mpr ⟨?_, fun later among => ?_⟩)
        · exact Bool.eq_false_iff.mp stopped
        · exact Bool.eq_false_iff.mp ((List.pairwise_cons.mp left).1 later among stopped)
      rw [split, List.dropWhile_append, remaining, List.isEmpty_cons, if_neg Bool.false_ne_true,
        List.find?_append, passed, Option.none_or, List.find?_cons_of_pos required]

namespace Attribute

/-- A constructor attribute must be supplied when its parameter must. -/
theorem isRequired_eq (attr : Attribute) :
    attr.isRequired = (attr.init && attr.parameter.isRequired) := rfl

/-- An attribute is optional if it is passed to the constructor and its parameter is not
required. -/
theorem isOptional_eq (attr : Attribute) :
    attr.isOptional = (attr.init && !attr.parameter.isRequired) := by
  rw [isOptional, Parameter.isRequired, Option.not_isNone]
  rfl

/-- The first required attribute gives the first required parameter. -/
theorem map_parameter_find? (attrs : List Attribute) :
    (attrs.find? isRequired).map parameter =
      ((attrs.filter init).map parameter).find? Parameter.isRequired := by
  rw [List.find?_map, List.find?_filter]
  refine congrArg (fun test => (attrs.find? test).map parameter) (funext fun attr => ?_)
  rw [isRequired_eq, Bool.decide_and, Bool.decide_eq_true, Bool.decide_eq_true]
  rfl

/-- What is reported about a list of attributes is the misplaced parameter of its constructor. -/
theorem map_parameter_requiredAfterDefault (receiver : TypeId) (attrs : List Attribute) :
    (requiredAfterDefault attrs).map parameter =
      ((constructorFor receiver attrs).signature.parameters.dropWhile Parameter.isRequired).find?
        Parameter.isRequired := by
  have skipped : (constructorFor receiver attrs).signature.parameters.dropWhile
      Parameter.isRequired =
        ((attrs.filter init).map parameter).dropWhile Parameter.isRequired := rfl
  rw [skipped, requiredAfterDefault]
  clear skipped
  induction attrs with
  | nil => rfl
  | cons attr rest ih =>
    cases wanted : attr.init with
    | false =>
      rw [List.dropWhile_cons_of_pos (by rw [isOptional_eq, wanted]; rfl), ih,
        List.filter_cons_of_neg (by rw [wanted]; exact Bool.false_ne_true)]
    | true =>
      rw [List.filter_cons_of_pos wanted, List.map_cons]
      cases required : attr.parameter.isRequired with
      | true =>
        rw [List.dropWhile_cons_of_pos (by rw [isOptional_eq, wanted, required]; rfl), ih,
          List.dropWhile_cons_of_pos required]
      | false =>
        rw [List.dropWhile_cons_of_neg (by rw [isOptional_eq, wanted, required]; exact nofun),
          map_parameter_find?, List.filter_cons_of_pos wanted, List.map_cons,
          List.dropWhile_cons_of_neg (Bool.eq_false_iff.mp required)]

end Attribute

/-- A warning is among the entries of a log, as it is or as the error to which it is promoted. -/
def Warning.RecordedIn (warning : Warning) (errors : List CheckError) (warnings : List Warning) :
    Prop :=
  warning ∈ warnings ∨ warning.promoted ∈ errors

namespace Warning

theorem recordedIn_append {warning : Warning} {errors more : List CheckError}
    {warnings further : List Warning} :
    warning.RecordedIn (errors ++ more) (warnings ++ further) ↔
      warning.RecordedIn errors warnings ∨ warning.RecordedIn more further := by
  simp only [RecordedIn, List.mem_append]
  exact or_or_or_comm

/-- The wording about a misplaced parameter tells its name. -/
theorem name_eq_of_promoted {className name other : String} {span : Span}
    (same : (requiredAfterDefault className name span).promoted =
      (requiredAfterDefault className other span).promoted) : name = other := by
  unfold promoted at same
  rw [CheckError.denied.injEq] at same
  obtain ⟨-, worded, -⟩ := same
  unfold message at worded
  rw [String.append_left_inj, String.append_left_inj, String.append_left_inj,
    String.append_right_inj] at worded
  exact worded

/-- A warning that is reported is recorded, whatever its name. -/
theorem recordedIn_routed {config : WarningConfig} {className name other : String} {span : Span}
    (enabled : config.isEnabled .requiredAfterDefault = true) :
    (requiredAfterDefault className name span).RecordedIn
        (Log.routed config (requiredAfterDefault className other span)).1
        (Log.routed config (requiredAfterDefault className other span)).2 ↔ name = other := by
  rw [Log.routed_eq, RecordedIn]
  simp only [List.filter_singleton, WarningConfig.records, WarningConfig.promotes, code, enabled]
  constructor
  · cases config.isDenied .requiredAfterDefault with
    | true =>
      rintro (kept | promoted)
      · cases kept
      · exact name_eq_of_promoted (List.mem_singleton.mp promoted)
    | false =>
      rintro (kept | promoted)
      · cases List.mem_singleton.mp kept
        rfl
      · cases promoted
  · rintro rfl
    cases config.isDenied .requiredAfterDefault with
    | true => exact .inr List.mem_cons_self
    | false => exact .inl List.mem_cons_self

end Warning

namespace AnalysisM

variable {α β : Type} {code : WarningCode}

/-- An operation that may add to the log, but reports no warning of the given code. -/
def Withholds (code : WarningCode) (action : AnalysisM α) : Prop :=
  ∀ state, ∃ errors warnings, (stateAfter action state).log = state.log.extend errors warnings ∧
    ∀ warning : Warning, warning.code = code → ¬ warning.RecordedIn errors warnings

/-- An operation that leaves the log alone reports nothing. -/
theorem withholds_of_log {action : AnalysisM α}
    (same : ∀ state, (stateAfter action state).log = state.log) : Withholds code action :=
  fun state => ⟨[], [], by rw [same, Log.extend_nil], fun _ _ recorded => by
    simp [Warning.RecordedIn] at recorded⟩

theorem withholds_pure (value : α) : Withholds code (pure value : AnalysisM α) :=
  withholds_of_log fun _ => rfl

theorem withholds_get : Withholds code (get : AnalysisM Analysis) := withholds_of_log fun _ => rfl

/-- One operation after the other withholds a code if both do so. -/
theorem Withholds.bind {action : AnalysisM α} {next : α → AnalysisM β}
    (first : Withholds code action) (rest : ∀ value, Withholds code (next value)) :
    Withholds code (action >>= next) := by
  intro state
  obtain ⟨errors, warnings, logged, withheld⟩ := first state
  cases ran : action state with
  | ok value middle =>
    obtain ⟨more, further, loggedLater, alsoWithheld⟩ := rest value middle
    rw [stateAfter_of_ok ran] at logged
    rw [logged, Log.extend_extend] at loggedLater
    refine ⟨errors ++ more, warnings ++ further, ?_, fun warning ofCode recorded => ?_⟩
    · rw [stateAfter_bind_of_ok ran, loggedLater]
    · rcases Warning.recordedIn_append.mp recorded with early | late
      · exact withheld warning ofCode early
      · exact alsoWithheld warning ofCode late
  | error error middle =>
    have same : stateAfter (action >>= next) state = stateAfter action state := by
      rw [stateAfter_bind_of_error ran, stateAfter, ran]
    exact ⟨errors, warnings, by rw [same, logged], withheld⟩

theorem withholds_modifyClass (id : ClassId) (edit : ClassObject → ClassObject) :
    Withholds code (modifyClass id edit) :=
  withholds_of_log fun state => by
    rw [stateAfter_modifyClass]
    split <;> rfl

theorem withholds_instantiate (type : TypeId) : Withholds code (instantiate type) :=
  withholds_of_log fun _ => rfl

theorem withholds_badMatchesAt (var : Variable) (declared : TypeId) (point : PointId) :
    Withholds code (badMatchesAt var declared point) := withholds_of_log fun _ => rfl

/-- Warnings of another code are reported as warnings or errors of that code. -/
theorem withholds_warn {warning : Warning} (differ : warning.code ≠ code) :
    Withholds code (warn warning) := by
  intro state
  have warned : (stateAfter (warn warning) state).log = state.log.warn warning := rfl
  rw [warned, Log.warn_eq, Log.routed_eq]
  refine ⟨_, _, rfl, fun other ofCode recorded => ?_⟩
  rcases recorded with kept | promoted
  · obtain rfl := List.mem_singleton.mp (List.mem_filter.mp kept).1
    exact differ ofCode
  · obtain ⟨found, listed, same⟩ := List.mem_map.mp promoted
    obtain rfl := List.mem_singleton.mp (List.mem_filter.mp listed).1
    simp only [Warning.promoted, CheckError.denied.injEq] at same
    exact differ (same.1.trans ofCode)

/-- A mismatch is an error and no warning of any code. -/
theorem withholds_recordMismatch (bad : BadMatch) (name : String) (span : Span) :
    Withholds code (recordMismatch bad name span) := by
  intro state
  refine ⟨[bad.error state.types name span], [], ?_, fun warning _ recorded => ?_⟩
  · simp only [Log.extend, List.append_nil]
    rfl
  · rcases recorded with kept | promoted
    · cases kept
    · cases List.mem_singleton.mp promoted

end AnalysisM

namespace Decoration

open AnalysisM

variable {code : WarningCode}

/-- Reporting repetitions reports warnings of one code only. -/
theorem withholds_reportRepetitions (differ : WarningCode.annotatedTwice ≠ code)
    (repetitions : List Body.Repetition) : Withholds code (reportRepetitions repetitions) := by
  induction repetitions with
  | nil => exact withholds_pure ()
  | cons repetition rest ih =>
    have warns : Withholds code
        (warn (.annotatedTwice repetition.name repetition.first repetition.second)) :=
      withholds_warn differ
    exact warns.bind fun _ => ih

theorem withholds_checkDefault (name : String) (type : TypeId) (default : Option Variable)
    (span : Span) : Withholds code (checkDefault name type default span) := by
  cases default with
  | none => exact withholds_pure ()
  | some value =>
    refine withholds_get.bind fun _ => (withholds_badMatchesAt _ _ _).bind fun bad => ?_
    cases bad.head? with
    | none => exact withholds_pure ()
    | some first => exact withholds_recordMismatch first name span

theorem withholds_collectKind (id : ClassId) (name : String) (type : TypeId)
    (value : Option Variable) (kind : MemberKind) :
    Withholds code (collectKind id name type value kind) := by
  cases kind with
  | classVariable => exact withholds_pure none
  | initVariable inner =>
    exact (withholds_modifyClass _ _).bind fun _ => (withholds_instantiate inner).bind fun _ =>
      withholds_pure _
  | field _ | plain =>
    exact (withholds_get.bind fun _ => withholds_modifyClass _ _).bind fun _ => withholds_pure _

theorem withholds_collectLocal (id : ClassId) (name : String) (summary : LocalSummary) :
    Withholds code (collectLocal id name summary) := by
  unfold collectLocal
  cases summary.type with
  | none => exact withholds_pure []
  | some type =>
    refine withholds_get.bind fun _ => (withholds_collectKind _ _ _ _ _).bind fun given => ?_
    cases given with
    | none => exact withholds_pure []
    | some attr => exact (withholds_checkDefault _ _ _ _).bind fun _ => withholds_pure [attr]

/-- Collecting attributes reports wrong defaults, and no warning of any code. -/
theorem withholds_collect (id : ClassId) (locals : List (String × LocalSummary)) :
    Withholds code (collect id locals) := by
  induction locals with
  | nil => exact withholds_pure []
  | cons entry rest ih =>
    exact (withholds_collectLocal _ _ _).bind fun _ => ih.bind fun _ => withholds_pure _

/-- The name of the parameter that is reported about some attributes. -/
theorem recordedIn_reportOrder {object : ClassObject} {state : Analysis}
    (enabled : state.log.config.isEnabled .requiredAfterDefault = true) (attrs : List Attribute) :
    ∃ errors warnings, (stateAfter (reportOrder object attrs) state).log =
        state.log.extend errors warnings ∧
      ∀ name, (Warning.requiredAfterDefault object.name name object.span).RecordedIn errors
          warnings ↔
        ∃ parameter, (constructorFor object.type attrs).signature.FirstMisplaced parameter ∧
          parameter.name = name := by
  have misplaced := Attribute.map_parameter_requiredAfterDefault object.type attrs
  unfold reportOrder
  cases reported : Attribute.requiredAfterDefault attrs with
  | none =>
    rw [reported] at misplaced
    refine ⟨[], [], state.log.extend_nil.symm, fun name => iff_of_false ?_ ?_⟩
    · rintro (kept | promoted)
      · cases kept
      · cases promoted
    · rintro ⟨parameter, first, -⟩
      rw [← Signature.find?_dropWhile_iff, ← misplaced] at first
      cases first
  | some attr =>
    rw [reported] at misplaced
    have warned : (stateAfter (warn (.requiredAfterDefault object.name attr.name object.span))
        state).log =
          state.log.warn (.requiredAfterDefault object.name attr.name object.span) := rfl
    have isFirst := Signature.find?_dropWhile_iff.mp misplaced.symm
    refine ⟨_, _, warned.trans (state.log.warn_eq _), fun name => ?_⟩
    rw [Warning.recordedIn_routed enabled]
    constructor
    · rintro rfl
      exact ⟨attr.parameter, isFirst, rfl⟩
    · rintro ⟨parameter, first, rfl⟩
      rw [← Signature.find?_dropWhile_iff, ← misplaced] at first
      exact congrArg Parameter.name (Option.some.inj first).symm

end Decoration

/-- Decorating an existing class records the order of parameters exactly when the constructor of the
stored attributes has a misplaced parameter, and names that parameter. The class has this
constructor afterwards only if it had none and the options ask for it; otherwise its own entry
stays. -/
theorem Reaches.decorate_reports_order {config : WarningConfig} {state : Analysis}
    (reached : Reaches Operation.Any (Analysis.initial config) state) {id : ClassId}
    {object : ClassObject} (found : state.classes.get? id = some object)
    (enabled : state.log.config.isEnabled .requiredAfterDefault = true) (options : Options) :
    ∃ after stored attrs errors warnings,
      Decoration.decorate options id state = .ok after.point after ∧
      after.classes.get? id = some stored ∧ stored.fields = some attrs ∧
      stored.members.find? constructorName =
        (if options.init && !object.members.contains constructorName then
          some (.single (.function (constructorFor object.type attrs)) after.point)
        else object.members.find? constructorName) ∧
      after.log = state.log.extend errors warnings ∧
      ∀ name, (Warning.requiredAfterDefault object.name name object.span).RecordedIn errors
          warnings ↔
        ∃ parameter, (constructorFor object.type attrs).signature.FirstMisplaced parameter ∧
          parameter.name = name := by
  have withholds : AnalysisM.Withholds .requiredAfterDefault
      (Decoration.reportRepetitions object.body.repetitions) := by
    refine Decoration.withholds_reportRepetitions ?_ _
    exact nofun
  obtain ⟨early, earlyWarnings, repeated, notEarly⟩ := withholds state
  set reported := stateAfter (Decoration.reportRepetitions object.body.repetitions) state
  have sameClasses :=
    (Decoration.definesNothing_reportRepetitions object.body.repetitions state).2
  obtain ⟨collected, collects, -⟩ := Decoration.collect_body object.body (sameClasses.symm ▸ found)
  generalize object.body.ownAttributes reported.types = own at collects
  obtain ⟨middle, middleWarnings, gathered, notMiddle⟩ :=
    Decoration.withholds_collect id (object.body.locals true .firstAnnotated).entries reported
  rw [stateAfter_of_ok collects, repeated, Log.extend_extend] at gathered
  obtain ⟨after, stored, ran, nowFound, fields, constructed, log, -⟩ :=
    Decoration.decorate_collected reached.basesFirst found options collects
  have stillEnabled : collected.log.config.isEnabled .requiredAfterDefault = true := by
    rw [gathered]
    exact enabled
  obtain ⟨late, lateWarnings, ordered, isLate⟩ :=
    @Decoration.recordedIn_reportOrder object _ stillEnabled
      (Attribute.mergeAll [] (state.classes.inheritedParts id ++ own))
  rw [gathered, Log.extend_extend] at ordered
  refine ⟨after, stored, _, _, _, ran, nowFound, fields, constructed, log.trans ordered,
    fun name => ?_⟩
  have silent := not_or.mpr ⟨notEarly (.requiredAfterDefault object.name name object.span) rfl,
    notMiddle (.requiredAfterDefault object.name name object.span) rfl⟩
  rw [Warning.recordedIn_append, Warning.recordedIn_append, isLate, or_iff_right silent]

namespace Sample

/-- The statement `class Early: x: int = 1; y: str`. -/
def early : ClassDefinition :=
  ((ClassDefinition.start "Early" [] none).declare "x" .int
    (.single (.constant (.int 1)) Program.entry)).annotate "y" .str none

/-- The state after the statement, in which every warning is recorded. -/
def definedEarly : Analysis := Operation.run (.initial .everything) (.define early)

theorem reaches_definedEarly : Reaches Operation.Any (.initial .everything) definedEarly :=
  .step .refl (.define early) trivial

/-- The second parameter is reported. -/
theorem early_reports_order :
    ∃ after errors warnings, Decoration.decorate {} ⟨0⟩ definedEarly = .ok after.point after ∧
      after.log = definedEarly.log.extend errors warnings ∧
      (Warning.requiredAfterDefault "Early" "y" early.span).RecordedIn errors warnings := by
  obtain ⟨after, stored, attrs, errors, warnings, ran, nowFound, fields, -, logged, reported⟩ :=
    @Reaches.decorate_reports_order _ _ reaches_definedEarly ⟨0⟩ _ rfl rfl {}
  have listed : ((stateAfter (Decoration.decorate {} ⟨0⟩) definedEarly).classes.get? ⟨0⟩).bind
      ClassObject.fields =
        some [⟨"x", .int, true, some (.single (.constant (.int 1)) Program.entry)⟩,
          ⟨"y", .str, true, none⟩] := rfl
  rw [stateAfter_of_ok ran, nowFound, Option.bind_some, fields] at listed
  obtain rfl := Option.some.inj listed
  refine ⟨after, errors, warnings, ran, logged, (reported "y").mpr ⟨⟨"y", .str, none⟩, ?_, rfl⟩⟩
  rw [← Signature.find?_dropWhile_iff]
  rfl

/-- The order of parameters is reported although the class gets no constructor. -/
theorem order_reported_without_constructor :
    ∃ state id options after stored, Reaches Operation.Any (.initial .everything) state ∧
      (∀ code, state.log.config.isEnabled code = true) ∧
      Decoration.decorate options id state = .ok after.point after ∧
      after.classes.get? id = some stored ∧
      Warning.requiredAfterDefault stored.name "y" stored.span ∈ after.log.warnings ∧
      stored.members.find? constructorName = none := by
  refine ⟨definedEarly, ⟨0⟩, { init := false }, _, _, reaches_definedEarly, fun _ => rfl, rfl, rfl,
    ?_, rfl⟩
  exact List.mem_cons_self

end Sample

end DataclassSynthesis
