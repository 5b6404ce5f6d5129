import DataclassSynthesis.Proofs.SessionsSideBySide

/-!
# Where warnings go

The configuration decides for each warning whether it is dropped, recorded, or promoted to an error.
Nothing else depends on it: the same requests get the same answers and leave the same types,
classes, program points and decorator objects, and the log holds what a log that records every
warning holds, routed entry by entry (`DataclassSynthesis.Session.configuration_only_routes`).
-/

namespace DataclassSynthesis

/-- Whether a recorded error is a warning that was promoted. -/
def CheckError.isPromoted : CheckError → Bool
  | mismatch .. => false
  | denied .. => true

/-- The error to which a warning is promoted. -/
def Warning.promoted (warning : Warning) : CheckError :=
  .denied warning.code warning.message warning.span

namespace WarningConfig

/-- Whether a warning is recorded as one. -/
def records (config : WarningConfig) (warning : Warning) : Bool :=
  config.isEnabled warning.code && !config.isDenied warning.code

/-- Whether a warning is recorded as an error. -/
def promotes (config : WarningConfig) (warning : Warning) : Bool :=
  config.isEnabled warning.code && config.isDenied warning.code

end WarningConfig

/-- A log with more errors and more warnings. -/
def Log.extend (log : Log) (errors : List CheckError) (warnings : List Warning) : Log :=
  { log with errors := log.errors ++ errors, warnings := log.warnings ++ warnings }

namespace Log

/-- What a log adds for a warning, as an error or as a warning. -/
def routed (config : WarningConfig) (warning : Warning) : List CheckError × List Warning :=
  if !config.isEnabled warning.code then ([], [])
  else if config.isDenied warning.code then
    ([.denied warning.code warning.message warning.span], [])
  else ([], [warning])

theorem extend_nil (log : Log) : log.extend [] [] = log := by
  simp only [extend, List.append_nil]

theorem extend_extend (log : Log) (errors more : List CheckError)
    (warnings further : List Warning) :
    (log.extend errors warnings).extend more further =
      log.extend (errors ++ more) (warnings ++ further) := by
  simp only [extend, List.append_assoc]

/-- A log tells which entries were added to it. -/
theorem extend_inj {log : Log} {errors more : List CheckError} {warnings further : List Warning}
    (same : log.extend errors warnings = log.extend more further) :
    errors = more ∧ warnings = further := by
  have sameErrors := congrArg Log.errors same
  have sameWarnings := congrArg Log.warnings same
  exact ⟨List.append_cancel_left sameErrors, List.append_cancel_left sameWarnings⟩

/-- To warn is to add the entries to which the configuration routes the warning. -/
theorem warn_eq (log : Log) (warning : Warning) :
    log.warn warning =
      log.extend (routed log.config warning).1 (routed log.config warning).2 := by
  unfold warn routed
  split
  · exact log.extend_nil.symm
  · split
    · simp only [addError, extend, List.append_nil]
    · simp only [extend, List.append_nil]

end Log

/-- One warning is raised between two logs. Unless the configuration disables the warning, it is
recorded once, at the end: as an error if the configuration denies it, and else as a warning. -/
structure Log.Raises (warning : Warning) (before after : Log) : Prop where
  config : after.config = before.config
  recorded : before.config.isEnabled warning.code = true →
    before.config.isDenied warning.code = false →
      after.warnings = before.warnings ++ [warning] ∧ after.errors = before.errors
  promoted : before.config.isEnabled warning.code = true →
    before.config.isDenied warning.code = true →
      after.warnings = before.warnings ∧
        after.errors = before.errors ++ [.denied warning.code warning.message warning.span]
  dropped : before.config.isEnabled warning.code = false →
    after.warnings = before.warnings ∧ after.errors = before.errors

namespace Log

/-- To warn is to raise one warning. -/
theorem raises_warn (log : Log) (warning : Warning) : log.Raises warning (log.warn warning) := by
  unfold warn
  cases enabled : log.config.isEnabled warning.code with
  | false => constructor <;> simp [enabled]
  | true =>
    cases denied : log.config.isDenied warning.code with
    | false => constructor <;> simp [enabled, denied]
    | true => constructor <;> simp [enabled, denied, addError]

/-- A warning is routed to the errors if it is promoted, and to the warnings if it is recorded. -/
theorem routed_eq (config : WarningConfig) (warning : Warning) :
    routed config warning =
      (([warning].filter config.promotes).map Warning.promoted,
        [warning].filter config.records) := by
  unfold routed
  simp only [List.filter_singleton, WarningConfig.promotes, WarningConfig.records]
  cases config.isEnabled warning.code <;> cases config.isDenied warning.code <;> rfl

/-- What promoted warnings become counts as promoted. -/
theorem isPromoted_of_mem_map {warnings : List Warning} {error : CheckError}
    (member : error ∈ warnings.map Warning.promoted) : error.isPromoted = true := by
  obtain ⟨warning, -, rfl⟩ := List.mem_map.mp member
  rfl

/-- Errors that are promoted warnings do not count among the others. -/
theorem filter_not_isPromoted {errors : List CheckError}
    (promoted : ∀ error ∈ errors, error.isPromoted = true) :
    errors.filter (!·.isPromoted) = [] :=
  List.filter_eq_nil_iff.mpr fun error member => by
    simp only [promoted error member, Bool.not_true, Bool.false_eq_true, not_false_eq_true]

/-- One log records every warning, and another holds the same entries as a configuration routes
them. -/
structure Routes (config : WarningConfig) (full log : Log) : Prop where
  everything : full.config = .everything
  configured : log.config = config
  warnings : log.warnings = full.warnings.filter config.records
  mismatches : log.errors.filter (!·.isPromoted) = full.errors.filter (!·.isPromoted)
  promoted : log.errors.filter CheckError.isPromoted =
    (full.warnings.filter config.promotes).map Warning.promoted

namespace Routes

variable {config : WarningConfig} {full log : Log}

theorem empty (config : WarningConfig) : Routes config (.empty .everything) (.empty config) :=
  ⟨rfl, rfl, rfl, rfl, rfl⟩

/-- A further warning goes where the configuration routes it. -/
theorem warn (routes : Routes config full log) (warning : Warning) :
    Routes config (full.warn warning) (log.warn warning) := by
  have kept : routed .everything warning = ([], [warning]) := rfl
  have among := @isPromoted_of_mem_map ([warning].filter config.promotes)
  rw [warn_eq, warn_eq, routes.everything, routes.configured, kept, routed_eq]
  refine ⟨routes.everything, routes.configured, ?_, ?_, ?_⟩
  · rw [extend, extend, List.filter_append, routes.warnings]
  · have none := filter_not_isPromoted fun error member => among member
    simp only [extend, List.filter_append, routes.mismatches, none, List.filter_nil]
  · have all := List.filter_eq_self.mpr fun error member => among member
    simp only [extend, List.filter_append, routes.promoted, all, List.map_append]

/-- Both logs take up a mismatch. -/
theorem addError (routes : Routes config full log) {error : CheckError}
    (isMismatch : error.isPromoted = false) :
    Routes config (full.addError error) (log.addError error) where
  everything := routes.everything
  configured := routes.configured
  warnings := routes.warnings
  mismatches := by
    simp only [Log.addError, List.filter_append, routes.mismatches]
  promoted := by
    have none : [error].filter CheckError.isPromoted = [] := List.filter_eq_nil_iff.mpr (by
      simp only [List.forall_mem_singleton, isMismatch, Bool.false_eq_true, not_false_eq_true])
    simp only [Log.addError, List.filter_append, routes.promoted, none, List.append_nil]

end Routes

end Log

theorem Analysis.eq_of_fields {left right : Analysis} (types : left.types = right.types)
    (classes : left.classes = right.classes) (program : left.program = right.program)
    (log : left.log = right.log) (point : left.point = right.point) : left = right := by
  cases left
  cases right
  cases types
  cases classes
  cases program
  cases log
  cases point
  rfl

/-- Two states that differ in their logs only, where the second routes what the first records. -/
structure Analysis.Rerouted (config : WarningConfig) (full state : Analysis) : Prop where
  types : state.types = full.types
  classes : state.classes = full.classes
  program : state.program = full.program
  point : state.point = full.point
  log : Log.Routes config full.log state.log

section

variable {config : WarningConfig}

/-- Calls and decorations do not read the log. -/
theorem Analysis.Rerouted.indistinct : Indistinct (Rerouted config) where
  types := Rerouted.types
  program := Rerouted.program
  point := Rerouted.point
  classes := by
    intro full state same id
    rw [same.classes]
    cases full.classes.get? id with
    | none => exact .none
    | some object => exact .some (.refl object)
  typed same types := { same with types := rfl }
  edited same id edit _ := { same with classes := by rw [same.classes] }
  warned same warning := { same with log := same.log.warn warning }
  recorded same _ _ _ _ _ := { same with log := same.log.addError rfl }
  advanced same label :=
    have moved := AnalysisM.stateAfter_advance_congr same.program same.point label
    { same with program := moved.1, point := moved.2 }

/-- The types of bases depend on the classes only. -/
theorem Analysis.baseTypes_congr {left right : Analysis} (same : right.classes = left.classes)
    (bases : List ClassId) : right.baseTypes bases = left.baseTypes bases := by
  induction bases with
  | nil => rfl
  | cons base rest ih => simp only [baseTypes, class?, same, ih]

namespace AnalysisM

open Analysis

theorem onTypes_rerouted {α : Type} (action : TypeM α) :
    RunsAlike (Rerouted config) Eq (onTypes action) (onTypes action) := by
  refine .modifyGet fun full state same => ?_
  rw [same.types]
  exact ⟨rfl, { same with types := rfl }⟩

theorem parameterize_rerouted (name : String) (arguments : List TypeId) :
    RunsAlike (Rerouted config) Eq (parameterize name arguments)
      (parameterize name arguments) := by
  intro full state same
  rw [parameterize, parameterize, same.types]
  cases TypeM.parameterize name arguments full.types with
  | ok id types => exact ⟨rfl, { same with types := rfl }⟩
  | error error types => exact ⟨rfl, { same with types := rfl }⟩

theorem define_rerouted (definition : ClassDefinition) :
    RunsAlike (Rerouted config) Eq (define definition) (define definition) := by
  refine .get_bind fun full state same => ?_
  rw [baseTypes_congr same.classes, same.classes]
  refine (RunsAlike.ofExcept _).bind fun bases _ isBases => ?_
  rw [isBases]
  refine (onTypes_rerouted _).bind fun type _ isType => ?_
  rw [isType]
  refine (RunsAlike.modify fun full state same => ?_).bind fun _ _ _ => .pure rfl
  rw [same.types, same.classes]
  exact { same with types := rfl, classes := rfl }

theorem modifyClass_rerouted (id : ClassId) (edit : ClassObject → ClassObject) :
    RunsAlike (Rerouted config) Eq (modifyClass id edit) (modifyClass id edit) := by
  refine (Rerouted.indistinct.getClass_runsAlike id).bind fun _ _ _ => ?_
  exact .modify fun full state same => { same with classes := by rw [same.classes] }

theorem buildConstructor_rerouted (id : ClassId) (attrs : List Attribute) :
    RunsAlike (Rerouted config) Eq (buildConstructor id attrs) (buildConstructor id attrs) := by
  refine .get_bind fun full state same => ?_
  simp only [constructor?, class?, same.classes, same.point]
  exact .ofExcept _

theorem branch_rerouted (source : PointId) (label : String) :
    RunsAlike (Rerouted config) Eq (branch source label) (branch source label) := by
  refine .modifyGet fun full state same => ?_
  rw [same.program]
  exact ⟨rfl, { same with program := rfl }⟩

end AnalysisM

open SessionM Analysis.Rerouted in
/-- Every request is answered alike, however warnings are routed. -/
theorem Request.perform_rerouted (request : Request) :
    RunsAlike (Session.Alike (Analysis.Rerouted config)) Eq request.perform request.perform := by
  cases request with
  | types action => exact onAnalysis_runsAlike _ (AnalysisM.onTypes_rerouted action)
  | parameterize name arguments =>
    exact onAnalysis_runsAlike _ (AnalysisM.parameterize_rerouted name arguments)
  | define definition => exact onAnalysis_runsAlike _ (AnalysisM.define_rerouted definition)
  | editClass id edit => exact onAnalysis_runsAlike _ (AnalysisM.modifyClass_rerouted id edit)
  | buildConstructor id attrs =>
    exact onAnalysis_runsAlike _ (AnalysisM.buildConstructor_rerouted id attrs)
  | describeField arguments =>
    exact onAnalysis_runsAlike _ (indistinct.describeField_runsAlike arguments)
  | call callee arguments =>
    exact onAnalysis_runsAlike _ (indistinct.call_runsAlike callee arguments)
  | instantiate type => exact onAnalysis_runsAlike _ (indistinct.instantiate_runsAlike type)
  | advance label => exact onAnalysis_runsAlike _ (indistinct.advance_runsAlike label)
  | branch source label => exact onAnalysis_runsAlike _ (AnalysisM.branch_rerouted source label)
  | badMatches var declared point =>
    exact onAnalysis_runsAlike _ (indistinct.badMatchesAt_runsAlike var declared point)
  | warn warning =>
    exact onAnalysis_runsAlike (fun _ => .done) (indistinct.warn_runsAlike warning)
  | recordMismatch bad name span =>
    exact onAnalysis_runsAlike (fun _ => .done) (indistinct.recordMismatch_runsAlike bad name span)
  | decorate decorator id =>
    exact onDecorator_runsAlike decorator _ (indistinct.decorator_decorate_runsAlike id)
  | apply decorator id =>
    exact onDecorator_runsAlike decorator _ (indistinct.decorator_apply_runsAlike id)
  | callDecorator decorator arguments =>
    exact onDecorator_runsAlike decorator _ (indistinct.decorator_call_runsAlike arguments)

/-- A session gives the answers that it gives when every warning is recorded, and ends in the same
state but for the log. -/
theorem Session.run_rerouted (config : WarningConfig) (requests : List Request) :
    let recorded := run requests (.initial .everything)
    let routed := run requests (.initial config)
    recorded.1 = routed.1 ∧ Alike (Analysis.Rerouted config) recorded.2 routed.2 :=
  run_alike Request.perform_rerouted requests ⟨rfl, rfl, rfl, rfl, rfl, .empty config⟩

/-- The configuration decides where warnings go, and nothing else. For any requests and any two
configurations, the answers are the same, and so is the state of the session but for the log. The
log holds what is recorded when everything is: the mismatches all alike, each warning that is
neither dropped nor promoted as it is, and each that is promoted as an error with its code, wording
and place, always in the order in which they arose. -/
theorem Session.configuration_only_routes (config other : WarningConfig)
    (requests : List Request) :
    let recorded := (run requests (.initial .everything)).2.analysis.log
    let routed := run requests (.initial config)
    let compared := run requests (.initial other)
    routed.1 = compared.1 ∧
      routed.2.decorators = compared.2.decorators ∧
      routed.2.analysis = { compared.2.analysis with log := routed.2.analysis.log } ∧
      routed.2.analysis.log.warnings = recorded.warnings.filter (fun warning =>
        config.isEnabled warning.code && !config.isDenied warning.code) ∧
      routed.2.analysis.log.errors.filter (fun error => !error.isPromoted) =
        recorded.errors.filter (fun error => !error.isPromoted) ∧
      routed.2.analysis.log.errors.filter CheckError.isPromoted =
        (recorded.warnings.filter fun warning =>
          config.isEnabled warning.code && config.isDenied warning.code).map fun warning =>
            .denied warning.code warning.message warning.span := by
  intro recorded routed compared
  obtain ⟨answers, decorators, ends⟩ := run_rerouted config requests
  obtain ⟨otherAnswers, otherDecorators, otherEnds⟩ := run_rerouted other requests
  refine ⟨answers.symm.trans otherAnswers, decorators.symm.trans otherDecorators, ?_,
    ends.log.warnings, ends.log.mismatches, ends.log.promoted⟩
  exact Analysis.eq_of_fields (ends.types.trans otherEnds.types.symm)
    (ends.classes.trans otherEnds.classes.symm) (ends.program.trans otherEnds.program.symm) rfl
    (ends.point.trans otherEnds.point.symm)

end

-- A code that is both dropped and promoted is dropped.
example (warning : Warning) :
    (Session.run [.warn warning] (.initial
      { WarningConfig.strictest with disabled := fun _ => true })).2.analysis.log.isEmpty = true :=
  rfl

end DataclassSynthesis
