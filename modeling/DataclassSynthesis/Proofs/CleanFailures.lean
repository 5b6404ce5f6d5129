import DataclassSynthesis.Proofs.ReachedClasses
import DataclassSynthesis.Proofs.Session

/-!
# Failures without effects

A request that fails leaves the analysis as it was. Most operations decide at the start whether they
fail. A decoration has many places at which it could stop halfway, but none of them is reached: when
the class exists and bases are older than the classes derived from them, it runs to its end
(`DataclassSynthesis.Session.failures_change_nothing`).
-/

namespace DataclassSynthesis

section

variable {ε σ α β : Type} {action : EStateM ε σ α} {next : α → EStateM ε σ β} {state middle : σ}

/-- A computation gives a result. -/
def Succeeds (action : EStateM ε σ α) (state : σ) : Prop :=
  ∃ value after, action state = .ok value after

/-- If a computation fails, it leaves the state as it was. -/
def FailsCleanly (action : EStateM ε σ α) (state : σ) : Prop :=
  ∀ error after, action state = .error error after → after = state

/-- A computation that gives a result has no failure to answer for. -/
theorem Succeeds.failsCleanly (succeeds : Succeeds action state) : FailsCleanly action state := by
  obtain ⟨value, after, ran⟩ := succeeds
  intro error later failed
  rw [ran] at failed
  cases failed

/-- A computation that stops with an error where it stands fails cleanly. -/
theorem failsCleanly_of_error {error : ε} (failed : action state = .error error state) :
    FailsCleanly action state := by
  intro other after alsoFailed
  rw [failed] at alsoFailed
  cases alsoFailed
  rfl

theorem not_succeeds_of_error {error : ε} (failed : action state = .error error middle) :
    ¬ Succeeds action state := by
  rintro ⟨value, after, ran⟩
  rw [failed] at ran
  cases ran

/-- Parts that succeed one after the other succeed together. -/
theorem Succeeds.bind (first : Succeeds action state)
    (rest : ∀ value middle, action state = .ok value middle → Succeeds (next value) middle) :
    Succeeds (action >>= next) state := by
  obtain ⟨value, middle, ran⟩ := first
  obtain ⟨result, after, alsoRan⟩ := rest value middle ran
  exact ⟨result, after, by rw [bind_of_ok ran, alsoRan]⟩

/-- What is done to a result at the end does not matter for success. -/
theorem succeeds_bind_pure (result : α → β) :
    Succeeds (action >>= fun value => pure (result value)) state ↔ Succeeds action state := by
  cases ran : action state with
  | ok value middle => exact iff_of_true ⟨_, _, bind_of_ok ran⟩ ⟨_, _, ran⟩
  | error error middle =>
    exact iff_of_false (not_succeeds_of_error (bind_of_error ran)) (not_succeeds_of_error ran)

/-- Only the first part of a computation may fail, unless it has no effects. -/
theorem FailsCleanly.bind (first : FailsCleanly action state)
    (rest : ∀ value middle, action state = .ok value middle →
      Succeeds (next value) middle ∨ middle = state ∧ FailsCleanly (next value) state) :
    FailsCleanly (action >>= next) state := by
  intro error after failed
  cases ran : action state with
  | ok value middle =>
    rw [bind_of_ok ran] at failed
    rcases rest value middle ran with succeeds | ⟨rfl, clean⟩
    · obtain ⟨result, later, alsoRan⟩ := succeeds
      rw [alsoRan] at failed
      cases failed
    · exact clean error after failed
  | error other middle =>
    rw [bind_of_error ran] at failed
    cases failed
    exact first error after ran

end

namespace AnalysisM

variable {α β : Type} {state : Analysis}

/-- A result that is computed beforehand is handed on, or its error is raised, without an effect. -/
theorem failsCleanly_ofExcept (result : Except DecorateError α) :
    FailsCleanly (ofExcept result) state := by
  cases result with
  | ok value => exact Succeeds.failsCleanly ⟨value, state, rfl⟩
  | error error => exact failsCleanly_of_error rfl

/-- What follows on a computation without effects fails cleanly if it does so by itself. -/
theorem failsCleanly_ofExcept_bind (result : Except DecorateError α) {next : α → AnalysisM β}
    (rest : ∀ value, result = .ok value → FailsCleanly (next value) state) :
    FailsCleanly (ofExcept result >>= next) state := by
  refine (failsCleanly_ofExcept result).bind fun value middle ran => .inr ?_
  cases result with
  | ok found =>
    cases ran
    exact ⟨rfl, rest value rfl⟩
  | error error => cases ran

/-- A call is checked before the arguments have any effect. -/
theorem failsCleanly_call (callee : Variable) (arguments : CallArguments) :
    FailsCleanly (call callee arguments) state :=
  failsCleanly_ofExcept_bind _ fun _ _ => Succeeds.failsCleanly ⟨_, _, rfl⟩

theorem failsCleanly_define (definition : ClassDefinition) :
    FailsCleanly (define definition) state :=
  failsCleanly_ofExcept_bind _ fun _ _ => Succeeds.failsCleanly ⟨_, _, rfl⟩

theorem failsCleanly_modifyClass (id : ClassId) (edit : ClassObject → ClassObject) :
    FailsCleanly (modifyClass id edit) state :=
  failsCleanly_ofExcept_bind _ fun _ _ => Succeeds.failsCleanly ⟨_, _, rfl⟩

theorem failsCleanly_buildConstructor (id : ClassId) (attrs : List Attribute) :
    FailsCleanly (buildConstructor id attrs) state :=
  failsCleanly_ofExcept _

/-- The container and the number of its arguments are checked before a type is added. -/
theorem failsCleanly_parameterize (name : String) (arguments : List TypeId) :
    FailsCleanly (parameterize name arguments) state := by
  unfold FailsCleanly parameterize TypeM.parameterize
  intro error after failed
  cases found : Container.find? name with
  | none =>
    rw [found] at failed
    cases failed
    rfl
  | some container =>
    rw [found] at failed
    dsimp only at failed
    cases fits : container.arity.all (· == arguments.length) with
    | true =>
      rw [fits, if_pos rfl] at failed
      cases failed
    | false =>
      rw [fits, if_neg Bool.false_ne_true] at failed
      cases failed
      rfl

end AnalysisM

namespace Field

open AnalysisM

variable (arguments : CallArguments) (state : Analysis)

theorem failsCleanly_default? : FailsCleanly (default? arguments) state := by
  unfold default?
  split
  · exact failsCleanly_of_error rfl
  · exact Succeeds.failsCleanly ⟨_, _, rfl⟩
  · exact (failsCleanly_call _ _).bind fun _ _ _ => .inl ⟨_, _, rfl⟩
  · exact Succeeds.failsCleanly ⟨_, _, rfl⟩

theorem succeeds_init : Succeeds (init arguments) state := by
  unfold init
  split
  · exact ⟨_, _, rfl⟩
  · split
    · exact ⟨_, _, rfl⟩
    · exact ⟨_, _, rfl⟩

/-- Describing a field fails before its first effect, if it fails. -/
theorem failsCleanly_call : FailsCleanly (call arguments) state := by
  refine failsCleanly_ofExcept_bind _ fun _ _ => ?_
  refine (failsCleanly_default? arguments state).bind fun default middle _ => .inl ?_
  exact (succeeds_init arguments middle).bind fun _ _ _ => ⟨_, _, rfl⟩

end Field

/-- A decoration succeeds exactly for the classes that exist. -/
theorem Decoration.succeeds_decorate {state : Analysis} (ordered : state.classes.BasesFirst)
    (options : Options) (id : ClassId) :
    Succeeds (decorate options id) state ↔ ∃ object, state.classes.get? id = some object := by
  constructor
  · intro succeeds
    cases found : state.classes.get? id with
    | some object => exact ⟨object, rfl⟩
    | none => exact absurd succeeds (not_succeeds_of_error (decorate_of_missing found options))
  · rintro ⟨object, found⟩
    obtain ⟨after, ran, -⟩ := decorate_spec ordered found options
    exact ⟨_, _, ran⟩

/-- A decoration can fail before its first effect only. -/
theorem Decoration.failsCleanly_decorate {state : Analysis} (ordered : state.classes.BasesFirst)
    (options : Options) (id : ClassId) : FailsCleanly (decorate options id) state := by
  cases found : state.classes.get? id with
  | none => exact failsCleanly_of_error (decorate_of_missing found options)
  | some object => exact ((succeeds_decorate ordered options id).mpr ⟨object, found⟩).failsCleanly

/-- A computation with a decorator object leaves the analysis as it was, if it fails. -/
def DecoratorM.SparesAnalysis {α : Type} (action : DecoratorM α) (state : Analysis) : Prop :=
  ∀ decorator error after, action (decorator, state) = .error error after → after.2 = state

namespace Decorator

open DecoratorM

variable {state : Analysis} (ordered : state.classes.BasesFirst)

include ordered

/-- A decorator object decorates exactly the classes that are there. -/
theorem succeeds_decorate (decorator : Decorator) (id : ClassId) :
    Succeeds (decorate id) (decorator, state) ↔ ∃ object, state.classes.get? id = some object := by
  have decorates := decorate_eq decorator id state
  rw [← Decoration.succeeds_decorate ordered (decorator.options id)]
  cases ran : Decoration.decorate (decorator.options id) id state with
  | ok point after =>
    rw [ran] at decorates
    exact iff_of_true ⟨_, _, decorates⟩ ⟨_, _, ran⟩
  | error error after =>
    rw [ran] at decorates
    exact iff_of_false (not_succeeds_of_error decorates) (not_succeeds_of_error ran)

/-- A decoration by a decorator object that fails spares the analysis. -/
theorem sparesAnalysis_decorate (id : ClassId) : SparesAnalysis (decorate id) state := by
  intro decorator error after failed
  rw [decorate_eq] at failed
  cases ran : Decoration.decorate (decorator.options id) id state with
  | ok point later =>
    rw [ran] at failed
    cases failed
  | error other later =>
    rw [ran] at failed
    cases failed
    exact Decoration.failsCleanly_decorate ordered _ id error later ran

theorem succeeds_apply (decorator : Decorator) (id : ClassId) :
    Succeeds (apply id) (decorator, state) ↔ ∃ object, state.classes.get? id = some object := by
  rw [← succeeds_decorate ordered (decorator.takePending id) id, Succeeds, Succeeds, apply_eq]

theorem sparesAnalysis_apply (id : ClassId) : SparesAnalysis (apply id) state := by
  intro decorator error after failed
  rw [apply_eq] at failed
  exact sparesAnalysis_decorate ordered id _ error after failed

/-- A call of the decorator succeeds exactly with valid options and, if it has a target, one that
is an existing class. -/
theorem succeeds_call (decorator : Decorator) (arguments : CallArguments) :
    Succeeds (call arguments) (decorator, state) ↔
      ∃ options, Options.ofArguments arguments = .ok options ∧
        ∀ target ∈ arguments.positional.head?, ∃ id object,
          state.types.classOf? target = some id ∧ state.classes.get? id = some object := by
  have calls := call_eq decorator arguments state
  cases parsed : Options.ofArguments arguments with
  | error error =>
    rw [parsed] at calls
    refine iff_of_false (not_succeeds_of_error calls) ?_
    rintro ⟨options, accepted, -⟩
    cases accepted
  | ok options =>
    rw [parsed] at calls
    cases given : arguments.positional.head? with
    | none =>
      rw [given] at calls
      refine iff_of_true ⟨_, _, calls⟩ ⟨options, rfl, fun target isTarget => ?_⟩
      cases isTarget
    | some target =>
      rw [given] at calls
      dsimp only at calls
      cases denotes : state.types.classOf? target with
      | none =>
        rw [denotes] at calls
        refine iff_of_false (not_succeeds_of_error calls) ?_
        rintro ⟨_, -, existing⟩
        obtain ⟨id, object, same, -⟩ := existing target rfl
        rw [denotes] at same
        cases same
      | some id =>
        rw [denotes] at calls
        have decorates : Succeeds (call arguments) (decorator, state) ↔
            Succeeds (decorate id >>= fun point => pure (some point))
              (decorator.setOptions id options, state) := by
          rw [Succeeds, Succeeds, calls]
        rw [decorates, succeeds_bind_pure, succeeds_decorate ordered]
        constructor
        · rintro ⟨object, found⟩
          refine ⟨options, rfl, fun other isTarget => ⟨id, object, ?_, found⟩⟩
          cases isTarget
          exact denotes
        · rintro ⟨_, -, existing⟩
          obtain ⟨other, object, same, found⟩ := existing target rfl
          rw [denotes] at same
          cases same
          exact ⟨object, found⟩

/-- A call of a decorator object that fails spares the analysis. -/
theorem sparesAnalysis_call (arguments : CallArguments) :
    SparesAnalysis (call arguments) state := by
  intro decorator error after failed
  rw [call_eq] at failed
  split at failed
  · cases failed
    rfl
  · split at failed
    · cases failed
    · split at failed
      · cases failed
        rfl
      · next id _ =>
        cases ran : decorate id (decorator.setOptions id _, state) with
        | ok point later =>
          rw [bind_of_ok ran] at failed
          cases failed
        | error other later =>
          rw [bind_of_error ran] at failed
          cases failed
          exact sparesAnalysis_decorate ordered id _ _ _ ran

end Decorator

namespace SessionM

variable {α : Type} {answer : α → Answer} {session after : Session} {error : DecorateError}

/-- A request that fails cleanly leaves the analysis of its session as it was. -/
theorem analysis_eq_of_onAnalysis {action : AnalysisM α}
    (clean : FailsCleanly action session.analysis)
    (failed : onAnalysis answer action session = .error error after) :
    after.analysis = session.analysis := by
  rw [onAnalysis] at failed
  cases ran : action session.analysis with
  | ok value later =>
    rw [ran] at failed
    cases failed
  | error other later =>
    rw [ran] at failed
    cases failed
    exact clean error later ran

/-- A request to a decorator object that spares the analysis leaves that of its session as it
was. -/
theorem analysis_eq_of_onDecorator {index : Nat} {action : DecoratorM α}
    (spares : action.SparesAnalysis session.analysis)
    (failed : onDecorator index answer action session = .error error after) :
    after.analysis = session.analysis := by
  rw [onDecorator] at failed
  cases ran : action (session.decorators index, session.analysis) with
  | ok value later =>
    rw [ran] at failed
    cases failed
  | error other later =>
    rw [ran] at failed
    cases failed
    exact spares _ error later ran

/-- A request to a decorator object succeeds where the object itself does. -/
theorem succeeds_onDecorator (index : Nat) (action : DecoratorM α) :
    Succeeds (onDecorator index answer action) session ↔
      Succeeds action (session.decorators index, session.analysis) := by
  cases ran : action (session.decorators index, session.analysis) with
  | ok value later =>
    exact iff_of_true ⟨_, _, by rw [onDecorator, ran]⟩ ⟨_, _, ran⟩
  | error other later =>
    have failed : onDecorator index answer action session =
        .error other ⟨Function.update session.decorators index later.1, later.2⟩ := by
      rw [onDecorator, ran]
    exact iff_of_false (not_succeeds_of_error failed) (not_succeeds_of_error ran)

end SessionM

namespace Request

/-- A request that edits no class by hand, or keeps its bases. -/
def KeepsBases : Request → Prop
  | editClass _ edit => ∀ object, (edit object).bases = object.bases
  | _ => True

open AnalysisM SessionM in
/-- Bases stay older under every request that keeps them. -/
theorem basesFirst_outcome {request : Request} (keeps : request.KeepsBases) {session : Session}
    (ordered : session.analysis.classes.BasesFirst) :
    (request.outcome session).2.analysis.classes.BasesFirst := by
  rw [outcome_snd]
  cases request with
  | types action => exact ordered
  | parameterize name arguments =>
    rw [perform, stateAfter_onAnalysis, stateAfter_parameterize]
    exact Operation.basesFirst_run ordered (.parameterize name arguments)
  | define definition =>
    rw [perform, stateAfter_onAnalysis]
    exact Operation.basesFirst_run ordered (.define definition)
  | editClass id edit =>
    rw [perform, stateAfter_onAnalysis, stateAfter_modifyClass]
    split
    · exact ordered.modify id keeps
    · exact ordered
  | buildConstructor id attrs =>
    rw [perform, stateAfter_onAnalysis, stateAfter_buildConstructor]
    exact ordered
  | describeField arguments =>
    rw [perform, stateAfter_onAnalysis]
    exact Operation.basesFirst_run ordered (.describeField arguments)
  | call callee arguments =>
    rw [perform, stateAfter_onAnalysis]
    exact Operation.basesFirst_run ordered (.call callee arguments)
  | instantiate type => exact ordered
  | advance label => exact ordered
  | branch source label => exact ordered
  | badMatches var declared point => exact ordered
  | warn warning => exact ordered
  | recordMismatch bad name span => exact ordered
  | decorate decorator id =>
    rw [perform, stateAfter_onDecorator]
    exact Operation.basesFirst_run ordered (.decorate _ id)
  | apply decorator id =>
    rw [perform, stateAfter_onDecorator]
    exact Operation.basesFirst_run ordered (.apply _ id)
  | callDecorator decorator arguments =>
    rw [perform, stateAfter_onDecorator]
    exact Operation.basesFirst_run ordered (.callDecorator _ arguments)

open AnalysisM SessionM Decorator in
/-- A request that fails leaves the analysis as it was. -/
theorem analysis_eq_of_failed {session after : Session}
    (ordered : session.analysis.classes.BasesFirst) {request : Request} {error : DecorateError}
    (failed : request.perform session = .error error after) :
    after.analysis = session.analysis := by
  cases request with
  | types action => cases failed
  | parameterize name arguments =>
    exact analysis_eq_of_onAnalysis (failsCleanly_parameterize name arguments) failed
  | define definition => exact analysis_eq_of_onAnalysis (failsCleanly_define definition) failed
  | editClass id edit => exact analysis_eq_of_onAnalysis (failsCleanly_modifyClass id edit) failed
  | buildConstructor id attrs =>
    exact analysis_eq_of_onAnalysis (failsCleanly_buildConstructor id attrs) failed
  | describeField arguments =>
    exact analysis_eq_of_onAnalysis (Field.failsCleanly_call arguments _) failed
  | call callee arguments =>
    exact analysis_eq_of_onAnalysis (failsCleanly_call callee arguments) failed
  | instantiate type => cases failed
  | advance label => cases failed
  | branch source label => cases failed
  | badMatches var declared point => cases failed
  | warn warning => cases failed
  | recordMismatch bad name span => cases failed
  | decorate decorator id =>
    exact analysis_eq_of_onDecorator (sparesAnalysis_decorate ordered id) failed
  | apply decorator id =>
    exact analysis_eq_of_onDecorator (sparesAnalysis_apply ordered id) failed
  | callDecorator decorator arguments =>
    exact analysis_eq_of_onDecorator (sparesAnalysis_call ordered arguments) failed

end Request

/-- A request that fails leaves types, names, classes, program points, the current point and the log
as they were, in every session whose user has not changed the bases of a class by hand. Whether a
decoration fails is decided before its first effect: it succeeds exactly when the class exists, and
so does a call of the decorator with valid options and a class. -/
theorem Session.failures_change_nothing {config : WarningConfig} {requests : List Request}
    (keeps : ∀ request ∈ requests, request.KeepsBases) :
    let session := (run requests (.initial config)).2
    (∀ request error after, Request.perform request session = .error error after →
      after.analysis = session.analysis) ∧
    (∀ decorator id, Succeeds (Request.decorate decorator id).perform session ↔
      ∃ object, session.analysis.classes.get? id = some object) ∧
    (∀ decorator id, Succeeds (Request.apply decorator id).perform session ↔
      ∃ object, session.analysis.classes.get? id = some object) ∧
    ∀ decorator arguments, Succeeds (Request.callDecorator decorator arguments).perform session ↔
      ∃ options, Options.ofArguments arguments = .ok options ∧
        ∀ target ∈ arguments.positional.head?, ∃ id object,
          session.analysis.types.classOf? target = some id ∧
          session.analysis.classes.get? id = some object := by
  intro session
  have kept : ∀ request ∈ requests, ∀ session : Session,
      session.analysis.classes.BasesFirst →
        (request.outcome session).2.analysis.classes.BasesFirst :=
    fun request member _ => Request.basesFirst_outcome (keeps request member)
  have ordered : session.analysis.classes.BasesFirst := run_induction kept (by
    intro id object found
    cases found)
  refine ⟨fun request error after => Request.analysis_eq_of_failed ordered, ?_, ?_, ?_⟩
  · intro decorator id
    exact (SessionM.succeeds_onDecorator decorator _).trans
      (Decorator.succeeds_decorate ordered _ id)
  · intro decorator id
    exact (SessionM.succeeds_onDecorator decorator _).trans
      (Decorator.succeeds_apply ordered _ id)
  · intro decorator arguments
    exact (SessionM.succeeds_onDecorator decorator _).trans
      (Decorator.succeeds_call ordered _ arguments)

namespace Sample

/-- The statements `class Base: x: int` and `class Derived(Base): y: str`, and `@dataclass` on the
first. -/
def statements : List Request := [.define base, .define derived, .decorate 0 ⟨0⟩]

/-- Neither a decoration nor a base that does not exist leaves a trace, and the derived class can be
decorated. -/
theorem failures_after_statements :
    let session := (Session.run statements (.initial .standard)).2
    (∃ after, (Request.decorate 0 ⟨7⟩).perform session = .error (.unknownClass ⟨7⟩) after ∧
      after.analysis = session.analysis) ∧
    (∃ after, (Request.define (.start "Orphan" [⟨1⟩, ⟨7⟩] none)).perform session =
      .error (.unknownClass ⟨7⟩) after ∧ after.analysis = session.analysis) ∧
    Succeeds (Request.apply 1 ⟨1⟩).perform session := by
  have keeps : ∀ request ∈ statements, request.KeepsBases := by
    simp only [statements, List.forall_mem_cons, Request.KeepsBases, List.not_mem_nil,
      false_implies, implies_true, and_self]
  obtain ⟨unchanged, -, applies, -⟩ :=
    @Session.failures_change_nothing .standard statements keeps
  refine ⟨?_, ?_, ?_⟩
  · exact ⟨_, rfl, unchanged (.decorate 0 ⟨7⟩) _ _ rfl⟩
  · exact ⟨_, rfl, unchanged (.define (.start "Orphan" [⟨1⟩, ⟨7⟩] none)) _ _ rfl⟩
  · exact (applies 1 ⟨1⟩).mpr ⟨_, rfl⟩

end Sample

end DataclassSynthesis
