import DataclassSynthesis.Proofs.ReachedClasses
import DataclassSynthesis.Proofs.Session
import Mathlib.Data.List.Induction

/-!
# The history of a decorator object

Three kinds of steps concern the options of a decorator object: it is called with options only, it
is called with a class, or it is applied to a class. The options that are pending and those in force
for a class are determined by which of these steps came last
(`DataclassSynthesis.Session.options_follow_history`). Requests of every other kind, and calls that
are refused, leave the decorator object as it is.
-/

namespace DataclassSynthesis

/-- A step that concerns the options of a decorator object. -/
inductive Decision where
  /-- Options are kept for the next application. -/
  | kept (options : Options)
  /-- A class is decorated with options of its own. -/
  | given (id : ClassId) (options : Options)
  /-- The pending options are applied to a class. -/
  | applied (id : ClassId)
deriving DecidableEq

namespace Decision

/-- What a step does to the decorator object. -/
def act (decorator : Decorator) : Decision → Decorator
  | kept options => { decorator with pending := options }
  | given id options => decorator.setOptions id options
  | applied id => decorator.takePending id

/-- A step puts options aside, or uses them up. -/
def ConcernsPending : Decision → Prop
  | kept _ | applied _ => True
  | given _ _ => False

/-- A step chooses the options of a class. -/
def Concerns (id : ClassId) : Decision → Prop
  | kept _ => False
  | given other _ | applied other => other = id

/-- A step is the last one of its kind in a history, after the given earlier ones. -/
def IsLatest (concerns : Decision → Prop) (history earlier : List Decision) (step : Decision) :
    Prop :=
  ∃ later, history = earlier ++ step :: later ∧ ∀ other ∈ later, ¬ concerns other

/-- The options that a history leaves for the next application: those kept last, unless they have
been applied since. -/
inductive Pending (history : List Decision) : Options → Prop
  | kept {earlier : List Decision} {options : Options}
    (latest : IsLatest ConcernsPending history earlier (.kept options)) :
    Pending history options
  | applied {earlier : List Decision} {id : ClassId}
    (latest : IsLatest ConcernsPending history earlier (.applied id)) :
    Pending history {}
  | never (none : ∀ step ∈ history, ¬ step.ConcernsPending) : Pending history {}

/-- The options that a history puts in force for a class: those with which it was decorated last, be
it with options of its own or with the pending ones. -/
inductive InForce (history : List Decision) (id : ClassId) : Options → Prop
  | given {earlier : List Decision} {options : Options}
    (latest : IsLatest (Concerns id) history earlier (.given id options)) :
    InForce history id options
  | applied {earlier : List Decision} {options : Options}
    (latest : IsLatest (Concerns id) history earlier (.applied id))
    (pending : Pending earlier options) : InForce history id options
  | never (none : ∀ step ∈ history, ¬ step.Concerns id) : InForce history id {}

/-- The decorator object after a history. -/
def replay (history : List Decision) : Decorator := history.foldl act .fresh

section

variable {concerns : Decision → Prop} {history earlier : List Decision} {step : Decision}
  {id : ClassId} {options : Options}

/-- Either no step is of a kind, or one of them is the last. -/
theorem never_or_latest (concerns : Decision → Prop) (history : List Decision) :
    (∀ step ∈ history, ¬ concerns step) ∨
      ∃ earlier step, IsLatest concerns history earlier step ∧ concerns step := by
  classical
  induction history using List.reverseRecOn with
  | nil => exact .inl fun step listed => nomatch listed
  | append_singleton history last ih =>
    by_cases isLast : concerns last
    · exact .inr ⟨history, last, ⟨[], rfl, fun other listed => nomatch listed⟩, isLast⟩
    · rcases ih with none | ⟨earlier, step, ⟨later, rfl, since⟩, isOne⟩
      · exact .inl (List.forall_mem_append.mpr ⟨none, List.forall_mem_singleton.mpr isLast⟩)
      · refine .inr ⟨earlier, step, ⟨later ++ [last], List.append_assoc .., ?_⟩, isOne⟩
        exact List.forall_mem_append.mpr ⟨since, List.forall_mem_singleton.mpr isLast⟩

/-- What only the steps of a kind change is left as it is by all others. -/
theorem foldl_act_of_never {α : Type} (view : Decorator → α)
    (ignores : ∀ decorator step, ¬ concerns step →
      view (act decorator step) = view decorator)
    (none : ∀ step ∈ history, ¬ concerns step) (decorator : Decorator) :
    view (history.foldl act decorator) = view decorator := by
  induction history generalizing decorator with
  | nil => rfl
  | cons step rest ih =>
    obtain ⟨isOther, others⟩ := List.forall_mem_cons.mp none
    exact (ih others _).trans (ignores decorator step isOther)

/-- What only the steps of a kind change is as the last of them left it. -/
theorem IsLatest.view_replay {α : Type} (latest : IsLatest concerns history earlier step)
    (view : Decorator → α)
    (ignores : ∀ decorator step, ¬ concerns step →
      view (act decorator step) = view decorator) :
    view (replay history) = view (act (replay earlier) step) := by
  obtain ⟨later, rfl, since⟩ := latest
  rw [replay, List.foldl_append, List.foldl_cons]
  exact foldl_act_of_never view ignores since _

/-- Only decisions about the pending options change them. -/
theorem pending_act (decorator : Decorator) (step : Decision) (other : ¬ step.ConcernsPending) :
    (act decorator step).pending = decorator.pending := by
  cases step with
  | kept _ | applied _ => exact (other trivial).elim
  | given _ _ => rfl

theorem options_act (id : ClassId) (decorator : Decorator) (step : Decision)
    (other : ¬ step.Concerns id) :
    (act decorator step).options id = decorator.options id := by
  cases step with
  | kept _ => rfl
  | given _ _ | applied _ => exact if_neg fun same => other same.symm

/-- The pending options that a history tells are those that it leads to. -/
theorem Pending.replay_eq (pending : Pending history options) :
    (replay history).pending = options := by
  cases pending with
  | kept latest => exact latest.view_replay Decorator.pending pending_act
  | applied latest => exact latest.view_replay Decorator.pending pending_act
  | never none => exact foldl_act_of_never Decorator.pending pending_act none .fresh

/-- Every history tells some pending options. -/
theorem exists_pending (history : List Decision) : ∃ options, Pending history options := by
  rcases never_or_latest ConcernsPending history with none | ⟨_, step, latest, isOne⟩
  · exact ⟨_, .never none⟩
  · cases step with
    | kept _ => exact ⟨_, .kept latest⟩
    | given _ _ => exact isOne.elim
    | applied _ => exact ⟨_, .applied latest⟩

/-- The pending options of a decorator object are those that its history leaves. -/
theorem pending_iff : Pending history options ↔ (replay history).pending = options := by
  refine ⟨Pending.replay_eq, ?_⟩
  rintro rfl
  obtain ⟨options, pending⟩ := exists_pending history
  exact pending.replay_eq ▸ pending

/-- The options that a history tells to be in force are those that it leads to. -/
theorem InForce.replay_eq (inForce : InForce history id options) :
    (replay history).options id = options := by
  let view (decorator : Decorator) := decorator.options id
  cases inForce with
  | given latest => exact (latest.view_replay view (options_act id)).trans (if_pos rfl)
  | applied latest pending =>
    rw [← pending.replay_eq]
    exact (latest.view_replay view (options_act id)).trans (if_pos rfl)
  | never none => exact foldl_act_of_never view (options_act id) none .fresh

theorem exists_inForce (history : List Decision) (id : ClassId) :
    ∃ options, InForce history id options := by
  rcases never_or_latest (Concerns id) history with none | ⟨earlier, step, latest, isOne⟩
  · exact ⟨_, .never none⟩
  · cases step with
    | kept _ => exact isOne.elim
    | given other _ =>
      cases isOne
      exact ⟨_, .given latest⟩
    | applied other =>
      cases isOne
      obtain ⟨options, pending⟩ := exists_pending earlier
      exact ⟨_, .applied latest pending⟩

/-- The options in force in a decorator object are those that its history puts in force. -/
theorem inForce_iff : InForce history id options ↔ (replay history).options id = options := by
  refine ⟨InForce.replay_eq, ?_⟩
  rintro rfl
  obtain ⟨options, inForce⟩ := exists_inForce history id
  exact inForce.replay_eq ▸ inForce

end

end Decision

/-- The step that a call of a decorator object is, unless it is refused. -/
def CallArguments.decision? (arguments : CallArguments) (types : TypeContext) : Option Decision :=
  match Options.ofArguments arguments with
  | .error _ => Option.none
  | .ok options =>
    match arguments.positional.head? with
    | Option.none => some (.kept options)
    | some target => (types.classOf? target).map fun id => .given id options

namespace Request

/-- The step that a request is for one of the decorator objects, if any. -/
def decision? (index : Nat) (state : Analysis) : Request → Option Decision
  | apply decorator id => if decorator = index then some (.applied id) else none
  | callDecorator decorator arguments =>
    if decorator = index then arguments.decision? state.types else none
  | types _ | parameterize _ _ | define _ | editClass _ _ | buildConstructor _ _
  | describeField _ | call _ _ | instantiate _ | advance _ | branch _ _ | badMatches _ _ _
  | warn _ | recordMismatch _ _ _ | decorate _ _ => none

end Request

/-- The steps that a sequence of requests takes with one of the decorator objects. -/
def Session.history (index : Nat) : List Request → Session → List Decision
  | [], _ => []
  | request :: rest, session =>
    (request.decision? index session.analysis).toList ++
      history index rest (request.outcome session).2

namespace Decorator

/-- A call is refused without effect, keeps its options, or decorates a class with them. -/
theorem call_cases (decorator : Decorator) (arguments : CallArguments) (state : Analysis) :
    (arguments.decision? state.types = none ∧
      ∃ error, call arguments (decorator, state) = .error error (decorator, state)) ∨
    (∃ options, arguments.decision? state.types = some (.kept options) ∧
      call arguments (decorator, state) = .ok none ({ decorator with pending := options }, state)) ∨
    ∃ id options, arguments.decision? state.types = some (.given id options) ∧
      call arguments (decorator, state) =
        (decorate id >>= fun point => pure (some point))
          (decorator.setOptions id options, state) := by
  rw [call_eq, CallArguments.decision?]
  cases Options.ofArguments arguments with
  | error error => exact .inl ⟨rfl, error, rfl⟩
  | ok options =>
    cases arguments.positional.head? with
    | none => exact .inr (.inl ⟨options, rfl, rfl⟩)
    | some target =>
      dsimp only
      cases state.types.classOf? target with
      | none => exact .inl ⟨rfl, _, rfl⟩
      | some id => exact .inr (.inr ⟨id, options, rfl, rfl⟩)

/-- A call does to the decorator object what it decides. -/
theorem fst_stateAfter_call (decorator : Decorator) (arguments : CallArguments)
    (state : Analysis) :
    (stateAfter (call arguments) (decorator, state)).1 =
      (arguments.decision? state.types).toList.foldl Decision.act decorator := by
  rw [stateAfter]
  rcases decorator.call_cases arguments state with ⟨decides, error, called⟩ |
    ⟨options, decides, called⟩ | ⟨id, options, decides, called⟩
  · rw [decides, called]
    rfl
  · rw [decides, called]
    rfl
  · rw [decides, called]
    change (stateAfter (decorate id >>= fun point => pure (some point))
      (decorator.setOptions id options, state)).1 = _
    rw [stateAfter_bind_pure, stateAfter_decorate]
    rfl

end Decorator

namespace SessionM

variable {α : Type}

theorem decorators_onAnalysis (answer : α → Answer) (action : AnalysisM α) (session : Session) :
    (stateAfter (onAnalysis answer action) session).decorators = session.decorators := by
  simp only [stateAfter, onAnalysis]
  cases action session.analysis <;> rfl

/-- A request to one decorator object leaves the others as they are. -/
theorem decorators_onDecorator (index : Nat) (answer : α → Answer) (action : DecoratorM α)
    (session : Session) :
    (stateAfter (onDecorator index answer action) session).decorators =
      Function.update session.decorators index
        (stateAfter action (session.decorators index, session.analysis)).1 := by
  simp only [stateAfter, onDecorator]
  cases action (session.decorators index, session.analysis) <;> rfl

end SessionM

open SessionM in
/-- A request does to a decorator object what it decides for it. -/
theorem Request.decorators_outcome (index : Nat) (request : Request) (session : Session) :
    (request.outcome session).2.decorators index =
      (request.decision? index session.analysis).toList.foldl Decision.act
        (session.decorators index) := by
  rw [outcome_snd]
  cases request with
  | types _ | parameterize _ _ | define _ | editClass _ _ | buildConstructor _ _
  | describeField _ | call _ _ | instantiate _ | advance _ | branch _ _ | badMatches _ _ _
  | warn _ | recordMismatch _ _ _ =>
    rw [perform, decorators_onAnalysis]
    rfl
  | decorate decorator id =>
    rw [perform, decorators_onDecorator, Decorator.stateAfter_decorate, Function.update_eq_self]
    rfl
  | apply decorator id =>
    rw [perform, decorators_onDecorator, Decorator.stateAfter_apply, decision?]
    by_cases same : decorator = index
    · subst same
      rw [Function.update_self, if_pos rfl]
      rfl
    · rw [Function.update_of_ne (Ne.symm same), if_neg same]
      rfl
  | callDecorator decorator arguments =>
    rw [perform, decorators_onDecorator, Decorator.fst_stateAfter_call, decision?]
    by_cases same : decorator = index
    · subst same
      rw [Function.update_self, if_pos rfl]
    · rw [Function.update_of_ne (Ne.symm same), if_neg same]
      rfl

/-- A session leaves a decorator object in the state in which its history leaves it. -/
theorem Session.decorators_run (index : Nat) (requests : List Request) (session : Session) :
    (run requests session).2.decorators index =
      (history index requests session).foldl Decision.act (session.decorators index) := by
  induction requests generalizing session with
  | nil => rfl
  | cons request rest ih =>
    rw [run, ih, history, List.foldl_append, request.decorators_outcome]

/-- A call that decides nothing is refused, and leaves the session as it is. -/
theorem Request.perform_of_refused (index : Nat) {arguments : CallArguments} {session : Session}
    (refused : arguments.decision? session.analysis.types = none) :
    ∃ error, (callDecorator index arguments).perform session = .error error session := by
  rcases (session.decorators index).call_cases arguments session.analysis with
    ⟨-, error, called⟩ | ⟨options, decides, -⟩ | ⟨id, options, decides, -⟩
  · refine ⟨error, ?_⟩
    rw [perform, SessionM.onDecorator, called]
    dsimp only
    rw [Function.update_eq_self]
  · rw [refused] at decides
    cases decides
  · rw [refused] at decides
    cases decides

/-- The options of a call do not depend on whether it has a target. -/
theorem Options.ofArguments_target (target : Variable) (keywords : NameTable Variable)
    (span : Span) :
    ofArguments ⟨[target], keywords, span⟩ = ofArguments ⟨[], keywords, span⟩ := rfl

/-- Calling a decorator object with a class does to the analysis what calling it with the options
alone and applying it to the class do. -/
theorem Session.analysis_of_target (index : Nat) (session : Session) {target : Variable}
    {keywords : NameTable Variable} {span : Span} {options : Options} {id : ClassId}
    (accepted : Options.ofArguments ⟨[], keywords, span⟩ = .ok options)
    (denotes : session.analysis.types.classOf? target = some id) :
    ((Request.callDecorator index ⟨[target], keywords, span⟩).outcome session).2.analysis =
      (run [.callDecorator index ⟨[], keywords, span⟩, .apply index id] session).2.analysis := by
  have direct : (Operation.callDecorator (session.decorators index)
      ⟨[target], keywords, span⟩).decoration? session.analysis = some (options, id) := by
    rw [Operation.decoration?, Options.ofArguments_target, accepted]
    change Option.map _ (session.analysis.types.classOf? target) = _
    rw [denotes]
    rfl
  have alone : (Operation.callDecorator (session.decorators index)
      ⟨[], keywords, span⟩).decoration? session.analysis = none := by
    rw [Operation.decoration?, accepted]
    rfl
  have decides : (⟨[], keywords, span⟩ : CallArguments).decision? session.analysis.types =
      some (.kept options) := by
    rw [CallArguments.decision?, accepted]
    rfl
  have pending : ((Request.callDecorator index ⟨[], keywords, span⟩).outcome
      session).2.decorators index = { session.decorators index with pending := options } := by
    rw [Request.decorators_outcome, Request.decision?, if_pos rfl, decides]
    rfl
  rw [run, run, run, Request.outcome_snd, Request.outcome_snd, Request.perform, Request.perform,
    SessionM.stateAfter_onDecorator, SessionM.stateAfter_onDecorator, Decorator.stateAfter_call,
    direct, Decorator.stateAfter_apply, pending, Request.outcome_snd, Request.perform,
    SessionM.stateAfter_onDecorator, Decorator.stateAfter_call, alone]

/-- Whatever a session is asked for, the pending options of a decorator object and those in force
for each class are the ones that its history leaves, and a class is decorated with those in force
for it. A request changes the pending options only if it keeps or applies some, and the options of a
class only if it decorates that class with options of its own or with the pending ones. A call that
does neither is refused and changes nothing at all. Calling the object with a class does to the
analysis what calling it with the options alone and applying it to the class do. -/
theorem Session.options_follow_history (config : WarningConfig) (requests : List Request)
    (index : Nat) :
    let session := (run requests (.initial config)).2
    let past := history index requests (.initial config)
    (∀ options, Decision.Pending past options ↔ (session.decorators index).pending = options) ∧
    (∀ id options, Decision.InForce past id options ↔
      (session.decorators index).options id = options) ∧
    (∀ id options, Decision.InForce past id options →
      ((Request.decorate index id).outcome session).2.analysis =
        stateAfter (Decoration.decorate options id) session.analysis) ∧
    (∀ request : Request, (∀ step ∈ request.decision? index session.analysis,
        ¬ step.ConcernsPending) →
      ((request.outcome session).2.decorators index).pending =
        (session.decorators index).pending) ∧
    (∀ (request : Request) id, (∀ step ∈ request.decision? index session.analysis,
        ¬ step.Concerns id) →
      ((request.outcome session).2.decorators index).options id =
        (session.decorators index).options id) ∧
    (∀ arguments : CallArguments, arguments.decision? session.analysis.types = none →
      ∃ error, (Request.callDecorator index arguments).perform session = .error error session) ∧
    ∀ target keywords span options id, Options.ofArguments ⟨[], keywords, span⟩ = .ok options →
      session.analysis.types.classOf? target = some id →
      ((Request.callDecorator index ⟨[target], keywords, span⟩).outcome session).2.analysis =
        (run [.callDecorator index ⟨[], keywords, span⟩, .apply index id] session).2.analysis := by
  intro session past
  have replayed : session.decorators index = Decision.replay past :=
    decorators_run index requests (.initial config)
  have decided : ∀ {holds : Decision → Prop} (request : Request),
      (∀ step ∈ request.decision? index session.analysis, ¬ holds step) →
        ∀ step ∈ (request.decision? index session.analysis).toList, ¬ holds step :=
    fun request others step listed => others step (Option.mem_toList.mp listed)
  refine ⟨fun options => ?_, fun id options => ?_, fun id options inForce => ?_,
    fun request others => ?_, fun request id others => ?_,
    fun arguments => Request.perform_of_refused index,
    fun target keywords span options id => session.analysis_of_target index⟩
  · rw [replayed]
    exact Decision.pending_iff
  · rw [replayed]
    exact Decision.inForce_iff
  · rw [Request.outcome_snd, Request.perform, SessionM.stateAfter_onDecorator,
      Decorator.stateAfter_decorate, replayed, inForce.replay_eq]
  · rw [request.decorators_outcome]
    exact Decision.foldl_act_of_never Decorator.pending Decision.pending_act
      (decided request others) _
  · rw [request.decorators_outcome]
    exact Decision.foldl_act_of_never (fun decorator => decorator.options id)
      (Decision.options_act id) (decided request others) _

namespace Sample

/-- The arguments `(init=False)`, after a class or alone. -/
def withoutConstructor (target : List Variable) : CallArguments :=
  ⟨target, NameTable.ofList [("init", .single (.constant (.bool false)) Program.entry)],
    Span.unknown⟩

/-- The arguments `(slots=True)`, which are refused. -/
def withSlots : CallArguments :=
  ⟨[], NameTable.ofList [("slots", .single (.constant (.bool true)) Program.entry)], Span.unknown⟩

/-- Two class statements, `@dataclass(init=False)` on the second class, and between the call and the
application a refused call and a plain `@dataclass` on the first class. -/
def optionSteps : List Request :=
  [.define base, .define derived, .callDecorator 0 (withoutConstructor []),
    .callDecorator 0 withSlots, .decorate 0 ⟨0⟩, .apply 0 ⟨1⟩]

/-- The second class is the one without a constructor, and no options are pending. -/
theorem options_of_optionSteps :
    let decorator := (Session.run optionSteps (.initial .standard)).2.decorators 0
    decorator.pending = {} ∧ decorator.options ⟨0⟩ = {} ∧
      decorator.options ⟨1⟩ = { init := false } := by
  intro decorator
  obtain ⟨pending, inForce, -⟩ := Session.options_follow_history .standard optionSteps 0
  have past : Session.history 0 optionSteps (.initial .standard) =
      [.kept { init := false }, .applied ⟨1⟩] := by decide
  rw [past] at pending inForce
  have last : ∀ {concerns : Decision → Prop}, Decision.IsLatest concerns
      [.kept { init := false }, .applied ⟨1⟩] [.kept { init := false }] (.applied ⟨1⟩) :=
    ⟨[], rfl, fun _ listed => nomatch listed⟩
  have first : Decision.IsLatest Decision.ConcernsPending [.kept { init := false }] []
      (.kept { init := false }) := ⟨[], rfl, fun _ listed => nomatch listed⟩
  refine ⟨(pending _).mp (.applied last), (inForce _ _).mp (.never ?_),
    (inForce _ _).mp (.applied last (.kept first))⟩
  simp [Decision.Concerns]

end Sample

end DataclassSynthesis
