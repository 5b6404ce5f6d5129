import Mathlib.Logic.Function.Basic
import DataclassSynthesis.Analysis.Call
import DataclassSynthesis.Analysis.Definition
import DataclassSynthesis.Dataclass.Decorator
import DataclassSynthesis.Dataclass.Field
import DataclassSynthesis.Proofs.TwoRuns

/-!
# Sessions

A session is an analysis together with the decorator objects that are used on it. Its user makes
one request after the other and sees the answers. A request that fails leaves the state in which it
failed, and the session goes on from there.
-/

namespace DataclassSynthesis

/-- The decorator objects of a session, by number, and the analysis that they are used on. -/
structure Session where
  decorators : Nat → Decorator
  analysis : Analysis

/-- The session that begins with an empty analysis and decorator objects that were never called. -/
def Session.initial (config : WarningConfig) : Session := ⟨fun _ => .fresh, .initial config⟩

/-- What a request that succeeds tells the user. -/
inductive Answer where
  | done
  | type (id : TypeId)
  | class (id : ClassId)
  | point (id : PointId)
  | variable (var : Variable)
  | badMatches (found : List BadMatch)
  /-- The point after a decoration, or nothing when the decorator kept options for later. -/
  | decorated (point : Option PointId)

/-- A computation in a session, which may fail. -/
abbrev SessionM := EStateM DecorateError Session

namespace SessionM

variable {α : Type}

/-- Answer with what a computation on the analysis gives. -/
def onAnalysis (answer : α → Answer) (action : AnalysisM α) : SessionM Answer := fun session =>
  match action session.analysis with
  | .ok value after => .ok (answer value) { session with analysis := after }
  | .error error after => .error error { session with analysis := after }

/-- Answer with what a computation gives that uses one of the decorator objects. -/
def onDecorator (index : Nat) (answer : α → Answer) (action : DecoratorM α) : SessionM Answer :=
  fun session =>
    match action (session.decorators index, session.analysis) with
    | .ok value (decorator, after) =>
      .ok (answer value) ⟨Function.update session.decorators index decorator, after⟩
    | .error error (decorator, after) =>
      .error error ⟨Function.update session.decorators index decorator, after⟩

/-- A computation on the analysis of a session does to it what it does by itself. -/
theorem stateAfter_onAnalysis (answer : α → Answer) (action : AnalysisM α) (session : Session) :
    (stateAfter (onAnalysis answer action) session).analysis =
      stateAfter action session.analysis := by
  simp only [stateAfter, onAnalysis]
  cases action session.analysis <;> rfl

theorem stateAfter_onDecorator (index : Nat) (answer : α → Answer) (action : DecoratorM α)
    (session : Session) :
    (stateAfter (onDecorator index answer action) session).analysis =
      (stateAfter action (session.decorators index, session.analysis)).2 := by
  simp only [stateAfter, onDecorator]
  cases action (session.decorators index, session.analysis) <;> rfl

end SessionM

namespace AnalysisM

/-- Resolve `name[arguments]` among the types of an analysis. -/
def parameterize (name : String) (arguments : List TypeId) : AnalysisM TypeId := fun state =>
  match TypeM.parameterize name arguments state.types with
  | .ok id types => .ok id { state with types := types }
  | .error error types => .error (.type error) { state with types := types }

/-- Build a constructor without adding it to its class. -/
def buildConstructor (id : ClassId) (attrs : List Attribute) : AnalysisM Variable := do
  let state ← get
  ofExcept (state.constructor? id attrs)

/-- Resolving `name[arguments]` concerns the types only. -/
theorem stateAfter_parameterize (name : String) (arguments : List TypeId) (state : Analysis) :
    stateAfter (parameterize name arguments) state =
      { state with types := stateAfter (TypeM.parameterize name arguments) state.types } := by
  simp only [stateAfter, parameterize]
  cases TypeM.parameterize name arguments state.types <;> rfl

theorem stateAfter_buildConstructor (id : ClassId) (attrs : List Attribute) (state : Analysis) :
    stateAfter (buildConstructor id attrs) state = state := by
  rw [buildConstructor, stateAfter_get_bind]
  cases state.constructor? id attrs <;> rfl

end AnalysisM

/-- What the user of a session can ask for. Decorator objects are given by number. -/
inductive Request where
  /-- Compute with the type context: build a type, intern or register one, find that of a value. -/
  | types (action : TypeM TypeId)
  | parameterize (name : String) (arguments : List TypeId)
  | define (definition : ClassDefinition)
  | editClass (id : ClassId) (edit : ClassObject → ClassObject)
  | buildConstructor (id : ClassId) (attrs : List Attribute)
  | describeField (arguments : CallArguments)
  | call (callee : Variable) (arguments : CallArguments)
  | instantiate (type : TypeId)
  | advance (label : String)
  | branch (source : PointId) (label : String)
  | badMatches (var : Variable) (declared : TypeId) (point : PointId)
  | warn (warning : Warning)
  | recordMismatch (bad : BadMatch) (name : String) (span : Span)
  | decorate (decorator : Nat) (id : ClassId)
  | apply (decorator : Nat) (id : ClassId)
  | callDecorator (decorator : Nat) (arguments : CallArguments)

namespace Request

open SessionM

/-- Fulfil a request. -/
def perform : Request → SessionM Answer
  | types action => onAnalysis .type (AnalysisM.onTypes action)
  | parameterize name arguments => onAnalysis .type (AnalysisM.parameterize name arguments)
  | define definition => onAnalysis .class (AnalysisM.define definition)
  | editClass id edit => onAnalysis (fun _ => .done) (AnalysisM.modifyClass id edit)
  | buildConstructor id attrs => onAnalysis .variable (AnalysisM.buildConstructor id attrs)
  | describeField arguments => onAnalysis .variable (Field.call arguments)
  | call callee arguments => onAnalysis .variable (AnalysisM.call callee arguments)
  | instantiate type => onAnalysis .variable (AnalysisM.instantiate type)
  | advance label => onAnalysis .point (AnalysisM.advance label)
  | branch source label => onAnalysis .point (AnalysisM.branch source label)
  | badMatches var declared point =>
    onAnalysis .badMatches (AnalysisM.badMatchesAt var declared point)
  | warn warning => onAnalysis (fun _ => .done) (AnalysisM.warn warning)
  | recordMismatch bad name span =>
    onAnalysis (fun _ => .done) (AnalysisM.recordMismatch bad name span)
  | decorate decorator id => onDecorator decorator (.decorated ∘ some) (Decorator.decorate id)
  | apply decorator id => onDecorator decorator (.decorated ∘ some) (Decorator.apply id)
  | callDecorator decorator arguments =>
    onDecorator decorator .decorated (Decorator.call arguments)

/-- The answer to a request or the error, and the session afterwards. -/
def outcome (request : Request) (session : Session) : Except DecorateError Answer × Session :=
  match request.perform session with
  | .ok answer after => (.ok answer, after)
  | .error error after => (.error error, after)

theorem outcome_snd (request : Request) (session : Session) :
    (request.outcome session).2 = stateAfter request.perform session := by
  simp only [outcome, stateAfter]
  cases request.perform session <;> rfl

end Request

/-- The outcomes of a sequence of requests, and the session after the last of them. -/
def Session.run : List Request → Session → List (Except DecorateError Answer) × Session
  | [], session => ([], session)
  | request :: rest, session =>
    let first := request.outcome session
    let others := run rest first.2
    (first.1 :: others.1, others.2)

/-- What every request keeps holds after all of them. -/
theorem Session.run_induction {holds : Session → Prop} {requests : List Request}
    (keeps : ∀ request ∈ requests, ∀ session, holds session → holds (request.outcome session).2)
    {session : Session} (starts : holds session) : holds (run requests session).2 := by
  induction requests generalizing session with
  | nil => exact starts
  | cons request rest ih =>
    obtain ⟨kept, others⟩ := List.forall_mem_cons.mp keeps
    exact ih others (kept session starts)

end DataclassSynthesis
