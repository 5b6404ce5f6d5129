import DataclassSynthesis.Proofs.Session
import DataclassSynthesis.Proofs.SideBySide

/-!
# Two sessions side by side

Sessions are related when they have the same decorator objects and related analyses. If each of some
requests gets the same answer in related sessions and leaves them related, then so does the whole
sequence (`DataclassSynthesis.Session.run_alike`).
-/

namespace DataclassSynthesis

section

variable {states : Analysis → Analysis → Prop} {α β : Type} {values : α → β → Prop}

namespace DecoratorM

/-- The same decorator object with related analyses. -/
def Alike (states : Analysis → Analysis → Prop) (left right : Decorator × Analysis) : Prop :=
  left.1 = right.1 ∧ states left.2 right.2

/-- Computations on the analysis run alike beside equal decorator objects. -/
theorem onAnalysis_runsAlike {left : AnalysisM α} {right : AnalysisM β}
    (alike : RunsAlike states values left right) :
    RunsAlike (Alike states) values (onAnalysis left) (onAnalysis right) := by
  rintro ⟨decorator, before⟩ ⟨_, start⟩ ⟨rfl, starts⟩
  have ends := alike before start starts
  simp only [onAnalysis]
  generalize left before = early at ends ⊢
  generalize right start = late at ends ⊢
  cases early <;> cases late
  · exact ⟨ends.1, rfl, ends.2⟩
  · exact ends
  · exact ends
  · exact ⟨ends.1, rfl, ends.2⟩

theorem modifyDecorator_runsAlike (edit : Decorator → Decorator) :
    RunsAlike (Alike states) Eq (modifyDecorator edit) (modifyDecorator edit) := by
  refine .modify ?_
  rintro ⟨decorator, before⟩ ⟨_, start⟩ ⟨rfl, starts⟩
  exact ⟨rfl, starts⟩

end DecoratorM

namespace Analysis.Indistinct

open DecoratorM

variable (indistinct : Indistinct states)

include indistinct

/-- Equal decorator objects decorate a class alike in states that decorations cannot tell apart. -/
theorem decorator_decorate_runsAlike (id : ClassId) :
    RunsAlike (Alike states) Eq (Decorator.decorate id) (Decorator.decorate id) := by
  refine .get_bind ?_
  rintro ⟨decorator, before⟩ ⟨_, start⟩ ⟨rfl, -⟩
  exact onAnalysis_runsAlike (indistinct.decorate_runsAlike (decorator.options id) id)

theorem decorator_apply_runsAlike (id : ClassId) :
    RunsAlike (Alike states) Eq (Decorator.apply id) (Decorator.apply id) :=
  (modifyDecorator_runsAlike _).bind fun _ _ _ => indistinct.decorator_decorate_runsAlike id

theorem decorator_call_runsAlike (arguments : CallArguments) :
    RunsAlike (Alike states) Eq (Decorator.call arguments) (Decorator.call arguments) := by
  refine (onAnalysis_runsAlike (.ofExcept _)).bind fun options _ isOptions => ?_
  rw [isOptions]
  cases arguments.positional.head? with
  | none => exact (modifyDecorator_runsAlike _).bind fun _ _ _ => .pure rfl
  | some target =>
    refine .get_bind ?_
    rintro ⟨decorator, before⟩ ⟨_, start⟩ ⟨rfl, starts⟩
    dsimp only
    rw [indistinct.types starts]
    cases before.types.classOf? target with
    | none => exact .throw _
    | some id =>
      refine (modifyDecorator_runsAlike _).bind fun _ _ _ => ?_
      exact (indistinct.decorator_decorate_runsAlike id).bind fun _ _ same => .pure (by rw [same])

end Analysis.Indistinct

/-- The same decorator objects with related analyses. -/
def Session.Alike (states : Analysis → Analysis → Prop) (left right : Session) : Prop :=
  left.decorators = right.decorators ∧ states left.analysis right.analysis

namespace SessionM

/-- A request to the analysis runs alike if its computation does. -/
theorem onAnalysis_runsAlike (answer : α → Answer) {left right : AnalysisM α}
    (alike : RunsAlike states Eq left right) :
    RunsAlike (Session.Alike states) Eq (onAnalysis answer left) (onAnalysis answer right) := by
  rintro ⟨decorators, before⟩ ⟨_, start⟩ ⟨rfl, starts⟩
  have ends := alike before start starts
  simp only [onAnalysis]
  generalize left before = early at ends ⊢
  generalize right start = late at ends ⊢
  cases early <;> cases late
  · exact ⟨congrArg answer ends.1, rfl, ends.2⟩
  · exact ends
  · exact ends
  · exact ⟨ends.1, rfl, ends.2⟩

/-- A request to a decorator object runs alike if its computation does. -/
theorem onDecorator_runsAlike (index : Nat) (answer : α → Answer) {left right : DecoratorM α}
    (alike : RunsAlike (DecoratorM.Alike states) Eq left right) :
    RunsAlike (Session.Alike states) Eq (onDecorator index answer left)
      (onDecorator index answer right) := by
  rintro ⟨decorators, before⟩ ⟨_, start⟩ ⟨rfl, starts⟩
  have ends := alike (decorators index, before) (decorators index, start) ⟨rfl, starts⟩
  simp only [onDecorator]
  generalize left (decorators index, before) = early at ends ⊢
  generalize right (decorators index, start) = late at ends ⊢
  cases early <;> cases late
  · obtain ⟨same, sameDecorator, analyses⟩ := ends
    exact ⟨congrArg answer same, congrArg (Function.update decorators index) sameDecorator,
      analyses⟩
  · exact ends
  · exact ends
  · obtain ⟨same, sameDecorator, analyses⟩ := ends
    exact ⟨same, congrArg (Function.update decorators index) sameDecorator, analyses⟩

end SessionM

namespace Request

/-- A request that runs alike has the same outcome in related sessions. -/
theorem outcome_alike {request : Request} {sessions : Session → Session → Prop}
    (alike : RunsAlike sessions Eq request.perform request.perform) {left right : Session}
    (starts : sessions left right) :
    (request.outcome left).1 = (request.outcome right).1 ∧
      sessions (request.outcome left).2 (request.outcome right).2 := by
  have ends := alike left right starts
  simp only [outcome]
  generalize request.perform left = early at ends ⊢
  generalize request.perform right = late at ends ⊢
  cases early <;> cases late
  · exact ⟨congrArg Except.ok ends.1, ends.2⟩
  · exact ends.elim
  · exact ends.elim
  · exact ⟨congrArg Except.error ends.1, ends.2⟩

end Request

/-- Related sessions give the same answers to requests that run alike, and stay related. -/
theorem Session.run_alike {sessions : Session → Session → Prop}
    (alike : ∀ request : Request, RunsAlike sessions Eq request.perform request.perform)
    (requests : List Request) {left right : Session} (starts : sessions left right) :
    (run requests left).1 = (run requests right).1 ∧
      sessions (run requests left).2 (run requests right).2 := by
  induction requests generalizing left right with
  | nil => exact ⟨rfl, starts⟩
  | cons request rest ih =>
    obtain ⟨same, related⟩ := Request.outcome_alike (alike request) starts
    obtain ⟨others, ends⟩ := ih related
    exact ⟨by rw [run, run, same, others], ends⟩

end

end DataclassSynthesis
