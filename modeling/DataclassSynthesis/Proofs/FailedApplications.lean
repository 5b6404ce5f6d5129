import DataclassSynthesis.Proofs.CleanFailures
import DataclassSynthesis.Proofs.DecoratorHistory

/-!
# Steps that fail for want of a class

A decorator object takes note of the options for a class before it looks for the class. So a step
that fails because there is no such class leaves the analysis as it was, but not the decorator
object: the options stay in force for the class that is given this identity later, and an
application has used up the pending ones (`DataclassSynthesis.Session.failed_steps_leave_options`).
Every other failure leaves the whole session as it was.
-/

namespace DataclassSynthesis

namespace Decorator

variable {decorator : Decorator} {id : ClassId} {options : Options}

/-- Setting options changes nothing exactly when they are in force already. -/
theorem setOptions_eq_self_iff :
    decorator.setOptions id options = decorator ↔ decorator.options id = options := by
  constructor
  · intro same
    rw [← same]
    exact if_pos rfl
  · rintro rfl
    obtain ⟨pending, inForce⟩ := decorator
    simp only [setOptions, mk.injEq, true_and]
    funext other
    split
    · next same => rw [same]
    · rfl

/-- Taking the pending options changes nothing exactly when they are the standard ones, and the
class has these already. -/
theorem takePending_eq_self_iff :
    decorator.takePending id = decorator ↔ decorator.pending = {} ∧ decorator.options id = {} := by
  constructor
  · intro same
    have standard : decorator.pending = {} := (congrArg Decorator.pending same).symm
    have inForce : decorator.options id = decorator.pending :=
      (congrFun (congrArg Decorator.options same) id).symm.trans (if_pos rfl)
    exact ⟨standard, inForce.trans standard⟩
  · rintro ⟨standard, inForce⟩
    have same : decorator.setOptions id decorator.pending = decorator :=
      setOptions_eq_self_iff.mpr (inForce.trans standard.symm)
    rw [takePending, same, ← standard]

/-- A class that does not exist is not decorated. -/
theorem decorate_of_missing {state : Analysis} (missing : state.classes.get? id = none)
    (decorator : Decorator) :
    decorate id (decorator, state) = .error (.unknownClass id) (decorator, state) := by
  rw [decorate_eq, Decoration.decorate_of_missing missing]

end Decorator

namespace Session

/-- The session with one of its decorator objects in another state. -/
def withDecorator (session : Session) (index : Nat) (decorator : Decorator) : Session :=
  { session with decorators := Function.update session.decorators index decorator }

/-- Some options stay in force for a class until a step with the decorator object chooses others. -/
def Remembers (session : Session) (index : Nat) (id : ClassId) (options : Options) : Prop :=
  ∀ requests, (∀ step ∈ history index requests session, ¬ step.Concerns id) →
    ((run requests session).2.decorators index).options id = options

variable {session : Session} {index : Nat} {decorator : Decorator}

@[simp] theorem decorators_withDecorator :
    (session.withDecorator index decorator).decorators index = decorator := by
  simp only [withDecorator, Function.update_self]

/-- A session stays the same exactly if the decorator object does. -/
theorem withDecorator_eq_self_iff :
    session.withDecorator index decorator = session ↔ decorator = session.decorators index := by
  constructor
  · intro same
    rw [← same, decorators_withDecorator]
  · rintro rfl
    rw [withDecorator, Function.update_eq_self]

/-- The options in force for a class are remembered until a step concerns the class. -/
theorem remembers_of_inForce {id : ClassId} {options : Options}
    (inForce : (session.decorators index).options id = options) :
    session.Remembers index id options := by
  intro requests others
  rw [decorators_run]
  exact (Decision.foldl_act_of_never (fun decorator => decorator.options id)
    (Decision.options_act id) others _).trans inForce

/-- Bases stay older in a session whose user changes no bases by hand. -/
theorem basesFirst_run {config : WarningConfig} {requests : List Request}
    (keeps : ∀ request ∈ requests, request.KeepsBases) :
    (run requests (.initial config)).2.analysis.classes.BasesFirst := by
  have kept : ∀ request ∈ requests, ∀ session : Session,
      session.analysis.classes.BasesFirst →
        (request.outcome session).2.analysis.classes.BasesFirst :=
    fun request member _ => Request.basesFirst_outcome (keeps request member)
  refine run_induction kept ?_
  intro id object found
  cases found

end Session

namespace Request

variable {session after : Session} {index : Nat} {error : DecorateError}

/-- An application fails because there is no such class, after it has taken the pending options. -/
theorem apply_failed (ordered : session.analysis.classes.BasesFirst) {id : ClassId}
    (failed : (apply index id).perform session = .error error after) :
    session.analysis.classes.get? id = none ∧ error = .unknownClass id ∧
      after = session.withDecorator index ((session.decorators index).takePending id) := by
  cases found : session.analysis.classes.get? id with
  | some object =>
    have succeeds : Succeeds (apply index id).perform session :=
      (SessionM.succeeds_onDecorator index _).mpr
        ((Decorator.succeeds_apply ordered _ id).mpr ⟨object, found⟩)
    exact (not_succeeds_of_error failed succeeds).elim
  | none =>
    rw [perform, SessionM.onDecorator, Decorator.apply_eq,
      Decorator.decorate_of_missing found] at failed
    cases failed
    exact ⟨rfl, rfl, rfl⟩

/-- A call fails because it is refused, without effect, or because there is no such class, after it
has taken note of the options. -/
theorem callDecorator_failed (ordered : session.analysis.classes.BasesFirst)
    {arguments : CallArguments}
    (failed : (callDecorator index arguments).perform session = .error error after) :
    after = session ∨ ∃ id options,
      arguments.decision? session.analysis.types = some (.given id options) ∧
      session.analysis.classes.get? id = none ∧ error = .unknownClass id ∧
      after = session.withDecorator index ((session.decorators index).setOptions id options) := by
  rcases (session.decorators index).call_cases arguments session.analysis with
    ⟨decides, -⟩ | ⟨options, -, called⟩ | ⟨id, options, decides, called⟩
  · obtain ⟨other, refused⟩ := perform_of_refused index decides
    cases refused.symm.trans failed
    exact .inl rfl
  · rw [perform, SessionM.onDecorator, called] at failed
    cases failed
  · right
    cases found : session.analysis.classes.get? id with
    | some object =>
      have succeeds : Succeeds (Decorator.call arguments)
          (session.decorators index, session.analysis) := by
        rw [Succeeds, called]
        exact (succeeds_bind_pure some).mpr
          ((Decorator.succeeds_decorate ordered _ id).mpr ⟨object, found⟩)
      exact (not_succeeds_of_error failed
        ((SessionM.succeeds_onDecorator index _).mpr succeeds)).elim
    | none =>
      rw [perform, SessionM.onDecorator, called,
        bind_of_error (Decorator.decorate_of_missing found _)] at failed
      cases failed
      exact ⟨id, options, decides, found, rfl, rfl⟩

end Request

/-- An application fails exactly for want of the class. The session is as it was but for the
decorator object, which has used up the pending options and keeps them in force for the class that
may be given this identity later. Nothing has changed only if the pending options were the standard
ones and in force already. A call that fails leaves the whole session as it was, unless its target
is the class object of a class that does not exist: then its options stay in force likewise. -/
theorem Session.failed_steps_leave_options {config : WarningConfig} {requests : List Request}
    (keeps : ∀ request ∈ requests, request.KeepsBases) (index : Nat) :
    let session := (run requests (.initial config)).2
    let decorator := session.decorators index
    (∀ id error after, (Request.apply index id).perform session = .error error after →
      session.analysis.classes.get? id = none ∧ error = .unknownClass id ∧
      after = session.withDecorator index (decorator.takePending id) ∧
      (after = session ↔ decorator.pending = {} ∧ decorator.options id = {}) ∧
      after.Remembers index id decorator.pending) ∧
    ∀ arguments error after,
      (Request.callDecorator index arguments).perform session = .error error after →
      after = session ∨ ∃ id options,
        arguments.decision? session.analysis.types = some (.given id options) ∧
        session.analysis.classes.get? id = none ∧ error = .unknownClass id ∧
        after = session.withDecorator index (decorator.setOptions id options) ∧
        (after = session ↔ decorator.options id = options) ∧
        after.Remembers index id options := by
  intro session decorator
  have ordered : session.analysis.classes.BasesFirst := basesFirst_run keeps
  constructor
  · intro id error after failed
    obtain ⟨missing, unknown, rfl⟩ := Request.apply_failed ordered failed
    refine ⟨missing, unknown, rfl, ?_, remembers_of_inForce ?_⟩
    · rw [withDecorator_eq_self_iff]
      exact Decorator.takePending_eq_self_iff
    · rw [decorators_withDecorator]
      exact if_pos rfl
  · intro arguments error after failed
    rcases Request.callDecorator_failed ordered failed with
      unchanged | ⟨id, options, decides, missing, unknown, rfl⟩
    · exact .inl unchanged
    · refine .inr ⟨id, options, decides, missing, unknown, rfl, ?_, remembers_of_inForce ?_⟩
      · rw [withDecorator_eq_self_iff]
        exact Decorator.setOptions_eq_self_iff
      · rw [decorators_withDecorator]
        exact if_pos rfl

namespace Sample

/-- The session after the call `dataclass(init=False)`. -/
def waiting : Session :=
  (Session.run [.callDecorator 0 (withoutConstructor [])] (.initial .standard)).2

/-- The decorator object is applied before the first class statement. The first class is decorated
without a constructor for that, by plain `@dataclass`. -/
theorem waiting_application_leaves_options :
    ∃ after, (Request.apply 0 ⟨0⟩).perform waiting = .error (.unknownClass ⟨0⟩) after ∧
      after ≠ waiting ∧
      ((Session.run [.define base, .decorate 0 ⟨0⟩] after).2.decorators 0).options ⟨0⟩ =
        { init := false } := by
  have keeps : ∀ request ∈ [Request.callDecorator 0 (withoutConstructor [])],
      request.KeepsBases := List.forall_mem_singleton.mpr trivial
  obtain ⟨applications, -⟩ := @Session.failed_steps_leave_options .standard _ keeps 0
  obtain ⟨-, -, -, unchanged, remembers⟩ := applications ⟨0⟩ _ _ rfl
  refine ⟨_, rfl, fun same => ?_, remembers [.define base, .decorate 0 ⟨0⟩] ?_⟩
  · exact absurd (unchanged.mp same).1 (by decide)
  · simp [Session.history, Request.decision?]

/-- An application fails, and the pending options and those of the class are not as they were. The
class that is defined next is decorated without a constructor, but with one if the application had
not been tried. -/
theorem failed_application_changes_options :
    ∃ after, (Request.apply 0 ⟨0⟩).perform waiting = .error (.unknownClass ⟨0⟩) after ∧
      (after.decorators 0).pending ≠ (waiting.decorators 0).pending ∧
      (after.decorators 0).options ⟨0⟩ ≠ (waiting.decorators 0).options ⟨0⟩ ∧
      ∃ without proper,
        (Session.run [.define base, .decorate 0 ⟨0⟩] after).2.analysis.classes.get? ⟨0⟩ =
          some without ∧ without.members.contains constructorName = false ∧
        (Session.run [.define base, .decorate 0 ⟨0⟩] waiting).2.analysis.classes.get? ⟨0⟩ =
          some proper ∧ proper.members.contains constructorName = true := by
  refine ⟨_, rfl, ?_, ?_, _, _, rfl, ?_, rfl, ?_⟩ <;> decide

end Sample

end DataclassSynthesis
