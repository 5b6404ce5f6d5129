import DataclassSynthesis.Dataclass.Decoration
import DataclassSynthesis.Dataclass.Field

/-!
# Operations that define nothing

Calls, field descriptions, reports and moves to new program points change neither the types nor
the classes of an analysis, whether they succeed or fail. An edit of a class fails when the class
does not exist (`DataclassSynthesis.AnalysisM.modifyClass_of_missing`), and changes that class alone
when it does.
-/

namespace DataclassSynthesis

/-- The state that an operation leaves behind, whether it succeeds or fails. -/
def stateAfter {ε σ α : Type} (action : EStateM ε σ α) (state : σ) : σ :=
  match action state with
  | .ok _ after => after
  | .error _ after => after

section

variable {ε σ α β : Type} {action : EStateM ε σ α} {next : α → EStateM ε σ β} {state middle : σ}

/-- A computation goes on from where its first part succeeded. -/
theorem bind_of_ok {value : α} (ran : action state = .ok value middle) :
    (action >>= next) state = next value middle := by
  simp only [Bind.bind, EStateM.bind, ran]

/-- After a failure nothing else runs. -/
theorem bind_of_error {error : ε} (failed : action state = .error error middle) :
    (action >>= next) state = .error error middle := by
  simp only [Bind.bind, EStateM.bind, failed]

/-- A computation that succeeds has succeeded in its first part. -/
theorem exists_of_bind_ok {result : β} {after : σ}
    (ran : (action >>= next) state = .ok result after) :
    ∃ value middle, action state = .ok value middle ∧ next value middle = .ok result after := by
  cases first : action state with
  | ok value middle => exact ⟨value, middle, rfl, by rw [← ran, bind_of_ok first]⟩
  | error error middle =>
    rw [bind_of_error first] at ran
    cases ran

/-- A successful first part hands its state to the rest. -/
theorem stateAfter_bind_of_ok {value : α} (ran : action state = .ok value middle) :
    stateAfter (action >>= next) state = stateAfter (next value) middle := by
  rw [stateAfter, bind_of_ok ran, stateAfter]

theorem stateAfter_bind_of_error {error : ε} (failed : action state = .error error middle) :
    stateAfter (action >>= next) state = middle := by
  rw [stateAfter, bind_of_error failed]

/-- Reading the state first is giving the state to the rest. -/
theorem get_bind (rest : σ → EStateM ε σ β) :
    (get >>= rest : EStateM ε σ β) state = rest state state := rfl

theorem stateAfter_get_bind (rest : σ → EStateM ε σ β) :
    stateAfter (get >>= rest) state = stateAfter (rest state) state := rfl

/-- Turning the result into another one keeps the state. -/
theorem stateAfter_bind_pure (result : α → β) :
    stateAfter (action >>= fun value => pure (result value)) state = stateAfter action state := by
  cases ran : action state with
  | ok value middle => rw [stateAfter_bind_of_ok ran, stateAfter, stateAfter, ran]; rfl
  | error error middle => rw [stateAfter_bind_of_error ran, stateAfter, ran]

theorem stateAfter_of_ok {value : α} (ran : action state = .ok value middle) :
    stateAfter action state = middle := by
  rw [stateAfter, ran]

end

namespace AnalysisM

section

variable {state : Analysis} {id : ClassId} {object : ClassObject}

/-- A class that exists is found. -/
theorem getClass_of_found (found : state.classes.get? id = some object) :
    getClass id state = .ok object state := by
  simp only [getClass, get_bind, Analysis.class?, found]
  rfl

/-- Asking for a class that does not exist fails. -/
theorem getClass_of_missing (missing : state.classes.get? id = none) :
    getClass id state = .error (.unknownClass id) state := by
  simp only [getClass, get_bind, Analysis.class?, missing]
  rfl

/-- A class that exists can be edited. -/
theorem modifyClass_of_found (found : state.classes.get? id = some object)
    (edit : ClassObject → ClassObject) :
    modifyClass id edit state = .ok () { state with classes := state.classes.modify id edit } := by
  rw [modifyClass, bind_of_ok (getClass_of_found found)]
  rfl

/-- Editing a class that does not exist fails and changes nothing. -/
theorem modifyClass_of_missing (missing : state.classes.get? id = none)
    (edit : ClassObject → ClassObject) :
    modifyClass id edit state = .error (.unknownClass id) state := by
  rw [modifyClass, bind_of_error (getClass_of_missing missing)]

/-- What an edit leaves behind. -/
theorem stateAfter_modifyClass (id : ClassId) (edit : ClassObject → ClassObject)
    (state : Analysis) :
    stateAfter (modifyClass id edit) state =
      if (state.classes.get? id).isSome then
        { state with classes := state.classes.modify id edit }
      else state := by
  cases found : state.classes.get? id with
  | none => rw [stateAfter, modifyClass_of_missing found, Option.isSome_none, if_neg (by decide)]
  | some object => rw [stateAfter, modifyClass_of_found found, Option.isSome_some, if_pos rfl]

end

variable {α β : Type}

/-- An operation that changes neither the types nor the classes. -/
def DefinesNothing (action : AnalysisM α) : Prop :=
  ∀ state, (stateAfter action state).types = state.types ∧
    (stateAfter action state).classes = state.classes

theorem definesNothing_pure (value : α) : DefinesNothing (pure value : AnalysisM α) :=
  fun _ => ⟨rfl, rfl⟩

theorem definesNothing_get : DefinesNothing (get : AnalysisM Analysis) := fun _ => ⟨rfl, rfl⟩

theorem definesNothing_throw (error : DecorateError) :
    DefinesNothing (throw error : AnalysisM α) := fun _ => ⟨rfl, rfl⟩

theorem definesNothing_ofExcept (result : Except DecorateError α) :
    DefinesNothing (ofExcept result) := by
  cases result with
  | ok value => exact definesNothing_pure value
  | error error => exact definesNothing_throw error

/-- One operation after the other defines nothing if both do so. -/
theorem DefinesNothing.bind {action : AnalysisM α} {next : α → AnalysisM β}
    (first : DefinesNothing action) (rest : ∀ value, DefinesNothing (next value)) :
    DefinesNothing (action >>= next) := by
  intro state
  have before := first state
  cases ran : action state with
  | ok value middle =>
    have after := rest value middle
    simp only [stateAfter, ran] at before
    rw [stateAfter_bind_of_ok ran]
    exact ⟨after.1.trans before.1, after.2.trans before.2⟩
  | error error middle =>
    simp only [stateAfter, ran] at before
    rw [stateAfter_bind_of_error ran]
    exact before

theorem definesNothing_warn (warning : Warning) : DefinesNothing (warn warning) :=
  fun _ => ⟨rfl, rfl⟩

theorem definesNothing_advance (label : String) : DefinesNothing (advance label) :=
  fun _ => ⟨rfl, rfl⟩

theorem definesNothing_branch (source : PointId) (label : String) :
    DefinesNothing (branch source label) := fun _ => ⟨rfl, rfl⟩

theorem definesNothing_instantiate (type : TypeId) : DefinesNothing (instantiate type) :=
  fun _ => ⟨rfl, rfl⟩

/-- A call creates neither types nor classes. -/
theorem definesNothing_call (callee : Variable) (arguments : CallArguments) :
    DefinesNothing (call callee arguments) :=
  definesNothing_get.bind fun _ => (definesNothing_ofExcept _).bind fun _ =>
    (definesNothing_advance _).bind fun _ => definesNothing_pure _

end AnalysisM

open AnalysisM

/-- Finding the default of a field defines nothing. -/
theorem Field.definesNothing_default? (arguments : CallArguments) :
    DefinesNothing (Field.default? arguments) := by
  unfold Field.default?
  split
  · exact definesNothing_throw _
  · exact definesNothing_pure _
  · exact (definesNothing_call _ _).bind fun _ => definesNothing_pure _
  · exact definesNothing_pure _

/-- Reading the constructor option of a field defines nothing. -/
theorem Field.definesNothing_init (arguments : CallArguments) :
    DefinesNothing (Field.init arguments) := by
  unfold Field.init
  split
  · exact definesNothing_pure _
  · split
    · exact definesNothing_pure _
    · exact (definesNothing_warn _).bind fun _ => definesNothing_pure _

/-- Describing a field defines nothing. -/
theorem Field.definesNothing_call (arguments : CallArguments) :
    DefinesNothing (Field.call arguments) :=
  (definesNothing_ofExcept _).bind fun _ => (definesNothing_default? arguments).bind fun _ =>
    (definesNothing_init arguments).bind fun _ => definesNothing_get.bind fun _ =>
      definesNothing_pure _

/-- Reporting repeated annotations defines nothing. -/
theorem Decoration.definesNothing_reportRepetitions (repetitions : List Body.Repetition) :
    DefinesNothing (Decoration.reportRepetitions repetitions) := by
  induction repetitions with
  | nil => exact definesNothing_pure ()
  | cons repetition rest ih => exact (definesNothing_warn _).bind fun _ => ih

/-- Reporting the order of parameters defines nothing. -/
theorem Decoration.definesNothing_reportOrder (object : ClassObject) (attrs : List Attribute) :
    DefinesNothing (Decoration.reportOrder object attrs) := by
  unfold Decoration.reportOrder
  split
  · exact definesNothing_warn _
  · exact definesNothing_pure ()

end DataclassSynthesis
