import DataclassSynthesis.Proofs.ReachedClasses
import DataclassSynthesis.Proofs.SideBySide

/-!
# Elementary changes

Every operation is a sequence of elementary changes: it writes types, classes or the log, adds a
side branch, or moves on (`DataclassSynthesis.Operation.passes_run`). So what each elementary change
keeps is kept by every operation, and the points at which the analysis stands on the way can be
listed.
-/

namespace DataclassSynthesis

/-- What an operation can do to a state at once. Only moving on changes the current point. -/
inductive Change : Analysis → Analysis → Prop
  | types (state : Analysis) (types : TypeContext) : Change state { state with types := types }
  | classes (state : Analysis) (classes : ClassTable) :
    Change state { state with classes := classes }
  | log (state : Analysis) (log : Log) : Change state { state with log := log }
  | branch (state : Analysis) (source : PointId) (label : String) :
    Change state (stateAfter (AnalysisM.branch source label) state)
  | advance (state : Analysis) (label : String) :
    Change state (stateAfter (AnalysisM.advance label) state)

/-- Elementary changes lead from a state to another one. The list holds the point that is current
after each of them, the last one first. -/
inductive Passes (start : Analysis) : List PointId → Analysis → Prop
  | refl : Passes start [] start
  | step {points : List PointId} {state after : Analysis} (earlier : Passes start points state)
      (change : Change state after) : Passes start (after.point :: points) after

namespace Passes

variable {first second third : Analysis} {points more : List PointId}

/-- Histories follow on each other, with the later points in front. -/
theorem trans (earlier : Passes first points second) (later : Passes second more third) :
    Passes first (more ++ points) third := by
  induction later with
  | refl => exact earlier
  | step _ change ih => exact ih.step change

/-- What every elementary change keeps holds in the end. -/
theorem keeps {holds : Analysis → Prop}
    (kept : ∀ state after, Change state after → holds state → holds after)
    (passes : Passes first points second) (starts : holds first) : holds second := by
  induction passes with
  | refl => exact starts
  | step _ change ih => exact kept _ _ change ih

/-- States that are passed through from one state are like themselves, and what calls and
decorations do is a sequence of elementary changes. -/
theorem indistinct (start : Analysis) : Analysis.Indistinct fun left right : Analysis =>
    left = right ∧ ∃ points, Passes start points left where
  types := by
    rintro left right ⟨rfl, -⟩
    rfl
  program := by
    rintro left right ⟨rfl, -⟩
    rfl
  point := by
    rintro left right ⟨rfl, -⟩
    rfl
  classes := by
    rintro left right ⟨rfl, -⟩ id
    cases left.classes.get? id with
    | none => exact .none
    | some object => exact .some (.refl object)
  typed := by
    rintro left right ⟨rfl, points, passes⟩ types
    exact ⟨rfl, _, passes.step (.types left types)⟩
  edited := by
    rintro left right ⟨rfl, points, passes⟩ id edit -
    exact ⟨rfl, _, passes.step (.classes left _)⟩
  warned := by
    rintro left right ⟨rfl, points, passes⟩ warning
    exact ⟨rfl, _, passes.step (.log left _)⟩
  recorded := by
    rintro left right ⟨rfl, points, passes⟩ name declared assigned value span
    exact ⟨rfl, _, passes.step (.log left _)⟩
  advanced := by
    rintro left right ⟨rfl, points, passes⟩ label
    exact ⟨rfl, _, passes.step (.advance left label)⟩

end Passes

section

variable (state : Analysis)

/-- A call of `field` is a history of elementary changes. -/
theorem Field.passes_call (arguments : CallArguments) :
    ∃ points, Passes state points (stateAfter (Field.call arguments) state) :=
  (((Passes.indistinct state).describeField_runsAlike arguments).stateAfter ⟨rfl, [], .refl⟩).2

theorem AnalysisM.passes_call (callee : Variable) (arguments : CallArguments) :
    ∃ points, Passes state points (stateAfter (AnalysisM.call callee arguments) state) :=
  (((Passes.indistinct state).call_runsAlike callee arguments).stateAfter ⟨rfl, [], .refl⟩).2

/-- A decoration is a history of elementary changes. -/
theorem Decoration.passes_decorate (options : Options) (id : ClassId) :
    ∃ points, Passes state points (stateAfter (Decoration.decorate options id) state) :=
  (((Passes.indistinct state).decorate_runsAlike options id).stateAfter ⟨rfl, [], .refl⟩).2

/-- Every operation is a sequence of elementary changes. -/
theorem Operation.passes_run (operation : Operation) :
    ∃ points, Passes state points (operation.run state) := by
  cases operation with
  | container _ _ | parameterize _ _ | union _ | optional _ | callable _ _ _ | typeOf _
  | badMatches _ _ _ => exact ⟨_, .step .refl (.types state _)⟩
  | warn _ => exact ⟨_, .step .refl (.log state _)⟩
  | define definition =>
    rw [run, AnalysisM.stateAfter_define]
    split
    · next bases _ =>
      have typed := Change.types state (state.defined definition bases).types
      exact ⟨_, .step (.step .refl typed) (.classes _ (state.defined definition bases).classes)⟩
    · exact ⟨_, .refl⟩
  | describeField arguments => exact Field.passes_call state arguments
  | call callee arguments => exact AnalysisM.passes_call state callee arguments
  | instantiate _ => exact ⟨_, .step .refl (.advance state "instantiate")⟩
  | advance label => exact ⟨_, .step .refl (.advance state label)⟩
  | branch source label => exact ⟨_, .step .refl (.branch state source label)⟩
  | decorate decorator id =>
    rw [run, Decorator.stateAfter_decorate]
    exact Decoration.passes_decorate state _ id
  | apply decorator id =>
    rw [run, Decorator.stateAfter_apply]
    exact Decoration.passes_decorate state _ id
  | callDecorator decorator arguments =>
    rw [run, Decorator.stateAfter_call]
    split
    · exact Decoration.passes_decorate state _ _
    · exact ⟨_, .refl⟩

end

end DataclassSynthesis
