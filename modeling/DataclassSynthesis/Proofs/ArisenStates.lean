import DataclassSynthesis.Proofs.ClassTypes
import DataclassSynthesis.Proofs.ProgramTrail

/-!
# What holds of every state

A user may perform operations with any arguments, put types into the context as they stand, and let
names denote types by hand. Whatever the user does, bases are older than the classes derived from
them, the built-in types come first, and the current point is on its trail.
-/

namespace DataclassSynthesis

/-- The states that a user can bring about, by moves and by letting names denote types by hand. -/
inductive Arises (config : WarningConfig) : Analysis → Prop
  | start : Arises config (Analysis.initial config)
  | move {state after : Analysis} (arises : Arises config state) (move : Move state after) :
      Arises config after
  | register {state : Analysis} (arises : Arises config state) (name : String) (type : TypeId) :
      Arises config { state with types := state.types.register name type }

/-- What the decorations of a state rely on. -/
structure Analysis.Sound (state : Analysis) : Prop where
  basesFirst : state.classes.BasesFirst
  builtins : TypeContext.initial.Grows state.types
  onTrail : state.OnTrail

/-- The two stores of types are in step. -/
theorem Analysis.Sound.inStep {state : Analysis} (sound : state.Sound) : state.types.InStep :=
  sound.builtins.inStep TypeContext.inStep_initial

/-- What holds of every state holds of the initial one. -/
theorem Analysis.sound_initial (config : WarningConfig) : (Analysis.initial config).Sound where
  basesFirst id object found := by cases found
  builtins := .refl TypeContext.initial
  onTrail := .start rfl

/-- Every operation lets the types grow. -/
theorem Operation.grows_run {state : Analysis} (ordered : state.classes.BasesFirst)
    (operation : Operation) : state.types.Grows (operation.run state).types := by
  rcases operation.enlarges_run ordered with ⟨definition, rfl⟩ | enlarges
  · rw [run, AnalysisM.stateAfter_define]
    cases state.baseTypes definition.bases with
    | error error => exact .refl state.types
    | ok bases => exact state.grows_defined definition bases
  · exact enlarges.grows

/-- A run lets the types grow. -/
theorem Reaches.grows {admits : Analysis → Operation → Prop} {state later : Analysis}
    (ordered : state.classes.BasesFirst) (rest : Reaches admits state later) :
    state.types.Grows later.types ∧ later.classes.BasesFirst := by
  induction rest with
  | refl => exact ⟨.refl state.types, ordered⟩
  | step _ operation _ ih =>
    obtain ⟨grows, stillOrdered⟩ := ih
    exact ⟨grows.trans (operation.grows_run stillOrdered), operation.basesFirst_run stillOrdered⟩

/-- Performing operations, whichever are admitted, brings about states that arise. -/
theorem Reaches.arises {admits : Analysis → Operation → Prop} {config : WarningConfig}
    {state : Analysis} (reached : Reaches admits (Analysis.initial config) state) :
    Arises config state := by
  induction reached with
  | refl => exact .start
  | step _ operation _ ih => exact ih.move (.perform _ operation)

/-- Whatever a user does, the bases stay older, the built-in types stay in place, and the current
point stays on the trail. -/
theorem Arises.sound {config : WarningConfig} {state : Analysis} (arises : Arises config state) :
    state.Sound := by
  induction arises with
  | start => exact Analysis.sound_initial config
  | move _ move ih =>
    cases move with
    | perform operation =>
      exact
        { basesFirst := operation.basesFirst_run ih.basesFirst
          builtins := ih.builtins.trans (operation.grows_run ih.basesFirst)
          onTrail := operation.onTrail_run ih.onTrail }
    | intern type => exact { ih with builtins := ih.builtins.trans (TypeM.intern_grows type _) }
  | register _ name type ih =>
    exact { ih with builtins := ih.builtins.trans (TypeContext.grows_register _ name type) }

end DataclassSynthesis
