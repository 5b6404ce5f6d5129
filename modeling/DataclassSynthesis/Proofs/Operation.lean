import DataclassSynthesis.Analysis.Call
import DataclassSynthesis.Analysis.Definition
import DataclassSynthesis.Analysis.Match
import DataclassSynthesis.Dataclass.Decorator
import DataclassSynthesis.Dataclass.Field
import DataclassSynthesis.Proofs.Frame

/-!
# Runs of an analysis

The operations that an analysis offers to its users, and the states that sequences of them reach.
An operation that fails leaves the state in which it failed. Raw interning, hand-written class
types and hand-registered names are not offered: class types come from class statements only. The
operations that a run may perform can be restricted by a condition on each of them.
-/

namespace DataclassSynthesis

/-- An operation on the state of an analysis, with its arguments. Those of the decorator are given
with the decorator object on which they are called, which may be any. -/
inductive Operation where
  /-- Apply a container to arguments, as in `list[element]` or `ClassVar[inner]`. -/
  | container (qualified : String) (arguments : List TypeId)
  | parameterize (name : String) (arguments : List TypeId)
  | union (members : List TypeId)
  | optional (type : TypeId)
  | callable (parameters : List TypeId) (result : TypeId) (required : Nat)
  | typeOf (var : Variable)
  | badMatches (var : Variable) (declared : TypeId) (point : PointId)
  | define (definition : ClassDefinition)
  | describeField (arguments : CallArguments)
  | call (callee : Variable) (arguments : CallArguments)
  | instantiate (type : TypeId)
  | advance (label : String)
  | branch (source : PointId) (label : String)
  | warn (warning : Warning)
  | decorate (decorator : Decorator) (id : ClassId)
  | apply (decorator : Decorator) (id : ClassId)
  | callDecorator (decorator : Decorator) (arguments : CallArguments)

namespace Operation

/-- The state after an operation. -/
def run (state : Analysis) : Operation → Analysis
  | container qualified arguments =>
    { state with types := (TypeM.container qualified arguments state.types).2 }
  | parameterize name arguments =>
    { state with types := stateAfter (TypeM.parameterize name arguments) state.types }
  | union members => { state with types := (TypeM.union members state.types).2 }
  | optional type => { state with types := (TypeM.optional type state.types).2 }
  | callable parameters result required =>
    { state with types := (TypeM.callable parameters result required state.types).2 }
  | typeOf var => { state with types := (var.type state.types).2 }
  | badMatches var declared point => stateAfter (AnalysisM.badMatchesAt var declared point) state
  | define definition => stateAfter (AnalysisM.define definition) state
  | describeField arguments => stateAfter (Field.call arguments) state
  | call callee arguments => stateAfter (AnalysisM.call callee arguments) state
  | instantiate type => stateAfter (AnalysisM.instantiate type) state
  | advance label => stateAfter (AnalysisM.advance label) state
  | branch source label => stateAfter (AnalysisM.branch source label) state
  | warn warning => stateAfter (AnalysisM.warn warning) state
  | decorate decorator id => (stateAfter (Decorator.decorate id) (decorator, state)).2
  | apply decorator id => (stateAfter (Decorator.apply id) (decorator, state)).2
  | callDecorator decorator arguments =>
    (stateAfter (Decorator.call arguments) (decorator, state)).2

/-- The decoration that an operation performs, if any: its options and its class. -/
def decoration? (state : Analysis) : Operation → Option (Options × ClassId)
  | decorate decorator id => some (decorator.options id, id)
  | apply decorator id => some (decorator.pending, id)
  | callDecorator _ arguments =>
    match Options.ofArguments arguments with
    | .ok options =>
      (arguments.positional.head?.bind state.types.classOf?).map fun id => (options, id)
    | .error _ => none
  | _ => none

end Operation

/-- What is done to the analysis alone leaves the decorator object as it is. -/
theorem DecoratorM.stateAfter_onAnalysis {α : Type} (action : AnalysisM α) (decorator : Decorator)
    (state : Analysis) :
    stateAfter (onAnalysis action) (decorator, state) = (decorator, stateAfter action state) := by
  simp only [stateAfter, onAnalysis]
  cases action state <;> rfl

/-- A decorator object gives what its decoration of the class gives, and stays as it is. -/
theorem Decorator.decorate_eq (decorator : Decorator) (id : ClassId) (state : Analysis) :
    Decorator.decorate id (decorator, state) =
      match Decoration.decorate (decorator.options id) id state with
      | .ok point after => .ok point (decorator, after)
      | .error error after => .error error (decorator, after) := by
  rw [Decorator.decorate, get_bind]
  simp only [DecoratorM.onAnalysis]
  cases Decoration.decorate (decorator.options id) id state <;> rfl

/-- A decorator object hands its decoration to the analysis. -/
theorem Decorator.stateAfter_decorate (decorator : Decorator) (id : ClassId) (state : Analysis) :
    stateAfter (Decorator.decorate id) (decorator, state) =
      (decorator, stateAfter (Decoration.decorate (decorator.options id) id) state) := by
  rw [Decorator.decorate, stateAfter_get_bind, DecoratorM.stateAfter_onAnalysis]

/-- Applying decorates with the pending options in force for the class. -/
theorem Decorator.apply_eq (decorator : Decorator) (id : ClassId) (state : Analysis) :
    apply id (decorator, state) = decorate id (decorator.takePending id, state) := by
  have taken : DecoratorM.modifyDecorator (fun decorator => decorator.takePending id)
      (decorator, state) = .ok () (decorator.takePending id, state) := rfl
  rw [apply, bind_of_ok taken]

/-- A call is refused, keeps its options, or decorates the class of its target. -/
theorem Decorator.call_eq (decorator : Decorator) (arguments : CallArguments) (state : Analysis) :
    call arguments (decorator, state) =
      match Options.ofArguments arguments with
      | .error error => .error error (decorator, state)
      | .ok options =>
        match arguments.positional.head? with
        | none => .ok none ({ decorator with pending := options }, state)
        | some target =>
          match state.types.classOf? target with
          | none =>
            .error (.notCallable s!"dataclass({target.describe state.types})" arguments.span)
              (decorator, state)
          | some id =>
            (decorate id >>= fun point => pure (some point)) (decorator.setOptions id options,
              state) := by
  unfold call
  cases Options.ofArguments arguments with
  | error error => rfl
  | ok options =>
    cases arguments.positional.head? with
    | none => rfl
    | some target =>
      have accepted : DecoratorM.onAnalysis (AnalysisM.ofExcept (.ok options)) (decorator, state) =
          .ok options (decorator, state) := rfl
      rw [bind_of_ok accepted]
      dsimp only
      rw [get_bind]
      dsimp only
      cases state.types.classOf? target <;> rfl

/-- Applying decorates with the pending options. -/
theorem Decorator.stateAfter_apply (decorator : Decorator) (id : ClassId) (state : Analysis) :
    stateAfter (Decorator.apply id) (decorator, state) =
      (decorator.takePending id, stateAfter (Decoration.decorate decorator.pending id) state) := by
  rw [stateAfter, apply_eq]
  change stateAfter (decorate id) (decorator.takePending id, state) = _
  rw [stateAfter_decorate]
  simp only [takePending, setOptions, ↓reduceIte]

/-- A call of the decorator with a class decorates the class with the options of the call. Every
other call leaves the analysis alone. -/
theorem Decorator.stateAfter_call (decorator : Decorator) (arguments : CallArguments)
    (state : Analysis) :
    (stateAfter (Decorator.call arguments) (decorator, state)).2 =
      match (Operation.callDecorator decorator arguments).decoration? state with
      | some (options, id) => stateAfter (Decoration.decorate options id) state
      | none => state := by
  rw [stateAfter, call_eq, Operation.decoration?]
  cases Options.ofArguments arguments with
  | error error => rfl
  | ok options =>
    cases arguments.positional.head? with
    | none => rfl
    | some target =>
      dsimp only [Option.bind_some]
      cases state.types.classOf? target with
      | none => rfl
      | some id =>
        change (stateAfter (decorate id >>= fun point => pure (some point))
          (decorator.setOptions id options, state)).2 = _
        rw [stateAfter_bind_pure, stateAfter_decorate]
        simp only [setOptions, ↓reduceIte, Option.map_some]

namespace Operation

/-- Only class statements and decorations concern the classes. -/
theorem run_cases (state : Analysis) (operation : Operation) :
    (∃ definition, operation = .define definition) ∨
      (∃ options id, operation.decoration? state = some (options, id) ∧
        operation.run state = stateAfter (Decoration.decorate options id) state) ∨
      (operation.run state).classes = state.classes := by
  cases operation with
  | define definition => exact .inl ⟨definition, rfl⟩
  | decorate decorator id =>
    exact .inr (.inl ⟨_, _, rfl, congrArg Prod.snd (decorator.stateAfter_decorate id state)⟩)
  | apply decorator id =>
    exact .inr (.inl ⟨_, _, rfl, congrArg Prod.snd (decorator.stateAfter_apply id state)⟩)
  | callDecorator decorator arguments =>
    have called := decorator.stateAfter_call arguments state
    cases decorates : (callDecorator decorator arguments).decoration? state with
    | some decoration =>
      rw [decorates] at called
      exact .inr (.inl ⟨decoration.1, decoration.2, rfl, called⟩)
    | none =>
      rw [decorates] at called
      exact .inr (.inr (congrArg Analysis.classes called))
  | describeField arguments => exact .inr (.inr (Field.definesNothing_call arguments state).2)
  | call callee arguments =>
    exact .inr (.inr (AnalysisM.definesNothing_call callee arguments state).2)
  | container _ _ | parameterize _ _ | union _ | optional _ | callable _ _ _ | typeOf _
  | badMatches _ _ _ | instantiate _ | advance _ | branch _ _ | warn _ => exact .inr (.inr rfl)

end Operation

/-- The states that are reached from a state by performing admitted operations. -/
inductive Reaches (admits : Analysis → Operation → Prop) (start : Analysis) : Analysis → Prop
  | refl : Reaches admits start start
  | step {state : Analysis} (reached : Reaches admits start state) (operation : Operation)
      (admitted : admits state operation) : Reaches admits start (operation.run state)

/-- A run may perform any operation, whatever its arguments. -/
def Operation.Any (_ : Analysis) (_ : Operation) : Prop := True

/-- A run from a reached state is the end of a run. -/
theorem Reaches.trans {admits : Analysis → Operation → Prop} {first second third : Analysis}
    (start : Reaches admits first second) (rest : Reaches admits second third) :
    Reaches admits first third := by
  induction rest with
  | refl => exact start
  | step _ operation admitted ih => exact ih.step operation admitted

end DataclassSynthesis
