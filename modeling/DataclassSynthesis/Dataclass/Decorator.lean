import DataclassSynthesis.Dataclass.Decoration

/-!
# The decorator

A decorator object remembers the options of its last call without a class, until they are applied,
and the options with which it was applied to each class.
-/

namespace DataclassSynthesis

/-- The state of a decorator object. -/
structure Decorator where
  /-- The options of the next application. -/
  pending : Options
  /-- The options in force for each class. -/
  options : ClassId → Options

namespace Decorator

/-- A decorator object that was never called. -/
def fresh : Decorator := ⟨{}, fun _ => {}⟩

/-- Let options be in force for one class. -/
def setOptions (decorator : Decorator) (id : ClassId) (options : Options) : Decorator :=
  { decorator with
    options := fun other => if other = id then options else decorator.options other }

/-- Let the pending options be in force for one class, and use them up. -/
def takePending (decorator : Decorator) (id : ClassId) : Decorator :=
  { decorator.setOptions id decorator.pending with pending := {} }

end Decorator

/-- An operation on a decorator object and the state of an analysis. -/
abbrev DecoratorM := EStateM DecorateError (Decorator × Analysis)

namespace DecoratorM

/-- Run an operation that does not concern the decorator object. -/
def onAnalysis {α : Type} (action : AnalysisM α) : DecoratorM α := fun (decorator, state) =>
  match action state with
  | .ok result state => .ok result (decorator, state)
  | .error error state => .error error (decorator, state)

/-- Edit the decorator object. -/
def modifyDecorator (edit : Decorator → Decorator) : DecoratorM Unit :=
  modify fun (decorator, state) => (edit decorator, state)

end DecoratorM

/-- The class that a variable refers to, when its first value is the class object of a user-defined
class. -/
def TypeContext.classOf? (types : TypeContext) (var : Variable) : Option ClassId :=
  match var.first? with
  | some (.classObject instances) =>
    match types.get? instances with
    | some (.nominal id _ _) => some id
    | _ => none
  | _ => none

namespace Decorator

/-- Decorate a class with the options in force for it. -/
def decorate (id : ClassId) : DecoratorM PointId := do
  let (decorator, _) ← get
  DecoratorM.onAnalysis (Decoration.decorate (decorator.options id) id)

/-- Apply the pending options to a class and decorate it. -/
def apply (id : ClassId) : DecoratorM PointId := do
  DecoratorM.modifyDecorator fun decorator => decorator.takePending id
  decorate id

/-- Call the decorator. Called with a class, it decorates the class; called with options only, it
keeps them for the next application. -/
def call (arguments : CallArguments) : DecoratorM (Option PointId) := do
  let options ← DecoratorM.onAnalysis (AnalysisM.ofExcept (Options.ofArguments arguments))
  match arguments.positional.head? with
  | none => do
    DecoratorM.modifyDecorator fun decorator => { decorator with pending := options }
    pure none
  | some target => do
    let (_, state) ← get
    match state.types.classOf? target with
    | none =>
      let described := target.describe state.types
      throw (.notCallable s!"dataclass({described})" arguments.span)
    | some id => do
      DecoratorM.modifyDecorator fun decorator => decorator.setOptions id options
      let point ← decorate id
      pure (some point)

end Decorator

end DataclassSynthesis
