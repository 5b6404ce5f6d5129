import DataclassSynthesis.Analysis.Basic

/-!
# Calls

The arguments of a call, and what a call produces. Calling a class gives an instance of it and
calling a function an instance of its result type; only the number of arguments is checked.
-/

namespace DataclassSynthesis

/-- The arguments of a call; keyword arguments are in call order. -/
structure CallArguments where
  positional : List Variable
  keywords : NameTable Variable
  span : Span

namespace CallArguments

/-- No arguments, at a given place. -/
def none (span : Span) : CallArguments := ⟨[], NameTable.empty, span⟩

/-- The number of arguments. -/
def count (arguments : CallArguments) : Nat :=
  arguments.positional.length + arguments.keywords.keys.length

/-- The keyword argument with a given name. -/
def keyword? (arguments : CallArguments) (name : String) : Option Variable :=
  arguments.keywords.find? name

end CallArguments

/-- Whether a number of arguments fits a signature. -/
def Signature.accepts (signature : Signature) (count : Nat) : Bool :=
  decide (signature.requiredCount ≤ count ∧ count ≤ signature.parameters.length)

/-- The value that a call produces, decided by the first value of the callee. -/
def Analysis.callResult (state : Analysis) (callee : Variable) (arguments : CallArguments) :
    Except DecorateError Value :=
  match callee.first? with
  | some (.classObject instances) => .ok (state.instanceValue instances)
  | some (.function function) =>
    if function.signature.accepts arguments.count then
      .ok (state.instanceValue function.signature.result)
    else
      .error (.argumentCount function.name function.signature.requiredCount arguments.count
        arguments.span)
  | some .unknown => .ok .unknown
  | some other => .error (.notCallable (other.describe state.types) arguments.span)
  | none => .error (.notCallable "<empty>" arguments.span)

/-- Call a value, with the result at a new point. -/
def AnalysisM.call (callee : Variable) (arguments : CallArguments) : AnalysisM Variable := do
  let state ← get
  let result ← AnalysisM.ofExcept (state.callResult callee arguments)
  let next ← AnalysisM.advance "call"
  pure (.single result next)

end DataclassSynthesis
