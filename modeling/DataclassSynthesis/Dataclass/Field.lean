import DataclassSynthesis.Dataclass.Arguments

/-!
# Field descriptions

Calling `field` describes an attribute: its default or the factory that makes it, and whether the
attribute is a constructor parameter. A factory is called at once to learn what it makes.
-/

namespace DataclassSynthesis

namespace Field

/-- The qualified name of the function. -/
def qualifiedName : String := "dataclasses.field"

/-- The keywords that the function takes. -/
def keywords : List String :=
  ["default", "default_factory", "init", "repr", "hash", "compare", "metadata"]

/-- The default of a field: the one supplied, or what the supplied factory makes. -/
def default? (arguments : CallArguments) : AnalysisM (Option Variable) :=
  match arguments.keyword? "default", arguments.keyword? "default_factory" with
  | some _, some _ => throw (.duplicateKeyword qualifiedName "default" arguments.span)
  | some default, none => pure (some default)
  | none, some factory => do
    let made ← AnalysisM.call factory (CallArguments.none arguments.span)
    pure (some made)
  | none, none => pure none

/-- Whether the attribute is a constructor parameter. It is one unless a literal says otherwise; a
value that is not a literal is reported and ignored. -/
def init (arguments : CallArguments) : AnalysisM Bool :=
  match arguments.keyword? "init" with
  | none => pure true
  | some value =>
    match value.constantBool? with
    | some init => pure init
    | none => do
      AnalysisM.warn (.nonConstantKeyword "init" true arguments.span)
      pure true

/-- The default that an attribute takes. A default that is only ever `None` says nothing about the
values of the attribute, so it counts as unknown. -/
def effectiveDefault (point : PointId) (default : Variable) : Variable :=
  if default.isNoneConstant then .single .unknown point else default

/-- Evaluate a call of `field`. -/
def call (arguments : CallArguments) : AnalysisM Variable := do
  AnalysisM.ofExcept (arguments.check qualifiedName 0 keywords)
  let default ← default? arguments
  let init ← init arguments
  let state ← get
  let effective := default.map (effectiveDefault state.point)
  pure (.single (.field ⟨effective, init, default⟩) state.point)

end Field

end DataclassSynthesis
