import DataclassSynthesis.Analysis.Basic
import DataclassSynthesis.Type.Assignability

/-!
# Matching values against declared types

A variable matches a declared type at a program point when every binding that is visible there has
a type assignable to it. A binding is visible where its own point can be reached from.
-/

namespace DataclassSynthesis

/-- A visible binding whose type is not assignable to the declared type. -/
structure BadMatch where
  binding : Binding
  expected : TypeId
  actual : TypeId

/-- The visible bindings that do not match a declared type, in order. -/
def badMatches (program : Program) (declared : TypeId) (point : PointId) :
    List Binding → TypeM (List BadMatch)
  | [] => pure []
  | binding :: rest => do
    if program.isReachable binding.point point then
      let actual ← binding.value.type
      let context ← get
      let later ← badMatches program declared point rest
      if context.isAssignable actual declared then pure later
      else pure (⟨binding, declared, actual⟩ :: later)
    else badMatches program declared point rest

namespace AnalysisM

/-- The bindings of a variable, visible at a point, that do not match a declared type. -/
def badMatchesAt (var : Variable) (declared : TypeId) (point : PointId) :
    AnalysisM (List BadMatch) := do
  let state ← get
  onTypes (badMatches state.program declared point var.bindings)

/-- Record that a default does not have its declared type. -/
def recordMismatch (bad : BadMatch) (name : String) (span : Span) : AnalysisM Unit := do
  let state ← get
  recordError (.mismatch name (state.types.display bad.expected) (state.types.display bad.actual)
    (bad.binding.value.describe state.types) span)

end AnalysisM

end DataclassSynthesis
