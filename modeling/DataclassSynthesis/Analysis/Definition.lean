import DataclassSynthesis.Analysis.Basic

/-!
# Defining classes

A class statement creates a class object and the type of its instances, and lets the class name
denote that type. All bases must exist, and a class without bases derives from `object`.
-/

namespace DataclassSynthesis

/-- The types of the bases of a class, in order. -/
def Analysis.baseTypes (state : Analysis) : List ClassId → Except DecorateError (List TypeId)
  | [] => .ok []
  | base :: rest => do
    let object ← state.class? base
    let types ← state.baseTypes rest
    pure (object.type :: types)

/-- Create the class of a class statement. -/
def AnalysisM.define (definition : ClassDefinition) : AnalysisM ClassId := do
  let state ← get
  let id := state.classes.nextId
  let bases ← AnalysisM.ofExcept (state.baseTypes definition.bases)
  let type ← AnalysisM.onTypes
    (TypeM.nominal id definition.name (if bases.isEmpty then [.object] else bases))
  let object :=
    ClassObject.ofBody id definition.name type definition.bases definition.body definition.span
  modify fun state =>
    { state with
      types := state.types.register definition.name type
      classes := state.classes.push object }
  pure id

end DataclassSynthesis
