import DataclassSynthesis.Proofs.ArisenStates
import DataclassSynthesis.Proofs.MismatchTexts
import DataclassSynthesis.Proofs.ReachedTypes

/-!
# Interning is a stable bijection

In every reached state the identifiers below the number of types correspond to the types one to one,
and a type is built from types with smaller identifiers. Whatever is added later, what the context
says about the identifiers that it had stays the same
(`DataclassSynthesis.Reaches.interning_is_stable`).
-/

namespace DataclassSynthesis

/-- The identifiers with a fixed meaning, and what they mean. -/
def TypeId.wellKnown : List (TypeId × Ty) :=
  [(.int, .scalar .int), (.float, .scalar .float), (.complex, .scalar .complex),
    (.bool, .scalar .bool), (.str, .scalar .str), (.bytes, .scalar .bytes), (.none, .scalar .none),
    (.object, .scalar .object), (.any, .any), (.never, .never)]

namespace TypeContext

/-- Identifiers and types correspond to each other, and types are built from older ones. -/
structure Interned (context : TypeContext) : Prop where
  inverse : ∀ id type, context.get? id = some type ↔ context.lookup type = some id
  dense : ∀ id : TypeId, (∃ type, context.get? id = some type) ↔ id.index < context.size
  wellKnown : ∀ entry ∈ TypeId.wellKnown, context.get? entry.1 = some entry.2
  older : ∀ id type, context.get? id = some type → ∀ component ∈ type.components,
    context.Knows component ∧ component.index < id.index

/-- A later context says the same about what an earlier one holds. -/
structure Retains (earlier later : TypeContext) : Prop where
  get? : ∀ id, earlier.Knows id → later.get? id = earlier.get? id
  lookup : ∀ type id, earlier.lookup type = some id → later.lookup type = some id
  display : ∀ id, earlier.Knows id → later.display id = earlier.display id
  argumentOf? : ∀ id, earlier.Knows id → ∀ qualified,
    later.argumentOf? id qualified = earlier.argumentOf? id qualified
  isAssignable : ∀ source target, earlier.Knows source → earlier.Knows target →
    later.isAssignable source target = earlier.isAssignable source target

namespace WellFormed

variable {context : TypeContext}

/-- In a well-formed context the two stores are inverse to each other, and every type is built from
older ones. -/
theorem interned (formed : context.WellFormed) : context.Interned where
  inverse := formed.inStep
  dense _ := knows_iff.symm
  wellKnown := by
    have builtin : ∀ entry ∈ TypeId.wellKnown, initial.get? entry.1 = some entry.2 := by decide
    exact fun entry member => formed.get?_builtin (builtin entry member)
  older id type found component member :=
    ⟨formed.knows_component found member, formed.ordered id type found component member⟩

/-- A well-formed context is retained however it grows. -/
theorem retains (formed : context.WellFormed) {later : TypeContext} (grows : context.Grows later) :
    context.Retains later where
  get? _ known := grows.get?_eq known
  lookup _ _ found := grows.lookup_eq formed.inStep found
  display _ known := ((formed.grounded known).twins later context).display_eq grows (.refl context)
  argumentOf? _ known qualified := grows.argumentOf?_eq known qualified
  isAssignable _ _ isSource isTarget :=
    ((formed.grounded isSource).twins later context).isAssignable_eq grows (.refl context)
      (formed.grounded isTarget)

end WellFormed

end TypeContext

/-- In every state that is reached by building types from known ones, identifiers and types
correspond to each other, and whatever operations follow, what the context says about the
identifiers and types that it holds stays the same. -/
theorem Reaches.interning_is_stable {config : WarningConfig} {state : Analysis}
    (reached : Reaches Operation.Known (Analysis.initial config) state) :
    state.types.Interned ∧
      ∀ later, Reaches Operation.Any state later → state.types.Retains later.types :=
  ⟨reached.coherent.formed.interned, fun _ rest =>
    reached.coherent.formed.retains (rest.grows reached.basesFirst).1⟩

namespace Sample

/-- A further union leaves `Optional[Base]` as it is. -/
theorem optionalBase_retained :
    optionalBase.types.Interned ∧
      optionalBase.types.Retains (Operation.run optionalBase (.optional ⟨18⟩)).types := by
  obtain ⟨interned, retained⟩ := Reaches.interning_is_stable reaches_optionalBase
  exact ⟨interned, retained _ (.step .refl (.optional ⟨18⟩) trivial)⟩

end Sample

end DataclassSynthesis
