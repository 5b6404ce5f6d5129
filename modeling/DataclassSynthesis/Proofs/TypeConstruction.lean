import DataclassSynthesis.Proofs.Frame
import DataclassSynthesis.Proofs.UnionLaws

/-!
# Construction of types

Every way of building a type from known identifiers extends a well-formed context, and so does
asking for the types of values that mention known identifiers only
(`DataclassSynthesis.Value.types_extension`).
-/

namespace DataclassSynthesis

open TypeContext

variable {context : TypeContext}

namespace TypeM

/-- A container of known types extends a well-formed context. -/
theorem container_extension (formed : context.WellFormed) (qualified : String)
    {arguments : List TypeId} (known : ∀ argument ∈ arguments, context.Knows argument) :
    context.Extension (container qualified arguments context).2 :=
  .intern_plain formed known nofun nofun

theorem callable_extension (formed : context.WellFormed) {parameters : List TypeId}
    {result : TypeId} (known : ∀ type ∈ result :: parameters, context.Knows type)
    (required : Nat) : context.Extension (callable parameters result required context).2 :=
  .intern_plain formed known nofun nofun

theorem union_extension (formed : context.WellFormed) {members : List TypeId}
    (known : ∀ member ∈ members, context.Knows member) :
    context.Extension (union members context).2 :=
  (formed.union_spec known).1

/-- Resolving an applied name with known arguments extends the context, whether it succeeds or
fails. -/
theorem parameterize_extension (formed : context.WellFormed) (name : String)
    {arguments : List TypeId} (known : ∀ argument ∈ arguments, context.Knows argument) :
    context.Extension (stateAfter (parameterize name arguments) context) := by
  unfold stateAfter parameterize
  cases Container.find? name with
  | none => exact .refl formed
  | some found =>
    by_cases fits : found.arity.all (· == arguments.length) = true
    · simp only [fits, ↓reduceIte]
      exact container_extension formed found.qualified known
    · simp only [fits]
      exact .refl formed

/-- An interned type is known. -/
theorem knows_intern (inStep : context.InStep) (type : Ty) :
    (intern type context).2.Knows (intern type context).1 :=
  knows_of_get? (get?_intern inStep type)

end TypeM

namespace Value

/-- The identifiers that a value mentions in its type. -/
def components : Value → List TypeId
  | instanceOf type => [type]
  | classObject instances => [instances]
  | function callee => callee.signature.result :: callee.signature.parameters.map Parameter.type
  | constant _ | field _ | unknown => []

/-- Asking for the type of a value that mentions known identifiers extends the context and gives a
known type. -/
theorem type_extension (formed : context.WellFormed) {value : Value}
    (known : ∀ component ∈ value.components, context.Knows component) :
    context.Extension (value.type context).2 ∧
      (value.type context).2.Knows (value.type context).1 := by
  cases value with
  | constant literal =>
    have builtin : initial.Knows literal.type := by
      cases literal <;> simp only [Constant.type] <;> decide
    exact ⟨.refl formed, formed.starts.knows builtin⟩
  | instanceOf type => exact ⟨.refl formed, known type List.mem_cons_self⟩
  | classObject instances =>
    exact ⟨TypeM.container_extension formed _ known, TypeM.knows_intern formed.inStep _⟩
  | function callee =>
    exact ⟨TypeM.callable_extension formed known _, TypeM.knows_intern formed.inStep _⟩
  | field _ | unknown =>
    have builtin : initial.Knows .any := by decide
    exact ⟨.refl formed, formed.starts.knows builtin⟩

/-- Asking for the types of values that mention known identifiers extends the context and gives
known types. -/
theorem types_extension (formed : context.WellFormed) {values : List Value}
    (known : ∀ value ∈ values, ∀ component ∈ value.components, context.Knows component) :
    context.Extension (types values context).2 ∧
      ∀ type ∈ (types values context).1, (types values context).2.Knows type := by
  induction values generalizing context with
  | nil => exact ⟨.refl formed, fun type listed => by cases listed⟩
  | cons value rest ih =>
    obtain ⟨isKnown, othersKnown⟩ := List.forall_mem_cons.mp known
    obtain ⟨extension, typeKnown⟩ := type_extension formed isKnown
    obtain ⟨later, laterKnown⟩ := ih extension.formed fun other listed component among =>
      extension.grows.knows (othersKnown other listed component among)
    exact ⟨extension.trans later,
      List.forall_mem_cons.mpr ⟨later.grows.knows typeKnown, laterKnown⟩⟩

end Value

/-- Asking for the type of a variable whose values mention known identifiers extends the
context. -/
theorem Variable.type_extension (formed : context.WellFormed) {var : Variable}
    (known : ∀ value ∈ var.values, ∀ component ∈ value.components, context.Knows component) :
    context.Extension (var.type context).2 := by
  obtain ⟨extension, typesKnown⟩ := Value.types_extension formed known
  exact extension.trans (TypeM.union_extension extension.formed typesKnown)

/-- Matching bindings whose values mention known identifiers extends the context. -/
theorem badMatches_extension (formed : context.WellFormed) (program : Program)
    (declared : TypeId) (point : PointId) {bindings : List Binding}
    (known : ∀ binding ∈ bindings, ∀ component ∈ binding.value.components,
      context.Knows component) :
    context.Extension (badMatches program declared point bindings context).2 := by
  rw [badMatches_types]
  refine (Value.types_extension formed fun value visible => ?_).1
  obtain ⟨binding, listed, rfl⟩ := List.mem_map.mp visible
  exact known binding (List.mem_filter.mp listed).1

end DataclassSynthesis
