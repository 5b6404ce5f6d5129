import DataclassSynthesis.Analysis.Match
import DataclassSynthesis.Proofs.TwinTypes
import DataclassSynthesis.Proofs.TypeConstruction

/-!
# Mismatches in two contexts

Matching bindings against a declared type asks for the types of their values, which may add types to
the context. Two contexts that grew from one may give these types different identifiers, but the
mismatches that are found read the same (`DataclassSynthesis.badMatches_map_error_eq`).
-/

namespace DataclassSynthesis

open TypeContext

variable {base left right : TypeContext}

namespace TypeContext

/-- The built-in types are grounded. -/
theorem grounded_of_builtin (builtins : initial.Grows base) {id : TypeId}
    (known : initial.Knows id) : base.Grounded id :=
  (wellFormed_initial.grounded known).grows builtins

/-- A type that is present keeps its place. -/
theorem Grows.lookup_eq (grows : base.Grows left) (inStep : base.InStep) {type : Ty} {id : TypeId}
    (found : base.lookup type = some id) : left.lookup type = some id :=
  (grows.inStep inStep id type).mp (grows.get? ((inStep id type).mpr found))

end TypeContext

/-- Interning a type over grounded identifiers in two contexts gives twins. -/
theorem TypeM.intern_twins (growsLeft : base.Grows left) (growsRight : base.Grows right)
    (inStep : base.InStep) {type : Ty}
    (components : ∀ component ∈ type.components, base.Grounded component) :
    base.Twins (intern type left).2 (intern type right).2 base.size (intern type left).1
      (intern type right).1 := by
  have shallow : ∀ component ∈ type.components, base.EndsWithin base.size component :=
    fun component member => (components component member).endsWithin_size
  cases present : base.lookup type with
  | some id =>
    have inLeft : intern type left = (id, left) := by
      simp only [intern, growsLeft.lookup_eq inStep present]
    have inRight : intern type right = (id, right) := by
      simp only [intern, growsRight.lookup_eq inStep present]
    rw [inLeft, inRight]
    exact .same ⟨type, (inStep id type).mpr present, shallow⟩
  | none =>
    have new : ∀ context : TypeContext, base.Grows context →
        ¬ base.Knows (intern type context).1 := by
      intro context grows known
      have here := (grows.trans (intern_grows type context)).get?_eq known
      rw [get?_intern (grows.inStep inStep)] at here
      exact inStep.get?_ne present _ here.symm
    exact .added (new left growsLeft) (new right growsRight)
      (get?_intern (growsLeft.inStep inStep) type) (get?_intern (growsRight.inStep inStep) type)
      shallow

namespace Value

/-- A value over grounded identifiers has twins for types in two contexts. -/
theorem type_twins (growsLeft : base.Grows left) (growsRight : base.Grows right)
    (builtins : initial.Grows base) {value : Value}
    (components : ∀ component ∈ value.components, base.Grounded component) :
    base.Twins (value.type left).2 (value.type right).2 base.size (value.type left).1
      (value.type right).1 := by
  cases value with
  | constant literal =>
    have builtin : initial.Knows literal.type := by
      cases literal <;> simp only [Constant.type] <;> decide
    exact (grounded_of_builtin builtins builtin).twins left right
  | instanceOf type => exact (components type List.mem_cons_self).twins left right
  | classObject instances =>
    exact TypeM.intern_twins growsLeft growsRight (builtins.inStep inStep_initial) components
  | function callee =>
    exact TypeM.intern_twins growsLeft growsRight (builtins.inStep inStep_initial) components
  | field _ | unknown =>
    have builtin : initial.Knows .any := by decide
    exact (grounded_of_builtin builtins builtin).twins left right

/-- A value over grounded identifiers is described alike in two contexts. -/
theorem describe_eq (growsLeft : base.Grows left) (growsRight : base.Grows right) {value : Value}
    (components : ∀ component ∈ value.components, base.Grounded component) :
    value.describe left = value.describe right := by
  cases value with
  | constant _ | function _ | field _ | unknown => rfl
  | instanceOf type =>
    have grounded := components type List.mem_cons_self
    rw [describe, describe, growsLeft.isAny_eq grounded.knows, growsRight.isAny_eq grounded.knows,
      (grounded.twins left right).display_eq growsLeft growsRight]
  | classObject instances =>
    have grounded := components instances List.mem_cons_self
    exact (grounded.twins left right).display_eq growsLeft growsRight

end Value

/-- The error that reports a mismatch. -/
def BadMatch.error (types : TypeContext) (name : String) (span : Span) (bad : BadMatch) :
    CheckError :=
  .mismatch name (types.display bad.expected) (types.display bad.actual)
    (bad.binding.value.describe types) span

/-- Matching a variable lets the types grow. -/
theorem badMatches_grows (program : Program) (declared : TypeId) (point : PointId)
    (bindings : List Binding) (context : TypeContext) :
    context.Grows (badMatches program declared point bindings context).2 := by
  rw [badMatches_types]
  exact Value.types_grows _ context

/-- The mismatches that are found in two contexts read the same, when the same bindings are visible
and everything is over grounded identifiers. -/
theorem badMatches_map_error_eq (growsLeft : base.Grows left) (growsRight : base.Grows right)
    (builtins : initial.Grows base) {program other : Program} {point elsewhere : PointId}
    {declared : TypeId} (grounded : base.Grounded declared) {bindings : List Binding}
    (visible : ∀ binding ∈ bindings, program.isReachable binding.point point =
      other.isReachable binding.point elsewhere)
    (components : ∀ binding ∈ bindings, ∀ component ∈ binding.value.components,
      base.Grounded component) (name : String) (span : Span) :
    (badMatches program declared point bindings left).1.map
        (BadMatch.error (badMatches program declared point bindings left).2 name span) =
      (badMatches other declared elsewhere bindings right).1.map
        (BadMatch.error (badMatches other declared elsewhere bindings right).2 name span) := by
  induction bindings generalizing left right with
  | nil => rfl
  | cons binding rest ih =>
    obtain ⟨sameVisible, othersVisible⟩ := List.forall_mem_cons.mp visible
    obtain ⟨isGrounded, othersGrounded⟩ := List.forall_mem_cons.mp components
    by_cases seen : program.isReachable binding.point point = true
    · have alsoSeen : other.isReachable binding.point elsewhere = true := sameVisible ▸ seen
      rw [badMatches_cons_of_visible seen, badMatches_cons_of_visible alsoSeen]
      have twins := Value.type_twins growsLeft growsRight builtins isGrounded
      have typedLeft := growsLeft.trans (binding.value.type_grows left)
      have typedRight := growsRight.trans (binding.value.type_grows right)
      have later := ih typedLeft typedRight othersVisible othersGrounded
      have laterLeft := badMatches_grows program declared point rest (binding.value.type left).2
      have laterRight := badMatches_grows other declared elsewhere rest (binding.value.type right).2
      dsimp only
      rw [twins.isAssignable_eq typedLeft typedRight grounded]
      split
      · exact later
      · have endsLeft := typedLeft.trans laterLeft
        have endsRight := typedRight.trans laterRight
        rw [List.map_cons, List.map_cons, later, BadMatch.error, BadMatch.error,
          (twins.grows laterLeft laterRight).display_eq endsLeft endsRight,
          (grounded.twins _ _).display_eq endsLeft endsRight,
          Value.describe_eq endsLeft endsRight isGrounded]
    · have alsoHidden : ¬ other.isReachable binding.point elsewhere = true := sameVisible ▸ seen
      rw [badMatches_cons_of_hidden seen, badMatches_cons_of_hidden alsoHidden]
      exact ih growsLeft growsRight othersVisible othersGrounded

end DataclassSynthesis
