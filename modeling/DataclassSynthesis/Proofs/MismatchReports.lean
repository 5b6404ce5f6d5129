import DataclassSynthesis.Proofs.LaterStates
import DataclassSynthesis.Proofs.VariableMatching

/-!
# The report about a default

Checking a default types its visible values one after the other, and reports the first one whose
type may not be stored in the attribute. Each value is judged in the types at the moment at which it
is typed (`DataclassSynthesis.Decoration.checkDefault_reports`). Where everything that the attribute
mentions is grounded the moment makes no difference, and the report can be foreseen from any types
before (`DataclassSynthesis.Attribute.mismatch?_eq_foreseen`).
-/

namespace DataclassSynthesis

open TypeContext

/-- A binding with the type that was found for its value, and the types at that moment. -/
structure TypedBinding where
  binding : Binding
  type : TypeId
  types : TypeContext

/-- Some bindings whose values are typed one after the other. -/
def typedBindings : List Binding → TypeContext → List TypedBinding
  | [], _ => []
  | binding :: rest, types =>
    let typed := binding.value.type types
    ⟨binding, typed.1, typed.2⟩ :: typedBindings rest typed.2

/-- Whether the value of a typed binding may be stored where a type is declared. -/
def TypedBinding.fits (declared : TypeId) (typed : TypedBinding) : Bool :=
  typed.types.isAssignable typed.type declared

/-- The mismatches are the visible bindings whose values do not fit when they are typed, in
order. -/
theorem badMatches_eq_typed (program : Program) (declared : TypeId) (point : PointId)
    (bindings : List Binding) (types : TypeContext) :
    (badMatches program declared point bindings types).1 =
      ((typedBindings (bindings.filter fun binding => program.isReachable binding.point point)
          types).filter (!·.fits declared)).map fun typed =>
        ⟨typed.binding, declared, typed.type⟩ := by
  induction bindings generalizing types with
  | nil => rfl
  | cons binding rest ih =>
    by_cases visible : program.isReachable binding.point point = true
    · rw [badMatches_cons_of_visible visible, List.filter_cons, if_pos visible]
      simp only [typedBindings, List.filter_cons, TypedBinding.fits]
      cases (binding.value.type types).2.isAssignable (binding.value.type types).1 declared with
      | true => exact ih _
      | false => exact congrArg _ (ih _)
    · rw [badMatches_cons_of_hidden visible, List.filter_cons, if_neg visible, ih]

namespace Attribute

variable (program : Program) (point : PointId) (attr : Attribute)

/-- The bindings of the default of an attribute that are visible at a point. -/
def visibleDefault : List Binding :=
  match attr.default with
  | none => []
  | some default => default.bindings.filter fun binding => program.isReachable binding.point point

/-- The values of the default of an attribute that are visible at a point. -/
def seen : List Value := (attr.visibleDefault program point).map Binding.value

/-- The report about the default of an attribute, checked in a program at a point: its first visible
binding whose value does not fit when it is typed. The report is written when all are typed. -/
def mismatch? (types : TypeContext) (span : Span) : Option CheckError :=
  ((typedBindings (attr.visibleDefault program point) types).find? (!·.fits attr.type)).map
    fun typed =>
      let settled := (Value.types (attr.seen program point) types).2
      .mismatch attr.name (settled.display attr.type) (settled.display typed.type)
        (typed.binding.value.describe settled) span

/-- The report about the default of an attribute as it can be foreseen in some types: about its
first visible binding whose value is not accepted there. -/
def foreseen? (types : TypeContext) (span : Span) : Option CheckError :=
  ((attr.visibleDefault program point).find? fun binding =>
      !types.accepts attr.type binding.value.type).map fun binding =>
    let actual := binding.value.type types
    .mismatch attr.name (types.display attr.type) (actual.2.display actual.1)
      (binding.value.describe types) span

variable {program point attr}

/-- The report is about the first mismatch. -/
theorem mismatch?_eq_head? {default : Variable} (isDefault : attr.default = some default)
    (types : TypeContext) (span : Span) :
    let matched := badMatches program attr.type point default.bindings types
    attr.mismatch? program point types span =
      matched.1.head?.map (BadMatch.error matched.2 attr.name span) := by
  intro matched
  have settled : matched.2 = (Value.types (attr.seen program point) types).2 := by
    rw [seen, visibleDefault, isDefault]
    exact badMatches_types ..
  rw [settled, show matched.1 = _ from badMatches_eq_typed .., List.head?_map, List.head?_filter,
    Option.map_map, mismatch?, visibleDefault, isDefault]
  rfl

/-- Over grounded identifiers the report can be foreseen. -/
theorem mismatch?_eq_foreseen {base types : TypeContext} (builtins : initial.Grows base)
    (grows : base.Grows types) (grounded : base.Grounded attr.type)
    (components : ∀ value ∈ (attr.default.map Variable.values).getD [],
      ∀ component ∈ value.components, base.Grounded component) (span : Span) :
    attr.mismatch? program point types span = attr.foreseen? program point base span := by
  cases isDefault : attr.default with
  | none =>
    rw [mismatch?, foreseen?, visibleDefault, isDefault]
    rfl
  | some default =>
    rw [isDefault] at components
    have ofBinding : ∀ binding ∈ default.bindings, ∀ component ∈ binding.value.components,
        base.Grounded component := fun binding listed =>
      components binding.value (List.mem_map_of_mem listed)
    have matched := badMatches_eq program point builtins grounded ofBinding grows
    have further := badMatches_grows program attr.type point default.bindings types
    dsimp only at matched
    rw [mismatch?_eq_head? isDefault, matched, List.head?_map, List.head?_filter, Option.map_map,
      foreseen?, visibleDefault, isDefault]
    dsimp only
    simp only [List.find?_filter, Bool.decide_and, Bool.decide_eq_true]
    refine Option.map_congr fun binding found => ?_
    -- The report is written in the types that matching leaves, where the value was typed before.
    have listed := List.mem_of_find?_eq_some found
    have isGrounded := ofBinding binding listed
    have holds := List.find?_some found
    simp only [Bool.and_eq_true] at holds
    have seen : binding.value ∈ visibleValues program point default.bindings :=
      List.mem_map_of_mem (List.mem_filter.mpr ⟨listed, holds.1⟩)
    have again := Value.type_after_types ((builtins.trans grows).inStep inStep_initial) seen
    rw [← badMatches_types program attr.type] at again
    have later := grows.trans further
    have twins := Value.type_twins later (.refl base) builtins isGrounded
    rw [again] at twins
    simp only [Function.comp_apply, BadMatch.error]
    rw [twins.display_eq later (binding.value.type_grows base),
      (grounded.twins _ base).display_eq later (.refl base),
      Value.describe_eq later (.refl base) isGrounded]

end Attribute

namespace Decoration

/-- Checking a default types its visible values, and reports the first that does not fit. -/
theorem checkDefault_reports (attr : Attribute) (span : Span) (state : Analysis) :
    checkDefault attr.name attr.type attr.default span state = .ok () { state with
      types := (Value.types (attr.seen state.program state.point) state.types).2
      log := state.log.extend
        (attr.mismatch? state.program state.point state.types span).toList [] } := by
  cases isDefault : attr.default with
  | none =>
    rw [Attribute.mismatch?, Attribute.seen, Attribute.visibleDefault, isDefault]
    exact congrArg (fun log => EStateM.Result.ok () { state with log := log })
      (Log.extend_nil _).symm
  | some default =>
    rw [checkDefault_eq, List.take_one, List.head?_map, Attribute.mismatch?_eq_head? isDefault,
      badMatches_types, Attribute.seen, Attribute.visibleDefault, isDefault]
    rfl

end Decoration

end DataclassSynthesis
