import DataclassSynthesis.Dataclass.Member
import DataclassSynthesis.Proofs.TypeGrowth

/-!
# Markers while values are typed

The kind of an annotated name depends on whether its type is an application of a marker, and the
value that stands for its instances on whether the type is unknown. Typing values adds class objects
and function types only, so neither changes, not even for identifiers that were not in use before
(`DataclassSynthesis.Value.types_sameMarkers`).
-/

namespace DataclassSynthesis

open TypeContext

/-- Two contexts agree on which identifiers denote the unknown type, class variables and constructor
variables, and on the types that the latter two are applied to. -/
structure TypeContext.SameMarkers (base types : TypeContext) : Prop where
  isAny : ∀ type, types.isAny type = base.isAny type
  classVariable : ∀ type, types.argumentOf? type Container.classVariable.qualified =
    base.argumentOf? type Container.classVariable.qualified
  initVariable : ∀ type, types.argumentOf? type Container.initVariable.qualified =
    base.argumentOf? type Container.initVariable.qualified

namespace TypeContext.SameMarkers

variable {first second third : TypeContext}

theorem refl (types : TypeContext) : types.SameMarkers types :=
  ⟨fun _ => rfl, fun _ => rfl, fun _ => rfl⟩

theorem trans (early : first.SameMarkers second) (late : second.SameMarkers third) :
    first.SameMarkers third where
  isAny type := (late.isAny type).trans (early.isAny type)
  classVariable type := (late.classVariable type).trans (early.classVariable type)
  initVariable type := (late.initVariable type).trans (early.initVariable type)

/-- The kind of a name is the same in both contexts. -/
theorem kind_eq (same : first.SameMarkers second) (type : TypeId) (value : Option Variable) :
    MemberKind.of second type value = MemberKind.of first type value := by
  rw [MemberKind.of, MemberKind.of, same.classVariable, same.initVariable]

end TypeContext.SameMarkers

/-- The argument of a container is the first one that it is applied to. -/
theorem TypeContext.argumentOf?_eq_some_iff {context : TypeContext} {id inner : TypeId}
    {qualified : String} :
    context.argumentOf? id qualified = some inner ↔
      ∃ arguments, context.get? id = some (.container qualified arguments) ∧
        arguments.head?.getD .any = inner := by
  unfold argumentOf?
  constructor
  · intro given
    split at given
    · next base arguments found =>
      split at given
      · next same =>
        subst same
        exact ⟨arguments, found, Option.some.inj given⟩
      · cases given
    · cases given
  · rintro ⟨arguments, found, rfl⟩
    rw [found]
    exact if_pos rfl

namespace TypeM

variable {type : Ty}

/-- Interning a type lets no identifier denote any other type than before, not even one that was not
in use. -/
theorem get?_intern_iff {other : Ty} (differ : other ≠ type) (context : TypeContext)
    (id : TypeId) :
    (intern type context).2.get? id = some other ↔ context.get? id = some other := by
  refine ⟨fun found => ?_, (intern_grows type context).get?⟩
  rcases intern_cases type context with ⟨_, -, same⟩ | ⟨-, added⟩
  · rwa [same] at found
  · rw [added] at found
    rcases get?_of_append found with before | ⟨-, new⟩
    · exact before
    · exact absurd new differ

/-- Interning a type that is no application of a container adds no application of it. -/
theorem argumentOf?_intern {qualified : String}
    (other : ∀ arguments, type ≠ .container qualified arguments) (context : TypeContext)
    (id : TypeId) :
    (intern type context).2.argumentOf? id qualified = context.argumentOf? id qualified := by
  refine Option.ext fun inner => ?_
  rw [argumentOf?_eq_some_iff, argumentOf?_eq_some_iff]
  exact exists_congr fun arguments =>
    and_congr_left fun _ => get?_intern_iff (other arguments).symm context id

/-- Interning a type other than the unknown type makes no other identifier denote that. -/
theorem isAny_intern (known : type ≠ .any) (context : TypeContext) (id : TypeId) :
    (intern type context).2.isAny id = context.isAny id := by
  rw [Bool.eq_iff_iff, isAny, isAny, beq_iff_eq, beq_iff_eq]
  exact get?_intern_iff known.symm context id

/-- Interning a type that is neither unknown nor marked keeps the markers. -/
theorem intern_sameMarkers (known : type ≠ .any)
    (unmarked : ∀ marker ∈ [Container.classVariable, Container.initVariable], ∀ arguments,
      type ≠ .container marker.qualified arguments) (context : TypeContext) :
    context.SameMarkers (intern type context).2 where
  isAny := isAny_intern known context
  classVariable := argumentOf?_intern (unmarked _ (by simp)) context
  initVariable := argumentOf?_intern (unmarked _ (by simp)) context

end TypeM

namespace Value

/-- Asking for the type of a value keeps the markers. -/
theorem type_sameMarkers (value : Value) (context : TypeContext) :
    context.SameMarkers (value.type context).2 := by
  cases value with
  | classObject instances =>
    have differ : ∀ marker ∈ [Container.classVariable, Container.initVariable],
        Container.classObject.qualified ≠ marker.qualified := by decide
    refine TypeM.intern_sameMarkers ?_ (fun marker listed arguments same => ?_) context
    · nofun
    · exact differ marker listed (Ty.container.inj same).1
  | function callee =>
    refine TypeM.intern_sameMarkers ?_ (fun marker _ arguments => ?_) context
    · nofun
    · nofun
  | constant _ | instanceOf _ | field _ | unknown => exact .refl context

/-- Asking for the types of values keeps the markers. -/
theorem types_sameMarkers (values : List Value) (context : TypeContext) :
    context.SameMarkers (types values context).2 := by
  induction values generalizing context with
  | nil => exact .refl context
  | cons value rest ih => exact (value.type_sameMarkers context).trans (ih _)

end Value

end DataclassSynthesis
