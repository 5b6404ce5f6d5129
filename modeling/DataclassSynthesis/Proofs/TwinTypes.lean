import DataclassSynthesis.Proofs.GroundedTypes
import DataclassSynthesis.Proofs.StepSimulation
import Mathlib.Tactic.Linarith

/-!
# One type in two contexts

Two contexts that grew from one may hold the same type under two identifiers, when it was added to
both. Such twins have the same written form, and the same assignability to what was there before
(`DataclassSynthesis.TypeContext.Twins.isAssignable_eq`,
`DataclassSynthesis.TypeContext.Twins.display_eq`).
-/

namespace DataclassSynthesis

/-- The written form of a type depends on those of its components only. -/
theorem Ty.displayWith_congr {type : Ty} {component other : TypeId → Option String}
    (same : ∀ id ∈ type.components, component id = other id) :
    type.displayWith component = type.displayWith other :=
  Ty.displayWith_simulated (.equality Option) same

namespace TypeContext

variable {base left right : TypeContext} {first second : TypeId}

/-- Two identifiers denote one type in two contexts that grew from one, and the structure of the
type ends within a number of levels below it: they are one identifier that was there before, or both
were added and the type is built from what was there. -/
inductive Twins (base left right : TypeContext) (levels : Nat) : TypeId → TypeId → Prop
  | same {id : TypeId} (ends : base.EndsWithin (levels + 1) id) : Twins base left right levels id id
  | added {first second : TypeId} {type : Ty} (new : ¬ base.Knows first)
      (alsoNew : ¬ base.Knows second) (found : left.get? first = some type)
      (alsoFound : right.get? second = some type)
      (components : ∀ component ∈ type.components, base.EndsWithin levels component) :
      Twins base left right levels first second

variable {levels : Nat}

theorem EndsWithin.knows {id : TypeId} (ends : base.EndsWithin levels id) : base.Knows id := by
  cases levels with
  | zero => exact ends.elim
  | succ levels =>
    obtain ⟨type, found, -⟩ := ends
    exact knows_of_get? found

/-- Twins denote one type, whose structure ends one level below. -/
theorem Twins.exists_type (twins : base.Twins left right levels first second)
    (growsLeft : base.Grows left) (growsRight : base.Grows right) :
    ∃ type, left.get? first = some type ∧ right.get? second = some type ∧
      ∀ component ∈ type.components, base.EndsWithin levels component := by
  cases twins with
  | same ends =>
    obtain ⟨type, found, components⟩ := ends
    exact ⟨type, growsLeft.get? found, growsRight.get? found, components⟩
  | added _ _ found alsoFound components => exact ⟨_, found, alsoFound, components⟩

/-- Twins stay twins while both contexts grow on. -/
theorem Twins.grows {laterLeft laterRight : TypeContext}
    (twins : base.Twins left right levels first second) (growsLeft : left.Grows laterLeft)
    (growsRight : right.Grows laterRight) :
    base.Twins laterLeft laterRight levels first second := by
  cases twins with
  | same ends => exact .same ends
  | added new alsoNew found alsoFound components =>
    exact .added new alsoNew (growsLeft.get? found) (growsRight.get? alsoFound) components

/-- Twins are the same as an identifier that was there before, or both are not. -/
theorem Twins.eq_iff (twins : base.Twins left right levels first second) {target : TypeId}
    (known : base.Knows target) : first = target ↔ second = target := by
  cases twins with
  | same _ => rfl
  | added new alsoNew _ _ _ =>
    constructor
    · rintro rfl
      exact (new known).elim
    · rintro rfl
      exact (alsoNew known).elim

/-- Whether a known identifier denotes the unknown type does not change while the types grow. -/
theorem Grows.isAny_eq (grows : base.Grows left) {id : TypeId} (known : base.Knows id) :
    left.isAny id = base.isAny id := by
  rw [isAny, isAny, grows.get?_eq known]

/-- Whether containers over known arguments match stays the same. -/
theorem Grows.containersMatch_eq (grows : base.Grows left) {sources targets : List TypeId}
    (sourcesKnown : ∀ source ∈ sources, base.Knows source)
    (targetsKnown : ∀ target ∈ targets, base.Knows target) (sourceName targetName : String) :
    left.containersMatch sourceName targetName sources targets =
      base.containersMatch sourceName targetName sources targets := by
  rw [containersMatch, containersMatch]
  refine congrArg (_ && ·) (congrArg (_ || ·) (congrArg (_ && ·) ?_))
  rw [Bool.eq_iff_iff, List.all_eq_true, List.all_eq_true]
  refine forall₂_congr fun pair member => ?_
  obtain ⟨isSource, isTarget⟩ := List.of_mem_zip member
  simp only [argumentsMatch]
  rw [grows.isAny_eq (sourcesKnown _ isSource), grows.isAny_eq (targetsKnown _ isTarget)]

/-- One level of the decision is the same in two grown contexts, given the same answers for pairs of
components. -/
theorem assignableStep_congr (growsLeft : base.Grows left) (growsRight : base.Grows right)
    {sourceType targetType : Ty} {target : TypeId}
    (sourceKnown : ∀ component ∈ sourceType.components, base.Knows component)
    (targetKnown : ∀ component ∈ targetType.components, base.Knows component)
    {ask other : TypeId → TypeId → Option Bool}
    (below : ∀ component ∈ sourceType.components, ask component target = other component target)
    (above : ∀ component ∈ targetType.components, ask first component = other second component)
    (across : ∀ mine ∈ sourceType.components, ∀ theirs ∈ targetType.components,
      ask mine theirs = other mine theirs ∧ ask theirs mine = other theirs mine) :
    left.assignableStep ask first target sourceType targetType =
      right.assignableStep other second target sourceType targetType := by
  refine assignableStep_simulated (.equality Option) ?_ below above across
  intro sourceName targetName
  exact (growsLeft.containersMatch_eq sourceKnown targetKnown sourceName targetName).trans
    (growsRight.containersMatch_eq sourceKnown targetKnown sourceName targetName).symm

/-- The decision is the same for twins, with any bounds that are large enough for the levels of the
types. -/
theorem Twins.assignableWithin_eq (growsLeft : base.Grows left) (growsRight : base.Grows right)
    {deep bound more : Nat} {target : TypeId} (twins : base.Twins left right levels first second)
    (ends : base.EndsWithin (deep + 1) target) (enough : levels + deep < bound)
    (alsoEnough : levels + deep < more) :
    left.assignableWithin bound first target = right.assignableWithin more second target := by
  -- Every nested question has fewer levels in all, whichever side loses them.
  induction bound generalizing more levels deep first second target with
  | zero => omega
  | succ bound ih =>
    obtain ⟨more, rfl⟩ : ∃ smaller, more = smaller + 1 := ⟨more - 1, by omega⟩
    obtain ⟨sourceType, found, alsoFound, sourceParts⟩ := twins.exists_type growsLeft growsRight
    obtain ⟨targetType, isTarget, targetParts⟩ := id ends
    have sameTarget := twins.eq_iff ends.knows
    rw [assignableWithin, assignableWithin, found, alsoFound, growsLeft.get? isTarget,
      growsRight.get? isTarget]
    by_cases equal : first = target
    · rw [if_pos equal, if_pos (sameTarget.mp equal)]
    rw [if_neg equal, if_neg fun alsoEqual => equal (sameTarget.mpr alsoEqual)]
    refine assignableStep_congr growsLeft growsRight
      (fun component member => (sourceParts component member).knows)
      (fun component member => (targetParts component member).knows) ?_ ?_ ?_
    · intro component member
      have shallow := sourceParts component member
      cases levels with
      | zero => exact shallow.elim
      | succ levels => exact ih (.same shallow) ends (by omega) (by omega)
    · intro component member
      have shallow := targetParts component member
      cases deep with
      | zero => exact shallow.elim
      | succ deep => exact ih twins shallow (by omega) (by omega)
    · intro mine isMine theirs isTheirs
      have shallow := sourceParts mine isMine
      have alsoShallow := targetParts theirs isTheirs
      cases levels with
      | zero => exact shallow.elim
      | succ levels =>
        cases deep with
        | zero => exact alsoShallow.elim
        | succ deep =>
          exact ⟨ih (.same shallow) alsoShallow (by omega) (by omega),
            ih (.same alsoShallow) shallow (by omega) (by omega)⟩

theorem Grows.size_le (grows : base.Grows left) : base.size ≤ left.size := grows.types.length_le

/-- Twins are assignable to the same grounded types. -/
theorem Twins.isAssignable_eq (growsLeft : base.Grows left) (growsRight : base.Grows right)
    (twins : base.Twins left right base.size first second) {target : TypeId}
    (grounded : base.Grounded target) :
    left.isAssignable first target = right.isAssignable second target := by
  obtain ⟨fewer, isFewer⟩ : ∃ fewer, base.size = fewer + 1 := by
    have inside := grounded.knows
    rw [Knows] at inside
    exact ⟨base.size - 1, by omega⟩
  have enough : ∀ context : TypeContext, base.Grows context →
      base.size + fewer < context.size * context.size + 1 := by
    intro context grows
    have square : base.size * base.size ≤ context.size * context.size :=
      Nat.mul_self_le_mul_self grows.size_le
    nlinarith
  rw [isAssignable, isAssignable, twins.assignableWithin_eq growsLeft growsRight
    (isFewer ▸ grounded.endsWithin_size) (enough left growsLeft) (enough right growsRight)]

/-- A type that was there before is written in the same way in two grown contexts, with any bounds
that are large enough. -/
theorem EndsWithin.displayWithin_eq (growsLeft : base.Grows left) (growsRight : base.Grows right)
    {id : TypeId} {bound more : Nat} (ends : base.EndsWithin levels id) (enough : levels ≤ bound)
    (alsoEnough : levels ≤ more) : left.displayWithin bound id = right.displayWithin more id := by
  induction levels generalizing id bound more with
  | zero => exact ends.elim
  | succ levels ih =>
    obtain ⟨bound, rfl⟩ : ∃ smaller, bound = smaller + 1 := ⟨bound - 1, by omega⟩
    obtain ⟨more, rfl⟩ : ∃ smaller, more = smaller + 1 := ⟨more - 1, by omega⟩
    obtain ⟨type, found, components⟩ := ends
    rw [displayWithin, displayWithin, growsLeft.get? found, growsRight.get? found]
    exact Ty.displayWith_congr fun component member =>
      ih (components component member) (by omega) (by omega)

/-- Twins are written in the same way. -/
theorem Twins.display_eq (growsLeft : base.Grows left) (growsRight : base.Grows right)
    (twins : base.Twins left right base.size first second) :
    left.display first = right.display second := by
  obtain ⟨type, found, alsoFound, components⟩ := twins.exists_type growsLeft growsRight
  rw [display, display, displayWithin, displayWithin, found, alsoFound]
  refine congrArg (Option.getD · "") (Ty.displayWith_congr fun component member => ?_)
  exact (components component member).displayWithin_eq growsLeft growsRight growsLeft.size_le
    growsRight.size_le

/-- A grounded identifier is its own twin. -/
theorem Grounded.twins {id : TypeId} (grounded : base.Grounded id) (left right : TypeContext) :
    base.Twins left right base.size id id :=
  .same (grounded.endsWithin_size.mono (Nat.le_succ _))

end TypeContext

end DataclassSynthesis
