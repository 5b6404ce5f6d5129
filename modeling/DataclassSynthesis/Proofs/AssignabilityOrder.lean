import DataclassSynthesis.Proofs.UnionLaws

/-!
# Assignability as an order

On the types that mention neither the unknown type nor a bare container, assignability is a preorder
(`DataclassSynthesis.TypeContext.WellFormed.isAssignable_trans`). The proof is by induction on the
sum of the three identifiers, which falls from types to their components, also where parameters of
functions change sides.
-/

namespace DataclassSynthesis

namespace Scalar

/-- Assignability of types without components is transitive, since the numeric ones form a chain. -/
theorem assignable_trans {first second third : Scalar} (early : first.assignable second = true)
    (late : second.assignable third = true) : first.assignable third = true := by
  unfold assignable at early late ⊢
  cases narrow : first.numericRank <;> cases middle : second.numericRank <;>
    cases wide : third.numericRank <;> simp_all
  omega

end Scalar

/-- A type that is neither unknown nor a union, so that a rule of its own decides about it. -/
def Ty.IsPlain (type : Ty) : Prop := type ≠ .any ∧ ∀ members, type ≠ .union members

namespace TypeContext

variable {context : TypeContext}

/-- An identifier denotes a type whose structure mentions neither the unknown type nor a bare
container. -/
inductive Static (context : TypeContext) : TypeId → Prop
  | intro {id : TypeId} {type : Ty} (found : context.get? id = some type) (specific : type ≠ .any)
      (applied : ∀ qualified, type ≠ .container qualified [])
      (components : ∀ component ∈ type.components, Static context component) : Static context id

namespace Static

/-- A static identifier denotes a type that is neither the unknown type nor a bare container, over
static components. -/
theorem exists_type {id : TypeId} (static : context.Static id) :
    ∃ type, context.get? id = some type ∧ type ≠ .any ∧
      (∀ qualified, type ≠ .container qualified []) ∧
      ∀ component ∈ type.components, context.Static component := by
  cases static with
  | intro found specific applied components => exact ⟨_, found, specific, applied, components⟩

theorem knows {id : TypeId} (static : context.Static id) : context.Knows id := by
  obtain ⟨type, found, -⟩ := static.exists_type
  exact knows_of_get? found

/-- The union members of a static type are static. -/
theorem member {id member : TypeId} (static : context.Static id)
    (among : member ∈ context.unionMembers id) : context.Static member := by
  by_cases union : context.IsUnion id
  · obtain ⟨members, found⟩ := union
    obtain ⟨type, denoted, -, -, components⟩ := static.exists_type
    obtain rfl := Option.some.inj (found.symm.trans denoted)
    rw [unionMembers_of_union found] at among
    exact components member among
  · rw [unionMembers_of_not_isUnion union, List.mem_singleton] at among
    exact among ▸ static

/-- A static identifier does not denote the unknown type. -/
theorem isAny_eq_false {id : TypeId} (static : context.Static id) : context.isAny id = false := by
  obtain ⟨type, found, specific, -⟩ := static.exists_type
  simp [isAny, found, specific]

end Static

/-- Lists of the same length with equal elements at equal places are equal. -/
theorem eq_of_zip {α : Type} {left right : List α} (aligned : left.length = right.length)
    (same : ∀ pair ∈ left.zip right, pair.1 = pair.2) : left = right := by
  induction left generalizing right with
  | nil => exact (List.length_eq_zero_iff.mp aligned.symm).symm
  | cons head tail ih =>
    cases right with
    | nil => cases aligned
    | cons other rest =>
      obtain ⟨first, others⟩ := List.forall_mem_cons.mp same
      exact List.cons_eq_cons.mpr ⟨first, ih (Nat.succ.inj aligned) others⟩

/-- A relation between the elements at equal places of lists is transitive if it is so for the
elements of the lists. -/
theorem zip_trans {α : Type} (related : α → α → Prop) {first second third : List α}
    (aligned : first.length = second.length) (alsoAligned : second.length = third.length)
    (early : ∀ pair ∈ first.zip second, related pair.1 pair.2)
    (late : ∀ pair ∈ second.zip third, related pair.1 pair.2)
    (chains : ∀ x ∈ first, ∀ y ∈ second, ∀ z ∈ third, related x y → related y z → related x z) :
    ∀ pair ∈ first.zip third, related pair.1 pair.2 := by
  induction first generalizing second third with
  | nil => simp
  | cons x xs ih =>
    cases second with
    | nil => cases aligned
    | cons y ys =>
      cases third with
      | nil => cases alsoAligned
      | cons z zs =>
        rw [List.zip_cons_cons, List.forall_mem_cons] at early late ⊢
        refine ⟨chains x List.mem_cons_self y List.mem_cons_self z List.mem_cons_self early.1
            late.1, ih (Nat.succ.inj aligned) (Nat.succ.inj alsoAligned) early.2 late.2 ?_⟩
        intro a inFirst b inSecond c inThird
        exact chains a (List.mem_cons_of_mem _ inFirst) b (List.mem_cons_of_mem _ inSecond) c
          (List.mem_cons_of_mem _ inThird)

/-- Containers with static arguments match only if they are the same. -/
theorem eq_of_containersMatch {sourceName targetName : String} {sources targets : List TypeId}
    (matched : context.containersMatch sourceName targetName sources targets = true)
    (applied : sources ≠ [] ∧ targets ≠ [])
    (static : ∀ argument ∈ sources ++ targets, context.Static argument) :
    sourceName = targetName ∧ sources = targets := by
  have given := applied
  rw [ne_eq, ne_eq, ← List.isEmpty_iff, ← List.isEmpty_iff, Bool.not_eq_true,
    Bool.not_eq_true] at given
  simp only [containersMatch, given.1, given.2, Bool.false_or, Bool.and_eq_true, beq_iff_eq,
    List.all_eq_true] at matched
  refine ⟨matched.1, eq_of_zip matched.2.1 fun pair among => ?_⟩
  obtain ⟨mine, theirs⟩ := List.of_mem_zip (a := pair.1) (b := pair.2) among
  have equal := matched.2.2 pair among
  simpa [argumentsMatch, (static pair.1 (List.mem_append_left _ mine)).isAny_eq_false,
    (static pair.2 (List.mem_append_right _ theirs)).isAny_eq_false] using equal

section

variable {holds : TypeId → TypeId → Prop} {first second third : TypeId} {lower middle upper : Ty}

/-- What is no union is below `object`. -/
theorem matches_object (single : ∀ members, lower ≠ .union members) :
    context.Matches holds first second lower (.scalar .object) := by
  cases lower with
  | union members => exact (single members rfl).elim
  | _ => trivial

/-- No other plain type is above `object`. -/
theorem eq_object_of_matches
    (matched : context.Matches holds first second (.scalar .object) upper)
    (plain : upper.IsPlain) : upper = .scalar .object := by
  cases upper with
  | any => exact (plain.1 rfl).elim
  | union members => exact (plain.2 members rfl).elim
  | scalar wide =>
    cases wide with
    | object => rfl
    | _ => cases matched
  | nominal _ _ _ | container _ _ | callable _ _ _ | never => exact matched.elim

/-- A scalar is below `object` and below what it widens to. -/
theorem matches_scalar_iff {narrow wide : Scalar} :
    context.Matches holds first second (.scalar narrow) (.scalar wide) ↔
      wide = .object ∨ narrow.assignable wide = true := by
  cases wide <;> simp [Matches]

/-- Scalars widen step by step. -/
theorem matches_scalar_trans {narrow : Scalar} (plain : middle.IsPlain ∧ upper.IsPlain)
    (ordinary : middle ≠ .scalar .object)
    (early : context.Matches holds first second (.scalar narrow) middle)
    (late : context.Matches holds second third middle upper) :
    context.Matches holds first third (.scalar narrow) upper := by
  cases middle with
  | any => exact (plain.1.1 rfl).elim
  | union members => exact (plain.1.2 members rfl).elim
  | scalar wide =>
    have narrower : wide ≠ .object := fun same => ordinary (same ▸ rfl)
    have widens := (matches_scalar_iff.mp early).resolve_left narrower
    cases upper with
    | any => trivial
    | union members => exact (plain.2.2 members rfl).elim
    | scalar widest =>
      exact matches_scalar_iff.mpr
        ((matches_scalar_iff.mp late).imp id (Scalar.assignable_trans widens))
    | nominal _ _ _ | container _ _ | callable _ _ _ | never => exact late.elim
  | nominal _ _ _ | container _ _ | callable _ _ _ | never => exact early.elim

/-- A class is below everything that one of its bases is below. -/
theorem matches_of_base {id : ClassId} {name : String} {bases : List TypeId}
    (plain : upper.IsPlain) (inherits : ∃ base ∈ bases, holds base second) :
    context.Matches holds first second (.nominal id name bases) upper := by
  cases upper with
  | any => trivial
  | union members => exact (plain.2 members rfl).elim
  | scalar wide =>
    cases wide with
    | object => trivial
    | _ => exact inherits
  | nominal _ _ _ => exact .inr inherits
  | container _ _ | callable _ _ _ | never => exact inherits

/-- A class is below a type other than `object` and its own through one of its bases. -/
theorem exists_base_of_matches {id : ClassId} {name : String} {bases : List TypeId}
    (plain : upper.IsPlain) (ordinary : upper ≠ .scalar .object)
    (other : ∀ otherName otherBases, upper ≠ .nominal id otherName otherBases)
    (matched : context.Matches holds first second (.nominal id name bases) upper) :
    ∃ base ∈ bases, holds base second := by
  cases upper with
  | any => exact (plain.1 rfl).elim
  | union members => exact (plain.2 members rfl).elim
  | scalar wide =>
    cases wide with
    | object => exact (ordinary rfl).elim
    | _ => exact matched
  | nominal otherId otherName otherBases =>
    rcases matched with rfl | inherits
    · exact (other otherName otherBases rfl).elim
    · exact inherits
  | container _ _ | callable _ _ _ | never => exact matched

/-- A container with static arguments is below `object` and itself only. -/
theorem eq_of_matches_container {name : String} {arguments : List TypeId}
    (plain : upper.IsPlain) (ordinary : upper ≠ .scalar .object)
    (applied : arguments ≠ [] ∧ ∀ qualified, upper ≠ .container qualified [])
    (static : ∀ argument ∈ arguments ++ upper.components, context.Static argument)
    (matched : context.Matches holds first second (.container name arguments) upper) :
    upper = .container name arguments := by
  cases upper with
  | any => exact (plain.1 rfl).elim
  | union members => exact (plain.2 members rfl).elim
  | scalar wide =>
    cases wide with
    | object => exact (ordinary rfl).elim
    | _ => exact matched.elim
  | container otherName others =>
    have given : others ≠ [] := fun bare => applied.2 otherName (bare ▸ rfl)
    obtain ⟨rfl, rfl⟩ := eq_of_containersMatch matched ⟨applied.1, given⟩ static
    rfl
  | nominal _ _ _ | callable _ _ _ | never => exact matched.elim

/-- Functions compose when their components do, in both directions. -/
theorem matches_callable_trans {parameters : List TypeId} {result : TypeId} {required : Nat}
    (plain : middle.IsPlain ∧ upper.IsPlain) (ordinary : middle ≠ .scalar .object)
    (chains : ∀ x ∈ result :: parameters, ∀ y ∈ middle.components, ∀ z ∈ upper.components,
      (holds x y → holds y z → holds x z) ∧ (holds z y → holds y x → holds z x))
    (early : context.Matches holds first second (.callable parameters result required) middle)
    (late : context.Matches holds second third middle upper) :
    context.Matches holds first third (.callable parameters result required) upper := by
  cases middle with
  | any => exact (plain.1.1 rfl).elim
  | union members => exact (plain.1.2 members rfl).elim
  | scalar wide =>
    cases wide with
    | object => exact (ordinary rfl).elim
    | _ => exact early.elim
  | callable middles middleResult middleRequired =>
    obtain ⟨aligned, accepted, resultAccepted⟩ := early
    cases upper with
    | any => trivial
    | union members => exact (plain.2.2 members rfl).elim
    | scalar wide =>
      cases wide with
      | object => trivial
      | _ => exact late.elim
    | callable targets targetResult targetRequired =>
      obtain ⟨alsoAligned, alsoAccepted, alsoResultAccepted⟩ := late
      refine ⟨aligned.trans alsoAligned, ?_, ?_⟩
      · -- Parameters are compared the other way round.
        refine zip_trans (fun mine theirs => holds theirs mine) aligned alsoAligned accepted
          alsoAccepted ?_
        intro x inFirst y inSecond z inThird forth back
        exact (chains x (List.mem_cons_of_mem _ inFirst) y (List.mem_cons_of_mem _ inSecond) z
          (List.mem_cons_of_mem _ inThird)).2 back forth
      · exact (chains result List.mem_cons_self middleResult List.mem_cons_self targetResult
          List.mem_cons_self).1 resultAccepted alsoResultAccepted
    | nominal _ _ _ | container _ _ | never => exact late.elim
  | nominal _ _ _ | container _ _ | never => exact early.elim

end

/-- Transitivity for static identifiers with a smaller sum. -/
def TransitiveBelow (context : TypeContext) (total : Nat) : Prop :=
  ∀ first second third : TypeId, first.index + second.index + third.index < total →
    context.Static first → context.Static second → context.Static third →
    context.isAssignable first second = true → context.isAssignable second third = true →
    context.isAssignable first third = true

/-- Transitivity for types that are no unions, given transitivity for their components. -/
theorem WellFormed.isAssignable_trans_of_single (formed : context.WellFormed)
    {first second third : TypeId}
    (below : context.TransitiveBelow (first.index + second.index + third.index))
    (isFirst : context.Static first) (isSecond : context.Static second)
    (isThird : context.Static third)
    (single : ¬ context.IsUnion first ∧ ¬ context.IsUnion second ∧ ¬ context.IsUnion third)
    (early : context.isAssignable first second = true)
    (late : context.isAssignable second third = true) :
    context.isAssignable first third = true := by
  by_cases sameStart : first = second
  · exact sameStart ▸ late
  by_cases sameEnd : second = third
  · exact sameEnd ▸ early
  obtain ⟨lower, foundFirst, specificFirst, appliedFirst, staticFirst⟩ := isFirst.exists_type
  obtain ⟨middle, foundSecond, specificSecond, appliedSecond, staticSecond⟩ := isSecond.exists_type
  obtain ⟨upper, foundThird, specificThird, -, staticThird⟩ := isThird.exists_type
  have plainFirst : lower.IsPlain :=
    ⟨specificFirst, fun members same => single.1 ⟨members, same ▸ foundFirst⟩⟩
  have plainSecond : middle.IsPlain :=
    ⟨specificSecond, fun members same => single.2.1 ⟨members, same ▸ foundSecond⟩⟩
  have plainThird : upper.IsPlain :=
    ⟨specificThird, fun members same => single.2.2 ⟨members, same ▸ foundThird⟩⟩
  have earlyRule := ((isAssignable_iff formed foundFirst foundSecond).mp early).resolve_left
    sameStart
  have lateRule := ((isAssignable_iff formed foundSecond foundThird).mp late).resolve_left sameEnd
  rw [isAssignable_iff formed foundFirst foundThird]
  right
  by_cases top : middle = .scalar .object
  · subst top
    obtain rfl := eq_object_of_matches lateRule plainThird
    exact matches_object plainFirst.2
  -- Below `object` the kind of the first type decides what the others can be.
  cases lower with
  | any => exact (specificFirst rfl).elim
  | union members => exact (plainFirst.2 members rfl).elim
  | never => cases upper <;> trivial
  | scalar narrow => exact matches_scalar_trans ⟨plainSecond, plainThird⟩ top earlyRule lateRule
  | nominal id name bases =>
    have other : ∀ otherName otherBases, middle ≠ .nominal id otherName otherBases := by
      rintro otherName otherBases rfl
      exact sameStart (formed.classes _ _ _ _ _ _ _ foundFirst foundSecond)
    obtain ⟨base, listed, accepted⟩ := exists_base_of_matches plainSecond top other earlyRule
    have older := formed.ordered first _ foundFirst base listed
    exact matches_of_base plainThird ⟨base, listed, below base second third (by omega)
      (staticFirst base listed) isSecond isThird accepted late⟩
  | container name arguments =>
    have given : arguments ≠ [] := fun bare => appliedFirst name (bare ▸ rfl)
    have static : ∀ argument ∈ arguments ++ middle.components, context.Static argument :=
      fun argument among =>
        (List.mem_append.mp among).elim (staticFirst argument) (staticSecond argument)
    obtain rfl := eq_of_matches_container plainSecond top ⟨given, appliedSecond⟩ static earlyRule
    exact (sameStart (formed.inStep.injective foundFirst foundSecond)).elim
  | callable parameters result required =>
    refine matches_callable_trans ⟨plainSecond, plainThird⟩ top ?_ earlyRule lateRule
    intro x inFirst y inSecond z inThird
    have less : x.index + y.index + z.index < first.index + second.index + third.index := by
      have := formed.ordered first _ foundFirst x inFirst
      have := formed.ordered second _ foundSecond y inSecond
      have := formed.ordered third _ foundThird z inThird
      omega
    exact ⟨below x y z less (staticFirst x inFirst) (staticSecond y inSecond)
        (staticThird z inThird),
      below z y x (by omega) (staticThird z inThird) (staticSecond y inSecond)
        (staticFirst x inFirst)⟩

/-- The members of a union are older than the union. -/
theorem WellFormed.member_lt (formed : context.WellFormed) {id member : TypeId}
    (union : context.IsUnion id) (among : member ∈ context.unionMembers id) :
    member.index < id.index := by
  obtain ⟨members, found⟩ := union
  rw [unionMembers_of_union found] at among
  exact formed.ordered id _ found member among

/-- Assignability between static types is transitive. -/
theorem WellFormed.isAssignable_trans (formed : context.WellFormed) {first second third : TypeId}
    (isFirst : context.Static first) (isSecond : context.Static second)
    (isThird : context.Static third) (early : context.isAssignable first second = true)
    (late : context.isAssignable second third = true) :
    context.isAssignable first third = true := by
  induction sum : first.index + second.index + third.index using Nat.strongRecOn
    generalizing first second third with
  | ind total ih =>
    have below : context.TransitiveBelow total :=
      fun _ _ _ less isFirst isSecond isThird early late =>
        ih _ less isFirst isSecond isThird early late rfl
    -- Unions are decomposed on the left first, then in the middle, then on the right.
    by_cases unionFirst : context.IsUnion first
    · rw [formed.isAssignable_iff_forall_member]
      intro member among
      have older := formed.member_lt unionFirst among
      exact below member second third (by omega) (isFirst.member among) isSecond isThird
        ((formed.isAssignable_iff_forall_member first second).mp early member among) late
    by_cases unionSecond : context.IsUnion second
    · obtain ⟨member, among, accepted⟩ :=
        (formed.isAssignable_iff_exists_member unionFirst second).mp early
      have older := formed.member_lt unionSecond among
      exact below first member third (by omega) isFirst (isSecond.member among) isThird accepted
        ((formed.isAssignable_iff_forall_member second third).mp late member among)
    by_cases unionThird : context.IsUnion third
    · obtain ⟨member, among, accepted⟩ :=
        (formed.isAssignable_iff_exists_member unionSecond third).mp late
      have older := formed.member_lt unionThird among
      exact (formed.isAssignable_iff_exists_member unionFirst third).mpr ⟨member, among,
        below first second member (by omega) isFirst isSecond (isThird.member among) early accepted⟩
    exact formed.isAssignable_trans_of_single (sum ▸ below) isFirst isSecond isThird
      ⟨unionFirst, unionSecond, unionThird⟩ early late

/-- Every known type is assignable to `object`. -/
theorem WellFormed.isAssignable_object (formed : context.WellFormed) {id : TypeId}
    (known : context.Knows id) : context.isAssignable id .object = true := by
  rw [formed.isAssignable_iff_forall_member]
  intro member among
  have single := formed.not_isUnion_member among
  obtain ⟨type, found⟩ := knows_iff.mp (formed.knows_member known among)
  have isObject : context.get? .object = some (.scalar .object) := formed.get?_builtin rfl
  rw [isAssignable_iff formed found isObject]
  exact .inr (matches_object fun members same => single ⟨members, same ▸ found⟩)

end TypeContext

end DataclassSynthesis
