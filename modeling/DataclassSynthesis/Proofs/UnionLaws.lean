import DataclassSynthesis.Proofs.AssignabilityRules
import Mathlib.Data.List.Basic

/-!
# Unions and assignability

A type is assignable when all of its union members are, and a type that is no union is assignable to
a type when it is assignable to one of that type's union members. The union of types has the members
of all of them, so it is their least upper bound
(`DataclassSynthesis.TypeContext.WellFormed.isJoin_union`).
-/

namespace DataclassSynthesis

namespace TypeContext

variable {context : TypeContext}

/-- Every identifier is assignable to itself. -/
theorem isAssignable_refl (context : TypeContext) (id : TypeId) :
    context.isAssignable id id = true := by
  rw [isAssignable, assignableWithin, if_pos rfl, Option.getD_some]

/-- An identifier without a type is assignable to itself only. -/
theorem isAssignable_of_unknown {source target : TypeId}
    (unknown : context.get? source = none ∨ context.get? target = none) :
    context.isAssignable source target = decide (source = target) := by
  rw [isAssignable, assignableWithin_of_unknown unknown, Option.getD_some]

/-- Known and unknown identifiers are not assignable to one another. -/
theorem not_isAssignable_of_unknown {source target : TypeId}
    (apart : context.Knows source ∧ ¬ context.Knows target ∨
      ¬ context.Knows source ∧ context.Knows target) :
    ¬ context.isAssignable source target = true := by
  have unknown : context.get? source = none ∨ context.get? target = none := by
    rw [get?_eq_none_iff, get?_eq_none_iff]
    exact apart.elim (fun both => .inr both.2) fun both => .inl both.1
  rw [isAssignable_of_unknown unknown, decide_eq_true_iff]
  rintro rfl
  exact apart.elim (fun both => both.2 both.1) fun both => both.1 both.2

theorem unionMembers_of_union {id : TypeId} {members : List TypeId}
    (found : context.get? id = some (.union members)) : context.unionMembers id = members := by
  rw [unionMembers, found]

/-- A type that is no union is its own member. -/
theorem unionMembers_of_not_isUnion {id : TypeId} (single : ¬ context.IsUnion id) :
    context.unionMembers id = [id] := by
  unfold unionMembers
  split
  · next members found => exact (single ⟨members, found⟩).elim
  · rfl

namespace WellFormed

/-- A type always has members. -/
theorem unionMembers_ne_nil (formed : context.WellFormed) (id : TypeId) :
    context.unionMembers id ≠ [] := by
  by_cases union : context.IsUnion id
  · obtain ⟨members, found⟩ := union
    rw [unionMembers_of_union found]
    exact (formed.flat id members found).1
  · rw [unionMembers_of_not_isUnion union]
    exact List.cons_ne_nil _ _

/-- Union members are no unions. -/
theorem not_isUnion_member (formed : context.WellFormed) {id member : TypeId}
    (among : member ∈ context.unionMembers id) : ¬ context.IsUnion member := by
  by_cases union : context.IsUnion id
  · obtain ⟨members, found⟩ := union
    rw [unionMembers_of_union found] at among
    exact (formed.flat id members found).2 member among
  · rw [unionMembers_of_not_isUnion union, List.mem_singleton] at among
    exact among ▸ union

/-- The unknown type and the empty type are assignable to every known type. -/
theorem isAssignable_of_any_or_never (formed : context.WellFormed) {source target : TypeId}
    (isSource : context.get? source = some .any ∨ context.get? source = some .never)
    (known : context.Knows target) : context.isAssignable source target = true := by
  obtain ⟨targetType, isTarget⟩ := knows_iff.mp known
  rcases isSource with isSource | isSource <;>
    exact (isAssignable_iff formed isSource isTarget).mpr
      (.inr (by cases targetType <;> trivial))

/-- Every known type is assignable to the unknown type. -/
theorem isAssignable_any (formed : context.WellFormed) {source target : TypeId}
    (known : context.Knows source) (isTarget : context.get? target = some .any) :
    context.isAssignable source target = true := by
  obtain ⟨sourceType, isSource⟩ := knows_iff.mp known
  exact (isAssignable_iff formed isSource isTarget).mpr
    (.inr (by cases sourceType <;> trivial))

/-- What is no union is assignable to a type exactly when it is so to one of its members. -/
theorem isAssignable_iff_exists_member (formed : context.WellFormed) {source : TypeId}
    (single : ¬ context.IsUnion source) (target : TypeId) :
    context.isAssignable source target = true ↔
      ∃ member ∈ context.unionMembers target, context.isAssignable source member = true := by
  by_cases union : context.IsUnion target
  · obtain ⟨members, isTarget⟩ := union
    rw [unionMembers_of_union isTarget]
    obtain ⟨first, among⟩ := List.exists_mem_of_ne_nil _ (formed.flat target members isTarget).1
    have known : ∀ member ∈ members, context.Knows member := fun member listed =>
      formed.knows_component isTarget listed
    cases isSource : context.get? source with
    | none =>
      have unknown := get?_eq_none_iff.mp isSource
      constructor
      · intro assigned
        exact (not_isAssignable_of_unknown (.inr ⟨unknown, knows_of_get? isTarget⟩) assigned).elim
      · rintro ⟨member, listed, assigned⟩
        exact (not_isAssignable_of_unknown (.inr ⟨unknown, known member listed⟩) assigned).elim
    | some sourceType =>
      have differ : source ≠ target := by
        rintro rfl
        exact single ⟨members, isTarget⟩
      rw [isAssignable_iff formed isSource isTarget, or_iff_right differ]
      cases sourceType with
      | union nested => exact (single ⟨nested, isSource⟩).elim
      | any =>
        exact ⟨fun _ => ⟨first, among, formed.isAssignable_of_any_or_never (.inl isSource)
          (known first among)⟩, fun _ => trivial⟩
      | never =>
        exact ⟨fun _ => ⟨first, among, formed.isAssignable_of_any_or_never (.inr isSource)
          (known first among)⟩, fun _ => trivial⟩
      | scalar _ | nominal _ _ _ | container _ _ | callable _ _ _ => exact Iff.rfl
  · rw [unionMembers_of_not_isUnion union]
    simp only [List.mem_singleton, exists_eq_left]

/-- A type is assignable exactly when all of its members are. -/
theorem isAssignable_iff_forall_member (formed : context.WellFormed) (source target : TypeId) :
    context.isAssignable source target = true ↔
      ∀ member ∈ context.unionMembers source, context.isAssignable member target = true := by
  by_cases union : context.IsUnion source
  · obtain ⟨members, isSource⟩ := union
    rw [unionMembers_of_union isSource]
    obtain ⟨first, among⟩ := List.exists_mem_of_ne_nil _ (formed.flat source members isSource).1
    have known : ∀ member ∈ members, context.Knows member := fun member listed =>
      formed.knows_component isSource listed
    cases isTarget : context.get? target with
    | none =>
      have unknown := get?_eq_none_iff.mp isTarget
      constructor
      · intro assigned
        exact (not_isAssignable_of_unknown (.inl ⟨knows_of_get? isSource, unknown⟩) assigned).elim
      · intro assigned
        exact (not_isAssignable_of_unknown (.inl ⟨known first among, unknown⟩)
          (assigned first among)).elim
    | some targetType =>
      by_cases same : source = target
      · subst same
        refine iff_of_true (context.isAssignable_refl source) fun member listed => ?_
        rw [formed.isAssignable_iff_exists_member ((formed.flat source members isSource).2 member
          listed), unionMembers_of_union isSource]
        exact ⟨member, listed, context.isAssignable_refl member⟩
      · rw [isAssignable_iff formed isSource isTarget, or_iff_right same]
        cases targetType with
        | any =>
          exact iff_of_true trivial fun member listed =>
            formed.isAssignable_any (known member listed) isTarget
        | _ => exact Iff.rfl
  · rw [unionMembers_of_not_isUnion union]
    simp only [List.mem_singleton, forall_eq]

end WellFormed

end TypeContext

namespace TypeM

/-- Inserting a member adds it, unless it is there. -/
theorem mem_insertMember {member id : TypeId} (ids : List TypeId) :
    member ∈ insertMember id ids ↔ member = id ∨ member ∈ ids := by
  induction ids with
  | nil => simp [insertMember]
  | cons head tail ih =>
    rw [insertMember]
    split
    · rw [List.mem_cons]
    · split
      · next same => simp [same]
      · rw [List.mem_cons, ih, List.mem_cons]
        exact or_left_comm

theorem mem_normalizeMembers {member : TypeId} (ids : List TypeId) :
    member ∈ normalizeMembers ids ↔ member ∈ ids := by
  induction ids with
  | nil => rfl
  | cons id rest ih =>
    rw [normalizeMembers, List.foldr_cons, mem_insertMember, List.mem_cons]
    exact or_congr_right ih

/-- Inserting a member keeps the order of the identifiers. -/
theorem pairwise_insertMember {id : TypeId} {ids : List TypeId}
    (increasing : ids.Pairwise fun first second => first.index < second.index) :
    (insertMember id ids).Pairwise fun first second => first.index < second.index := by
  induction ids with
  | nil => exact List.pairwise_singleton _ id
  | cons head tail ih =>
    obtain ⟨least, others⟩ := List.pairwise_cons.mp increasing
    rw [insertMember]
    split
    · next below =>
      refine List.pairwise_cons.mpr ⟨List.forall_mem_cons.mpr ⟨below, ?_⟩, increasing⟩
      exact fun other listed => Nat.lt_trans below (least other listed)
    · next notBelow =>
      split
      · exact increasing
      · next differ =>
        refine List.pairwise_cons.mpr ⟨fun other listed => ?_, ih others⟩
        rcases (mem_insertMember tail).mp listed with rfl | later
        · have apart : other.index ≠ head.index := fun same => differ (congrArg TypeId.mk same)
          omega
        · exact least other later

/-- The distinct members of a list come in increasing order. -/
theorem pairwise_normalizeMembers (ids : List TypeId) :
    (normalizeMembers ids).Pairwise fun first second => first.index < second.index := by
  induction ids with
  | nil => exact .nil
  | cons id rest ih => exact pairwise_insertMember ih

/-- The union of types by the number of their members. -/
theorem union_eq (types : List TypeId) (context : TypeContext) :
    union types context = match normalizeMembers (types.flatMap context.unionMembers) with
      | [] => (.never, context)
      | [single] => (single, context)
      | several => intern (.union several) context := by
  change (match normalizeMembers (types.flatMap context.unionMembers) with
    | [] => pure .never
    | [single] => pure single
    | several => intern (.union several) : TypeM TypeId) context = _
  cases normalizeMembers (types.flatMap context.unionMembers) with
  | nil => rfl
  | cons first rest => cases rest <;> rfl

end TypeM

namespace TypeContext

variable {context : TypeContext}

/-- The members of known types are known. -/
theorem WellFormed.knows_member (formed : context.WellFormed) {id member : TypeId}
    (known : context.Knows id) (among : member ∈ context.unionMembers id) :
    context.Knows member := by
  by_cases union : context.IsUnion id
  · obtain ⟨members, found⟩ := union
    rw [unionMembers_of_union found] at among
    exact formed.knows_component found among
  · rw [unionMembers_of_not_isUnion union, List.mem_singleton] at among
    exact among ▸ known

/-- The members of known types stay as they are. -/
theorem Grows.unionMembers_eq {before after : TypeContext} (grows : before.Grows after)
    {id : TypeId} (known : before.Knows id) : after.unionMembers id = before.unionMembers id := by
  rw [unionMembers, unionMembers, grows.get?_eq known]

/-- The union of known types extends a context. It has the members of all of the types, and without
types it is the empty type. -/
theorem WellFormed.union_spec (formed : context.WellFormed) {types : List TypeId}
    (known : ∀ type ∈ types, context.Knows type) :
    context.Extension (TypeM.union types context).2 ∧
      (types = [] → (TypeM.union types context).1 = .never) ∧
      (types ≠ [] → ∀ member,
        member ∈ (TypeM.union types context).2.unionMembers (TypeM.union types context).1 ↔
          ∃ type ∈ types, member ∈ context.unionMembers type) := by
  have members : ∀ member, member ∈ TypeM.normalizeMembers (types.flatMap context.unionMembers) ↔
      ∃ type ∈ types, member ∈ context.unionMembers type := fun member => by
    rw [TypeM.mem_normalizeMembers, List.mem_flatMap]
  rw [TypeM.union_eq]
  cases normal : TypeM.normalizeMembers (types.flatMap context.unionMembers) with
  | nil =>
    have isEmpty : types = [] := by
      cases types with
      | nil => rfl
      | cons first rest =>
        obtain ⟨member, among⟩ := List.exists_mem_of_ne_nil _ (formed.unionMembers_ne_nil first)
        have listed := (members member).mpr ⟨first, List.mem_cons_self, among⟩
        rw [normal] at listed
        cases listed
    exact ⟨.refl formed, fun _ => rfl, fun notEmpty => (notEmpty isEmpty).elim⟩
  | cons first rest =>
    have notEmpty : types ≠ [] := by
      rintro rfl
      cases normal
    rw [normal] at members
    have single : ∀ member ∈ first :: rest, ¬ context.IsUnion member := fun member listed => by
      obtain ⟨type, -, among⟩ := (members member).mp listed
      exact formed.not_isUnion_member among
    have allKnown : ∀ member ∈ first :: rest, context.Knows member := fun member listed => by
      obtain ⟨type, given, among⟩ := (members member).mp listed
      exact formed.knows_member (known type given) among
    cases rest with
    | nil =>
      refine ⟨.refl formed, fun isEmpty => (notEmpty isEmpty).elim, fun _ member => ?_⟩
      rw [unionMembers_of_not_isUnion (single first List.mem_cons_self)]
      exact members member
    | cons second others =>
      have admitted : context.Admits (.union (first :: second :: others)) :=
        { components := allKnown
          flat := fun members same => by
            cases same
            exact ⟨List.cons_ne_nil _ _, single⟩
          fresh := fun _ _ _ same => by cases same }
      refine ⟨.intern formed admitted fun _ _ _ same => (by cases same),
        fun isEmpty => (notEmpty isEmpty).elim, fun _ member => ?_⟩
      rw [unionMembers_of_union (TypeM.get?_intern formed.inStep _)]
      exact members member

/-- The union of known types is known. -/
theorem WellFormed.knows_union (formed : context.WellFormed) {types : List TypeId}
    (known : ∀ type ∈ types, context.Knows type) :
    (TypeM.union types context).2.Knows (TypeM.union types context).1 := by
  obtain ⟨extension, empty, members⟩ := formed.union_spec known
  by_cases isEmpty : types = []
  · rw [empty isEmpty]
    exact extension.formed.starts.knows (by decide)
  by_cases union : (TypeM.union types context).2.IsUnion (TypeM.union types context).1
  · obtain ⟨_, found⟩ := union
    exact knows_of_get? found
  · have among := List.mem_singleton_self (TypeM.union types context).1
    rw [← unionMembers_of_not_isUnion union, members isEmpty] at among
    obtain ⟨type, given, inside⟩ := among
    exact extension.grows.knows (formed.knows_member (known type given) inside)

/-- A union that is built again in a later context is found there. -/
theorem WellFormed.union_again (formed : context.WellFormed) {later : TypeContext}
    (laterFormed : later.WellFormed) {types : List TypeId}
    (known : ∀ type ∈ types, context.Knows type)
    (grows : (TypeM.union types context).2.Grows later) :
    TypeM.union types later = ((TypeM.union types context).1, later) := by
  have whole := (formed.union_spec known).1.grows.trans grows
  have same : types.flatMap later.unionMembers = types.flatMap context.unionMembers :=
    List.flatMap_congr fun type listed => whole.unionMembers_eq (known type listed)
  rw [TypeM.union_eq types context] at grows ⊢
  rw [TypeM.union_eq, same]
  cases normal : TypeM.normalizeMembers (types.flatMap context.unionMembers) with
  | nil => rfl
  | cons first rest =>
    cases rest with
    | nil => rfl
    | cons second others =>
      rw [normal] at grows
      have found :=
        grows.get? (TypeM.get?_intern formed.inStep (.union (first :: second :: others)))
      rcases TypeM.intern_cases (.union (first :: second :: others)) later with
        ⟨id, present, unchanged⟩ | ⟨missing, -⟩
      · dsimp only
        rw [unchanged, laterFormed.inStep.injective ((laterFormed.inStep _ _).mpr present) found]
      · exact (laterFormed.inStep.get?_ne missing _ found).elim

/-- A type is the least upper bound of some types. What is no union is below it only if it is below
one of them. -/
structure IsJoin (context : TypeContext) (types : List TypeId) (join : TypeId) : Prop where
  least : ∀ target, context.Knows target → (context.isAssignable join target = true ↔
    ∀ type ∈ types, context.isAssignable type target = true)
  upper : ∀ source, ∀ type ∈ types, context.isAssignable source type = true →
    context.isAssignable source join = true
  prime : types ≠ [] → ∀ source, ¬ context.IsUnion source →
    context.isAssignable source join = true →
      ∃ type ∈ types, context.isAssignable source type = true

/-- The empty type is the least upper bound of no types. -/
theorem WellFormed.isJoin_never (formed : context.WellFormed) : context.IsJoin [] .never where
  least target known := by
    have isNever : context.get? .never = some .never := formed.get?_builtin rfl
    exact iff_of_true (formed.isAssignable_of_any_or_never (.inr isNever) known)
      fun type listed => by cases listed
  upper source type listed := by cases listed
  prime notEmpty := (notEmpty rfl).elim

/-- A type with the members of some types is their least upper bound. -/
theorem WellFormed.isJoin_of_members (formed : context.WellFormed) {types : List TypeId}
    {join : TypeId} (members : ∀ member, member ∈ context.unionMembers join ↔
      ∃ type ∈ types, member ∈ context.unionMembers type) : context.IsJoin types join where
  least target known := by
    rw [formed.isAssignable_iff_forall_member]
    constructor
    · intro assigned type listed
      rw [formed.isAssignable_iff_forall_member]
      exact fun member among => assigned member ((members member).mpr ⟨type, listed, among⟩)
    · intro assigned member among
      obtain ⟨type, listed, among⟩ := (members member).mp among
      exact (formed.isAssignable_iff_forall_member type target).mp (assigned type listed) member
        among
  upper source type listed assigned := by
    rw [formed.isAssignable_iff_forall_member] at assigned ⊢
    intro atom among
    have single := formed.not_isUnion_member among
    obtain ⟨member, inside, accepted⟩ :=
      (formed.isAssignable_iff_exists_member single type).mp (assigned atom among)
    exact (formed.isAssignable_iff_exists_member single join).mpr
      ⟨member, (members member).mpr ⟨type, listed, inside⟩, accepted⟩
  prime _ source single assigned := by
    obtain ⟨member, among, accepted⟩ :=
      (formed.isAssignable_iff_exists_member single join).mp assigned
    obtain ⟨type, listed, inside⟩ := (members member).mp among
    exact ⟨type, listed,
      (formed.isAssignable_iff_exists_member single type).mpr ⟨member, inside, accepted⟩⟩

/-- The union of known types is their least upper bound. -/
theorem WellFormed.isJoin_union (formed : context.WellFormed) {types : List TypeId}
    (known : ∀ type ∈ types, context.Knows type) :
    (TypeM.union types context).2.IsJoin types (TypeM.union types context).1 := by
  obtain ⟨extension, empty, members⟩ := formed.union_spec known
  by_cases isEmpty : types = []
  · rw [empty isEmpty]
    subst isEmpty
    exact extension.formed.isJoin_never
  · refine extension.formed.isJoin_of_members fun member => ?_
    rw [members isEmpty member]
    refine exists_congr fun type => and_congr_right fun listed => ?_
    rw [extension.grows.unionMembers_eq (known type listed)]

end TypeContext

end DataclassSynthesis
