import DataclassSynthesis.Proofs.ReachedTypes
import DataclassSynthesis.Proofs.TypeEnlargement

/-!
# One form for each union

Every union that a reached context holds has several members, in increasing order, and no member is
a union. So the union of types depends on their members only: two unions that are built one after
the other are the same type exactly when they have the same members, in whatever order, repetition
and grouping they are given (`DataclassSynthesis.Reaches.unions_canonical`).
-/

namespace DataclassSynthesis

open TypeContext

/-- All types of a context are canonical. -/
def TypeContext.Canonical (context : TypeContext) : Prop := ∀ type ∈ context.types, type.Canonical

namespace TypeContext.Canonical

variable {context : TypeContext}

theorem initial : initial.Canonical := by
  have builtin : ∀ type ∈ TypeContext.initial.types, ∀ members, type ≠ .union members := by
    simp [TypeContext.initial, builtins, Scalar.all, Container.all]
  intro type listed
  cases type with
  | union members => exact (builtin _ listed members rfl).elim
  | _ => trivial

/-- Adding a canonical type keeps the unions canonical. -/
theorem intern (canonical : context.Canonical) {type : Ty} (added : type.Canonical) :
    (TypeM.intern type context).2.Canonical := by
  rcases TypeM.intern_cases type context with ⟨id, -, same⟩ | ⟨-, appended⟩
  · rw [same]
    exact canonical
  · rw [appended]
    intro other listed
    rcases List.mem_append.mp listed with before | new
    · exact canonical other before
    · exact List.mem_singleton.mp new ▸ added

theorem of_interns {after : TypeContext} (canonical : context.Canonical)
    (interns : context.Interns after) : after.Canonical := by
  induction interns with
  | refl => exact canonical
  | step _ added ih => exact ih.intern added

end TypeContext.Canonical

/-- Every operation keeps the types canonical. -/
theorem Operation.canonical_run {state : Analysis} (ordered : state.classes.BasesFirst)
    (canonical : state.types.Canonical) (operation : Operation) :
    (operation.run state).types.Canonical := by
  rcases operation.interns_run ordered with ⟨definition, rfl⟩ | interns
  · rw [run, AnalysisM.stateAfter_define]
    split
    · next bases _ =>
      have added : (Ty.nominal state.classes.nextId definition.name
          (if bases.isEmpty then [.object] else bases)).Canonical := trivial
      exact canonical.intern added
    · exact canonical
  · exact canonical.of_interns interns

/-- In every reached state the types are canonical. -/
theorem Reaches.canonical {admits : Analysis → Operation → Prop} {config : WarningConfig}
    {state : Analysis} (reached : Reaches admits (Analysis.initial config) state) :
    state.types.Canonical := by
  induction reached with
  | refl => exact Canonical.initial
  | step reached operation _ ih => exact operation.canonical_run reached.basesFirst ih

namespace TypeM

/-- The distinct members of a list depend on which members there are, and not on the list. -/
theorem normalizeMembers_congr {first second : List TypeId}
    (same : ∀ member, member ∈ first ↔ member ∈ second) :
    normalizeMembers first = normalizeMembers second := by
  have distinct : ∀ ids, (normalizeMembers ids).Nodup := fun ids => by
    refine (pairwise_normalizeMembers ids).imp ?_
    rintro earlier later below rfl
    exact Nat.lt_irrefl earlier.index below
  have permuted : (normalizeMembers first).Perm (normalizeMembers second) := by
    refine (List.perm_ext_iff_of_nodup (distinct first) (distinct second)).mpr fun member => ?_
    rw [mem_normalizeMembers, mem_normalizeMembers, same]
  exact permuted.eq_of_pairwise
    (fun _ _ _ _ below above => (Nat.lt_asymm below above).elim)
    (pairwise_normalizeMembers first) (pairwise_normalizeMembers second)

/-- Two computations that run one after the other give the same type. -/
def Agree (first second : TypeM TypeId) (context : TypeContext) : Prop :=
  (second (first context).2).1 = (first context).1

/-- The union of some types, joined with further types. -/
def unionOnto (first rest : List TypeId) : TypeM TypeId := do
  let whole ← union first
  union (whole :: rest)

end TypeM

namespace TypeContext

/-- The types of two lists have the same members, where a union stands for its members and every
other type for itself. -/
def SameMembers (context : TypeContext) (first second : List TypeId) : Prop :=
  ∀ member, (∃ type ∈ first, member ∈ context.unionMembers type) ↔
    ∃ type ∈ second, member ∈ context.unionMembers type

variable {context later : TypeContext} {first second rest : List TypeId}

/-- Having the same members is kept when the types grow. -/
theorem SameMembers.of_grows (same : context.SameMembers first second)
    (isKnown : ∀ type ∈ first, context.Knows type) (alsoKnown : ∀ type ∈ second, context.Knows type)
    (grows : context.Grows later) : later.SameMembers first second := by
  have kept : ∀ types : List TypeId, (∀ type ∈ types, context.Knows type) → ∀ member,
      (∃ type ∈ types, member ∈ later.unionMembers type) ↔
        ∃ type ∈ types, member ∈ context.unionMembers type := fun types known member =>
    exists_congr fun type => and_congr_right fun listed => by
      rw [grows.unionMembers_eq (known type listed)]
  intro member
  rw [kept first isKnown, kept second alsoKnown, same]

/-- Lists with the same members have the same union. -/
theorem SameMembers.union_eq (same : context.SameMembers first second) :
    TypeM.union first context = TypeM.union second context := by
  have normal : TypeM.normalizeMembers (first.flatMap context.unionMembers) =
      TypeM.normalizeMembers (second.flatMap context.unionMembers) :=
    TypeM.normalizeMembers_congr fun member => by
      rw [List.mem_flatMap, List.mem_flatMap, same]
  rw [TypeM.union_eq, TypeM.union_eq, normal]

namespace WellFormed

variable (formed : context.WellFormed)

include formed

/-- Over lists with the same members the unions are built alike. -/
theorem agree_union_of_sameMembers (isKnown : ∀ type ∈ first, context.Knows type)
    (alsoKnown : ∀ type ∈ second, context.Knows type) (same : context.SameMembers first second) :
    TypeM.Agree (TypeM.union first) (TypeM.union second) context := by
  have extension := (formed.union_spec isKnown).1
  rw [TypeM.Agree, ← (same.of_grows isKnown alsoKnown extension.grows).union_eq,
    formed.union_again extension.formed isKnown (.refl _)]

/-- Two unions that are built one after the other are the same type exactly when they have the same
members. -/
theorem agree_union_iff (isKnown : ∀ type ∈ first, context.Knows type)
    (alsoKnown : ∀ type ∈ second, context.Knows type) (nonempty : first ≠ [])
    (alsoNonempty : second ≠ []) :
    TypeM.Agree (TypeM.union first) (TypeM.union second) context ↔
      context.SameMembers first second := by
  refine ⟨fun agree member => ?_, formed.agree_union_of_sameMembers isKnown alsoKnown⟩
  obtain ⟨extension, -, members⟩ := formed.union_spec isKnown
  have laterKnown : ∀ type ∈ second, (TypeM.union first context).2.Knows type :=
    fun type listed => extension.grows.knows (alsoKnown type listed)
  obtain ⟨further, -, laterMembers⟩ := extension.formed.union_spec laterKnown
  calc (∃ type ∈ first, member ∈ context.unionMembers type)
      ↔ member ∈ (TypeM.union first context).2.unionMembers (TypeM.union first context).1 :=
        (members nonempty member).symm
    _ ↔ member ∈ (TypeM.union second (TypeM.union first context).2).2.unionMembers
          (TypeM.union first context).1 := by
        rw [further.grows.unionMembers_eq (formed.knows_union isKnown)]
    _ ↔ ∃ type ∈ second, member ∈ (TypeM.union first context).2.unionMembers type := by
        rw [← laterMembers alsoNonempty member, agree]
    _ ↔ ∃ type ∈ second, member ∈ context.unionMembers type :=
        exists_congr fun type => and_congr_right fun listed => by
          rw [extension.grows.unionMembers_eq (alsoKnown type listed)]

/-- The union of some types has the same members as these types, also among further ones. -/
theorem sameMembers_grouped (isKnown : ∀ type ∈ first, context.Knows type)
    (nonempty : first ≠ []) :
    (TypeM.union first context).2.SameMembers ((TypeM.union first context).1 :: rest)
      (first ++ rest) := by
  obtain ⟨extension, -, members⟩ := formed.union_spec isKnown
  intro member
  simp only [List.mem_cons, List.mem_append, or_and_right, exists_or, exists_eq_left]
  rw [members nonempty member]
  refine or_congr_left (exists_congr fun type => and_congr_right fun listed => ?_)
  rw [extension.grows.unionMembers_eq (isKnown type listed)]

/-- Grouping some of the types does not change a union, whichever is built first. -/
theorem agree_unionOnto (isKnown : ∀ type ∈ first, context.Knows type)
    (restKnown : ∀ type ∈ rest, context.Knows type) (nonempty : first ≠ []) :
    TypeM.Agree (TypeM.unionOnto first rest) (TypeM.union (first ++ rest)) context ∧
      TypeM.Agree (TypeM.union (first ++ rest)) (TypeM.unionOnto first rest) context := by
  have allKnown : ∀ type ∈ first ++ rest, context.Knows type := fun type listed =>
    (List.mem_append.mp listed).elim (isKnown type) (restKnown type)
  constructor
  · have middle := (formed.union_spec isKnown).1
    have wholeKnown := List.forall_mem_cons.mpr
      ⟨formed.knows_union isKnown, fun type listed => middle.grows.knows (restKnown type listed)⟩
    exact middle.formed.agree_union_of_sameMembers wholeKnown
      (fun type listed => middle.grows.knows (allKnown type listed))
      (formed.sameMembers_grouped isKnown nonempty)
  · -- The whole union is there already, and the union of the first types leaves it in place.
    have extension := (formed.union_spec allKnown).1
    have laterKnown : ∀ type ∈ first, (TypeM.union (first ++ rest) context).2.Knows type :=
      fun type listed => extension.grows.knows (isKnown type listed)
    have further := (extension.formed.union_spec laterKnown).1
    have same := (@sameMembers_grouped _ _ rest extension.formed laterKnown nonempty).union_eq
    have again := formed.union_again further.formed allKnown further.grows
    calc (TypeM.unionOnto first rest (TypeM.union (first ++ rest) context).2).1
        = (TypeM.union (first ++ rest)
            (TypeM.union first (TypeM.union (first ++ rest) context).2).2).1 :=
          congrArg Prod.fst same
      _ = (TypeM.union (first ++ rest) context).1 := by rw [again]

end WellFormed

end TypeContext

/-- Unions have one form in every reached state. A union has several members, in increasing order,
and none of them is a union. Two unions that are built one after the other are the same type exactly
when they have the same members. So the order and the repetition of the types do not matter, and
neither does a union among some of them beforehand. -/
theorem Reaches.unions_canonical {config : WarningConfig} {state : Analysis}
    (reached : Reaches Operation.Known (.initial config) state) :
    (∀ id members, state.types.get? id = some (.union members) →
      2 ≤ members.length ∧ (members.Pairwise fun first second => first.index < second.index) ∧
        ∀ member ∈ members, ¬ state.types.IsUnion member) ∧
      (∀ first second, (∀ type ∈ first, state.types.Knows type) →
        (∀ type ∈ second, state.types.Knows type) → first ≠ [] → second ≠ [] →
        (TypeM.Agree (TypeM.union first) (TypeM.union second) state.types ↔
          state.types.SameMembers first second)) ∧
      (∀ first second, (∀ type ∈ first, state.types.Knows type) →
        (∀ type, type ∈ first ↔ type ∈ second) →
        TypeM.Agree (TypeM.union first) (TypeM.union second) state.types) ∧
      ∀ first rest, (∀ type ∈ first, state.types.Knows type) →
        (∀ type ∈ rest, state.types.Knows type) → first ≠ [] →
        TypeM.Agree (TypeM.unionOnto first rest) (TypeM.union (first ++ rest)) state.types ∧
          TypeM.Agree (TypeM.union (first ++ rest)) (TypeM.unionOnto first rest) state.types := by
  have formed := reached.coherent.formed
  refine ⟨fun id members found => ?_,
    fun first second isKnown alsoKnown nonempty alsoNonempty => ?_,
    fun first second isKnown same => ?_, fun first rest isKnown restKnown nonempty => ?_⟩
  · have canonical : (Ty.union members).Canonical :=
      reached.canonical _ (List.mem_of_getElem? found)
    exact ⟨canonical.1, canonical.2, (formed.flat id members found).2⟩
  · exact formed.agree_union_iff isKnown alsoKnown nonempty alsoNonempty
  · refine formed.agree_union_of_sameMembers isKnown
      (fun type listed => isKnown type ((same type).mpr listed)) fun member => ?_
    exact exists_congr fun type => and_congr_left fun _ => same type
  · exact formed.agree_unionOnto isKnown restKnown nonempty

namespace Sample

/-- The optional base class lists the type of `None` and the class in this order, and it is the
union of the two in the other order, also when the subclass joins it afterwards. -/
theorem optionalBase_unions_canonical :
    (¬ optionalBase.types.IsUnion .none ∧ ¬ optionalBase.types.IsUnion ⟨17⟩) ∧
      TypeM.Agree (TypeM.union [.none, ⟨17⟩]) (TypeM.union [⟨17⟩, .none, ⟨17⟩])
        optionalBase.types ∧
      TypeM.Agree (TypeM.unionOnto [⟨17⟩, .none] [⟨18⟩]) (TypeM.union [⟨17⟩, .none, ⟨18⟩])
        optionalBase.types := by
  obtain ⟨form, -, order, grouping⟩ := Reaches.unions_canonical reaches_optionalBase
  have members := (form ⟨19⟩ [.none, ⟨17⟩] (by decide)).2.2
  refine ⟨⟨members .none (by decide), members ⟨17⟩ (by decide)⟩, ?_, ?_⟩
  · exact order _ _ (by decide) (by simp [or_comm])
  · exact (grouping [⟨17⟩, .none] [⟨18⟩] (by decide) (by decide) (by decide)).1

end Sample

end DataclassSynthesis
