import DataclassSynthesis.Proofs.ReachedTypes
import Mathlib.Data.List.Zip

/-!
# Types with unknown parts

A type is blurred when the unknown type takes the place of some of its parts, at whatever depth. A
type and what it is blurred to are assignable to each other as long as the arguments of containers
are only kept or blurred as a whole, because containers compare their arguments by identity
(`DataclassSynthesis.TypeContext.Blurred.isAssignable`). For containers this restriction is exact:
an argument that is blurred in its inside matches neither way
(`DataclassSynthesis.TypeContext.Blurred.asWhole_of_isAssignable`).
-/

namespace DataclassSynthesis

namespace TypeContext

variable {context : TypeContext}

/-- The second type is the first one with the unknown type in place of some of its parts. Unions are
built anew from what becomes of their members, and `allowed` restricts what may become of the
arguments of containers. -/
inductive Blurred (context : TypeContext) (allowed : TypeId → TypeId → Prop) :
    TypeId → TypeId → Prop
  | same (id : TypeId) : Blurred context allowed id id
  | unknown (id : TypeId) : Blurred context allowed id .any
  | container {id other : TypeId} {qualified : String} {arguments others : List TypeId}
      (found : context.get? id = some (.container qualified arguments))
      (alsoFound : context.get? other = some (.container qualified others))
      (aligned : arguments.length = others.length)
      (parts : ∀ pair ∈ arguments.zip others, Blurred context allowed pair.1 pair.2)
      (restricted : ∀ pair ∈ arguments.zip others, allowed pair.1 pair.2) :
      Blurred context allowed id other
  | union {id other : TypeId} {members others : List TypeId}
      (found : context.get? id = some (.union members)) (aligned : members.length = others.length)
      (parts : ∀ pair ∈ members.zip others, Blurred context allowed pair.1 pair.2)
      (rebuilt : TypeM.union others context = (other, context)) : Blurred context allowed id other
  | callable {id other : TypeId} {parameters others : List TypeId} {result otherResult : TypeId}
      {required : Nat} (found : context.get? id = some (.callable parameters result required))
      (alsoFound : context.get? other = some (.callable others otherResult required))
      (aligned : parameters.length = others.length)
      (parts : ∀ pair ∈ parameters.zip others, Blurred context allowed pair.1 pair.2)
      (results : Blurred context allowed result otherResult) : Blurred context allowed id other

/-- Arguments of containers may be blurred in any way. -/
def InAnyWay (_ _ : TypeId) : Prop := True

/-- An argument of a container is kept, or the unknown type takes its place. -/
def AsWhole (part other : TypeId) : Prop := other = part ∨ other = .any

/-- What relates the pairs of two lists relates them the other way round. -/
theorem forall_zip_swap {α : Type} {left right : List α} (related : α → α → Prop)
    (forth : ∀ pair ∈ left.zip right, related pair.1 pair.2) :
    ∀ pair ∈ right.zip left, related pair.2 pair.1 := by
  intro pair member
  rw [← List.zip_swap] at member
  obtain ⟨swapped, listed, rfl⟩ := List.mem_map.mp member
  exact forth swapped listed

/-- An item of a list has a partner in a list of the same length. -/
theorem exists_mem_zip_left {α : Type} {left right : List α} (aligned : left.length = right.length)
    {item : α} (member : item ∈ left) : ∃ other, (item, other) ∈ left.zip right := by
  rw [← List.map_fst_zip (Nat.le_of_eq aligned)] at member
  obtain ⟨⟨_, other⟩, listed, rfl⟩ := List.mem_map.mp member
  exact ⟨other, listed⟩

theorem exists_mem_zip_right {α : Type} {left right : List α} (aligned : left.length = right.length)
    {item : α} (member : item ∈ right) : ∃ other, (other, item) ∈ left.zip right := by
  rw [← List.map_snd_zip (Nat.le_of_eq aligned.symm)] at member
  obtain ⟨⟨other, _⟩, listed, rfl⟩ := List.mem_map.mp member
  exact ⟨other, listed⟩

/-- Applications of one container to equally many arguments match when the arguments do. -/
theorem containersMatch_iff {qualified : String} {arguments others : List TypeId}
    (aligned : arguments.length = others.length) :
    context.containersMatch qualified qualified arguments others = true ↔
      ∀ pair ∈ arguments.zip others, context.argumentsMatch pair.1 pair.2 = true := by
  cases arguments with
  | nil => simp [containersMatch]
  | cons first rest =>
    cases others with
    | nil => cases aligned
    | cons other more => simp [containersMatch, aligned]

namespace WellFormed

variable {id other : TypeId}

/-- The only identifier of the unknown type is the built-in one. -/
theorem isAny_iff (formed : context.WellFormed) : context.isAny id = true ↔ id = .any := by
  have isAny : context.get? .any = some .any := formed.get?_builtin rfl
  rw [TypeContext.isAny, beq_iff_eq]
  constructor
  · intro found
    exact formed.inStep.injective found isAny
  · rintro rfl
    exact isAny

/-- Two arguments match when they are the same or one of them is unknown. -/
theorem argumentsMatch_iff (formed : context.WellFormed) :
    context.argumentsMatch id other = true ↔ id = other ∨ id = .any ∨ other = .any := by
  simp only [argumentsMatch, Bool.or_eq_true, beq_iff_eq, formed.isAny_iff, or_assoc]

/-- Whether container arguments match does not depend on their order. -/
theorem argumentsMatch_comm (formed : context.WellFormed) :
    context.argumentsMatch id other = true ↔ context.argumentsMatch other id = true := by
  rw [formed.argumentsMatch_iff, formed.argumentsMatch_iff]
  exact or_congr eq_comm or_comm

/-- Applications of one container match in both directions or in none. -/
theorem containersMatch_comm (formed : context.WellFormed) {qualified : String}
    {arguments others : List TypeId} (aligned : arguments.length = others.length) :
    context.containersMatch qualified qualified others arguments = true ↔
      context.containersMatch qualified qualified arguments others = true := by
  rw [containersMatch_iff aligned, containersMatch_iff aligned.symm]
  constructor
  · intro matched pair member
    exact formed.argumentsMatch_comm.mp (forall_zip_swap
      (fun part other => context.argumentsMatch part other = true) matched pair member)
  · intro matched pair member
    exact formed.argumentsMatch_comm.mp (forall_zip_swap
      (fun part other => context.argumentsMatch part other = true) matched pair member)

/-- What is assignable to a member of a union is assignable to the union. -/
theorem isAssignable_union (formed : context.WellFormed) {source : TypeId} {members : List TypeId}
    (found : context.get? id = some (.union members)) {member : TypeId} (among : member ∈ members)
    (assigned : context.isAssignable source member = true) :
    context.isAssignable source id = true := by
  have joins : context.IsJoin members id := by
    apply formed.isJoin_of_members
    intro atom
    rw [unionMembers_of_union found]
    constructor
    · intro listed
      refine ⟨atom, listed, ?_⟩
      rw [unionMembers_of_not_isUnion ((formed.flat id members found).2 atom listed)]
      exact List.mem_singleton_self atom
    · rintro ⟨type, listed, inside⟩
      rw [unionMembers_of_not_isUnion ((formed.flat id members found).2 type listed),
        List.mem_singleton] at inside
      exact inside ▸ listed
  exact joins.upper source member among assigned

end WellFormed

namespace Blurred

variable {allowed : TypeId → TypeId → Prop} {id other : TypeId}

/-- A blurred identifier is known if the original one is. -/
theorem knows (formed : context.WellFormed) (blurred : context.Blurred allowed id other)
    (known : context.Knows id) : context.Knows other := by
  induction blurred with
  | same => exact known
  | unknown => exact formed.starts.knows (by decide)
  | container _ alsoFound => exact knows_of_get? alsoFound
  | callable _ alsoFound => exact knows_of_get? alsoFound
  | @union id other members others found aligned _ rebuilt ih =>
    have othersKnown : ∀ type ∈ others, context.Knows type := by
      intro type listed
      obtain ⟨member, paired⟩ := exists_mem_zip_right aligned listed
      exact ih _ paired (formed.knows_component found (List.of_mem_zip paired).1)
    have built := formed.knows_union othersKnown
    rw [rebuilt] at built
    exact built

/-- What is blurred in a context is so however the context grows. -/
theorem grows (formed : context.WellFormed) {later : TypeContext} (laterFormed : later.WellFormed)
    (grows : context.Grows later) (blurred : context.Blurred allowed id other)
    (known : context.Knows id) : later.Blurred allowed id other := by
  induction blurred with
  | same id => exact .same id
  | unknown id => exact .unknown id
  | container found alsoFound aligned _ restricted ih =>
    refine .container (grows.get? found) (grows.get? alsoFound) aligned ?_ restricted
    intro pair paired
    exact ih pair paired (formed.knows_component found (List.of_mem_zip paired).1)
  | @union id other members others found aligned parts rebuilt ih =>
    have partsKnown : ∀ pair ∈ members.zip others, context.Knows pair.1 := by
      intro pair paired
      exact formed.knows_component found (List.of_mem_zip paired).1
    have again : TypeM.union others later = (other, later) := by
      have built := @formed.union_again _ _ laterFormed others
      rw [rebuilt] at built
      refine built ?_ grows
      intro type listed
      obtain ⟨member, paired⟩ := exists_mem_zip_right aligned listed
      exact (parts _ paired).knows formed (partsKnown _ paired)
    exact .union (grows.get? found) aligned
      (fun pair paired => ih pair paired (partsKnown pair paired)) again
  | callable found alsoFound aligned _ _ ih ihResult =>
    refine .callable (grows.get? found) (grows.get? alsoFound) aligned ?_
      (ihResult (formed.knows_component found List.mem_cons_self))
    intro pair paired
    exact ih pair paired
      (formed.knows_component found (List.mem_cons_of_mem _ (List.of_mem_zip paired).1))

/-- The unknown type is blurred to itself only. -/
theorem eq_any (formed : context.WellFormed) (blurred : context.Blurred allowed .any other) :
    other = .any := by
  have isAny : context.get? .any = some .any := formed.get?_builtin rfl
  cases blurred with
  | same => rfl
  | unknown => rfl
  | container found | union found | callable found =>
    rw [isAny] at found
    cases found

/-- A type and what it is blurred to are assignable to each other if the arguments of containers are
kept or blurred as a whole. -/
theorem isAssignable (formed : context.WellFormed) (blurred : context.Blurred AsWhole id other)
    (known : context.Knows id) :
    context.isAssignable id other = true ∧ context.isAssignable other id = true := by
  have isAny : context.get? .any = some .any := formed.get?_builtin rfl
  -- Both directions go together, since the parameters of functions change sides.
  induction blurred with
  | same id => exact ⟨context.isAssignable_refl id, context.isAssignable_refl id⟩
  | unknown id =>
    exact ⟨formed.isAssignable_any known isAny,
      formed.isAssignable_of_any_or_never (.inl isAny) known⟩
  | @container id other qualified arguments others found alsoFound aligned _ restricted _ =>
    have matched : context.containersMatch qualified qualified arguments others = true := by
      rw [containersMatch_iff aligned]
      intro pair member
      rw [formed.argumentsMatch_iff]
      exact (restricted pair member).elim (fun kept => .inl kept.symm)
        fun blank => .inr (.inr blank)
    rw [isAssignable_iff formed found alsoFound, isAssignable_iff formed alsoFound found]
    exact ⟨.inr matched, .inr ((formed.containersMatch_comm aligned).mpr matched)⟩
  | @union id other members others found aligned parts rebuilt ih =>
    have matched : ∀ pair ∈ members.zip others, context.isAssignable pair.1 pair.2 = true ∧
        context.isAssignable pair.2 pair.1 = true := by
      intro pair paired
      exact ih pair paired (formed.knows_component found (List.of_mem_zip paired).1)
    have othersKnown : ∀ type ∈ others, context.Knows type := by
      intro type listed
      obtain ⟨member, paired⟩ := exists_mem_zip_right aligned listed
      exact (parts _ paired).knows formed (formed.knows_component found (List.of_mem_zip paired).1)
    have joins := formed.isJoin_union othersKnown
    rw [rebuilt] at joins
    constructor
    · rw [formed.isAssignable_iff_forall_member, unionMembers_of_union found]
      intro member listed
      obtain ⟨replaced, paired⟩ := exists_mem_zip_left aligned listed
      exact joins.upper member replaced (List.of_mem_zip paired).2 (matched _ paired).1
    · rw [joins.least id known]
      intro replaced listed
      obtain ⟨member, paired⟩ := exists_mem_zip_right aligned listed
      exact formed.isAssignable_union found (List.of_mem_zip paired).1 (matched _ paired).2
  | @callable id other parameters others result otherResult required found alsoFound aligned _ _ ih
      ihResult =>
    have resultMatched := ihResult (formed.knows_component found List.mem_cons_self)
    have matched : ∀ pair ∈ parameters.zip others, context.isAssignable pair.1 pair.2 = true ∧
        context.isAssignable pair.2 pair.1 = true := by
      intro pair paired
      exact ih pair paired
        (formed.knows_component found (List.mem_cons_of_mem _ (List.of_mem_zip paired).1))
    rw [isAssignable_iff formed found alsoFound, isAssignable_iff formed alsoFound found]
    refine ⟨.inr ⟨aligned, ?_, resultMatched.1⟩, .inr ⟨aligned.symm, ?_, resultMatched.2⟩⟩
    · intro pair paired
      exact (matched pair paired).2
    · intro pair paired
      exact forall_zip_swap (fun mine theirs => context.isAssignable mine theirs = true)
        (fun pair paired => (matched pair paired).1) pair paired

/-- If the arguments of two containers match where one of them is blurred, it is blurred as a
whole. -/
theorem asWhole_of_argumentsMatch (formed : context.WellFormed)
    (blurred : context.Blurred allowed id other)
    (matched : context.argumentsMatch id other = true) : AsWhole id other := by
  rcases formed.argumentsMatch_iff.mp matched with rfl | rfl | blank
  · exact .inl rfl
  · exact .inr (blurred.eq_any formed)
  · exact .inr blank

/-- An identifier that is blurred as a whole is blurred. -/
theorem of_asWhole (whole : AsWhole id other) : context.Blurred AsWhole id other := by
  rcases whole with rfl | rfl
  · exact .same _
  · exact .unknown id

/-- A container and what it is blurred to are assignable in one direction at least only if the
arguments are kept or blurred as a whole. -/
theorem asWhole_of_isAssignable (formed : context.WellFormed) {qualified : String}
    {arguments : List TypeId} (found : context.get? id = some (.container qualified arguments))
    (blurred : context.Blurred InAnyWay id other)
    (assigned : context.isAssignable id other = true ∨ context.isAssignable other id = true) :
    context.Blurred AsWhole id other := by
  cases blurred with
  | same => exact .same id
  | unknown => exact .unknown id
  | union unionFound =>
    rw [found] at unionFound
    cases unionFound
  | callable callableFound =>
    rw [found] at callableFound
    cases callableFound
  | @container _ _ _ _ others alsoFound otherFound aligned parts _ =>
    rw [found] at alsoFound
    cases alsoFound
    have matched : id = other ∨
        context.containersMatch qualified qualified arguments others = true := by
      rcases assigned with forth | back
      · exact (isAssignable_iff formed found otherFound).mp forth
      · exact ((isAssignable_iff formed otherFound found).mp back).imp Eq.symm
          (formed.containersMatch_comm aligned).mp
    rcases matched with rfl | matched
    · exact .same id
    rw [containersMatch_iff aligned] at matched
    have whole : ∀ pair ∈ arguments.zip others, AsWhole pair.1 pair.2 := by
      intro pair member
      exact (parts pair member).asWhole_of_argumentsMatch formed (matched pair member)
    exact .container found otherFound aligned (fun pair member => of_asWhole (whole pair member))
      whole

end Blurred

end TypeContext

open TypeContext

section

variable {config : WarningConfig} {state : Analysis}

/-- In a reached state a known type and what it is blurred to are assignable to each other, as long
as arguments of containers are kept or blurred as a whole. A container that is blurred in any other
way matches in neither direction. -/
theorem Reaches.blurred_isAssignable
    (reached : Reaches Operation.Known (Analysis.initial config) state) {id : TypeId}
    (known : state.types.Knows id) :
    (∀ other, state.types.Blurred AsWhole id other →
      state.types.isAssignable id other = true ∧ state.types.isAssignable other id = true) ∧
    ∀ qualified arguments, state.types.get? id = some (.container qualified arguments) →
      ∀ other, state.types.Blurred InAnyWay id other →
        (state.types.isAssignable id other = true ↔ state.types.Blurred AsWhole id other) ∧
          (state.types.isAssignable other id = true ↔ state.types.Blurred AsWhole id other) := by
  have formed := reached.coherent.formed
  refine ⟨fun other blurred => blurred.isAssignable formed known, ?_⟩
  intro qualified arguments found other blurred
  constructor
  · constructor
    · intro forth
      exact blurred.asWhole_of_isAssignable formed found (.inl forth)
    · intro whole
      exact (whole.isAssignable formed known).1
  · constructor
    · intro back
      exact blurred.asWhole_of_isAssignable formed found (.inr back)
    · intro whole
      exact (whole.isAssignable formed known).2

end

namespace Sample

/-- The state after `Optional[Base]`, with a function from it to `list[int]`, with the same function
where `Base` and `int` are unknown, and with lists of both kinds of lists. -/
def unknownParts : Analysis :=
  let listed := Operation.run optionalBase (.container Container.list.qualified [.int])
  let declared := Operation.run listed (.callable [⟨19⟩] ⟨20⟩ 1)
  let rebuilt := Operation.run declared (.union [.none, .any])
  let blank := Operation.run rebuilt (.container Container.list.qualified [.any])
  let blurred := Operation.run blank (.callable [⟨22⟩] ⟨23⟩ 1)
  let nested := Operation.run blurred (.container Container.list.qualified [⟨20⟩])
  Operation.run nested (.container Container.list.qualified [⟨23⟩])

theorem reaches_unknownParts : Reaches Operation.Known (.initial .standard) unknownParts :=
  .step (.step (.step (.step (.step (.step (.step reaches_optionalBase
    (.container _ [.int]) (by decide)) (.callable [⟨19⟩] ⟨20⟩ 1) (by decide))
    (.union [.none, .any]) (by decide)) (.container _ [.any]) (by decide))
    (.callable [⟨22⟩] ⟨23⟩ 1) (by decide)) (.container _ [⟨20⟩]) (by decide))
    (.container _ [⟨23⟩]) (by decide)

/-- The function from `Optional[Base]` to `list[int]` is blurred in its parameter and its result. -/
theorem blurred_function : unknownParts.types.Blurred AsWhole ⟨21⟩ ⟨24⟩ := by
  have isOptional : unknownParts.types.get? ⟨19⟩ = some (.union [.none, ⟨17⟩]) := rfl
  have parameter : unknownParts.types.Blurred AsWhole ⟨19⟩ ⟨22⟩ := by
    have rebuilt : TypeM.union [.none, .any] unknownParts.types = (⟨22⟩, unknownParts.types) := rfl
    have aligned : [TypeId.none, ⟨17⟩].length = [TypeId.none, .any].length := rfl
    refine .union isOptional aligned ?_ rebuilt
    exact List.forall_mem_cons.mpr ⟨.same _, List.forall_mem_singleton.mpr (.unknown _)⟩
  have isList : unknownParts.types.get? ⟨20⟩ =
      some (.container Container.list.qualified [.int]) := rfl
  have result : unknownParts.types.Blurred AsWhole ⟨20⟩ ⟨23⟩ := by
    refine .container isList rfl rfl ?_ ?_
    · exact List.forall_mem_singleton.mpr (.unknown _)
    · exact List.forall_mem_singleton.mpr (.inr rfl)
  have isFunction : unknownParts.types.get? ⟨21⟩ = some (.callable [⟨19⟩] ⟨20⟩ 1) := rfl
  refine .callable isFunction rfl rfl ?_ result
  exact List.forall_mem_singleton.mpr parameter

/-- The list of lists of integers is blurred in the inside of its argument. -/
theorem blurred_lists : unknownParts.types.Blurred InAnyWay ⟨25⟩ ⟨26⟩ := by
  have isInner : unknownParts.types.get? ⟨20⟩ = some (.container Container.list.qualified [.int]) :=
    rfl
  have inner : unknownParts.types.Blurred InAnyWay ⟨20⟩ ⟨23⟩ :=
    .container isInner rfl rfl (List.forall_mem_singleton.mpr (.unknown _)) fun _ _ => trivial
  have isOuter : unknownParts.types.get? ⟨25⟩ = some (.container Container.list.qualified [⟨20⟩]) :=
    rfl
  exact .container isOuter rfl rfl (List.forall_mem_singleton.mpr inner) fun _ _ => trivial

/-- The function matches its blurred form in both directions, and whether the lists of lists match
is decided by whether their arguments are blurred as a whole. -/
theorem blurred_function_isAssignable :
    (unknownParts.types.isAssignable ⟨21⟩ ⟨24⟩ = true ∧
      unknownParts.types.isAssignable ⟨24⟩ ⟨21⟩ = true) ∧
    (unknownParts.types.isAssignable ⟨25⟩ ⟨26⟩ = true ↔
      unknownParts.types.Blurred AsWhole ⟨25⟩ ⟨26⟩) := by
  have isFunction : unknownParts.types.Knows ⟨21⟩ := by decide
  have isLists : unknownParts.types.Knows ⟨25⟩ := by decide
  have function := reaches_unknownParts.blurred_isAssignable isFunction
  have lists := reaches_unknownParts.blurred_isAssignable isLists
  exact ⟨function.1 ⟨24⟩ blurred_function, (lists.2 _ [⟨20⟩] rfl ⟨26⟩ blurred_lists).1⟩

/-- `list[list[int]]` and `list[list[Any]]` match in neither direction. -/
theorem lists_blurred_inside_apart :
    Reaches Operation.Known (.initial .standard) unknownParts ∧
      unknownParts.types.Knows ⟨25⟩ ∧ unknownParts.types.Blurred InAnyWay ⟨25⟩ ⟨26⟩ ∧
      unknownParts.types.isAssignable ⟨25⟩ ⟨26⟩ = false ∧
      unknownParts.types.isAssignable ⟨26⟩ ⟨25⟩ = false :=
  ⟨reaches_unknownParts, by decide, blurred_lists, by decide, by decide⟩

end Sample

end DataclassSynthesis
