import DataclassSynthesis.Proofs.ClassTypes
import DataclassSynthesis.Proofs.NameTable

/-!
# Container names

A bare name is looked up among the names of types, which class statements change, whereas a name
that is applied to arguments is looked up among the containers first. In a reachable state the two
agree about a short name unless a class was given the short name of a container. Then the bare name
denotes the class, and with arguments it still denotes the container
(`DataclassSynthesis.Reachable.brackets_agree_iff`).
-/

namespace DataclassSynthesis

open TypeContext

namespace Container

/-- Every container is found under its short name. -/
theorem find?_short : ∀ container ∈ all, find? container.short = some container := by
  decide

/-- A container that is found has the name, in one of its two forms. -/
theorem named_of_find? {name : String} {container : Container}
    (found : find? name = some container) :
    container ∈ all ∧ (container.short = name ∨ container.qualified = name) := by
  refine ⟨List.mem_of_find?_eq_some found, ?_⟩
  simpa using List.find?_some found

end Container

/-- A name means the same with and without arguments. What it denotes when applied to some is the
container that it denotes bare, and when it denotes something else it cannot be applied. -/
structure TypeContext.BracketsAgree (context : TypeContext) (name : String) : Prop where
  bare : ∀ arguments id after, TypeM.parameterize name arguments context = .ok id after →
    ∃ qualified unapplied, after.get? id = some (.container qualified arguments) ∧
      after.resolve name = .ok unapplied ∧ after.get? unapplied = some (.container qualified [])
  notGeneric : ∀ id, context.resolve name = .ok id →
    (∀ qualified, context.get? id ≠ some (.container qualified [])) →
    ∀ arguments, TypeM.parameterize name arguments context = .error (.notGeneric name) context

namespace TypeM

variable {name : String} {container : Container}

/-- A name that is not that of a container cannot be applied, whether or not it is known. -/
theorem parameterize_of_unlisted (unlisted : Container.find? name = none)
    (arguments : List TypeId) (context : TypeContext) :
    parameterize name arguments context =
      .error (if context.named.contains name then .notGeneric name else .undefined name)
        context := by
  rw [parameterize, unlisted]

/-- The name of a container can be applied to as many arguments as the container takes. -/
theorem parameterize_cases {context : TypeContext} (inStep : context.InStep)
    (listed : Container.find? name = some container) (arguments : List TypeId) :
    (∃ id after, parameterize name arguments context = .ok id after ∧
      after.get? id = some (.container container.qualified arguments) ∧ context.Enlarges after ∧
      ∀ count, container.arity = some count → arguments.length = count) ∨
    ∃ count, container.arity = some count ∧ arguments.length ≠ count ∧
      parameterize name arguments context =
        .error (.argumentCount name count arguments.length) context := by
  obtain ⟨short, qualified, arity⟩ := container
  have applied := get?_intern inStep (.container qualified arguments)
  have enlarges := intern_enlarges (.container qualified arguments) context
  rw [parameterize, listed]
  cases arity with
  | none => exact .inl ⟨_, _, rfl, applied, enlarges, nofun⟩
  | some count =>
    by_cases fits : count = arguments.length
    · refine .inl ⟨_, _, if_pos (beq_iff_eq.mpr fits), applied, enlarges, ?_⟩
      rintro _ ⟨⟩
      exact fits.symm
    · exact .inr ⟨count, rfl, Ne.symm fits, if_neg fun same => fits (beq_iff_eq.mp same)⟩

end TypeM

namespace TypeContext

variable {context : TypeContext} {name : String}

/-- At the start the short name of a container denotes the bare container. -/
theorem initial_short {container : Container} (listed : container ∈ Container.all) :
    ∃ id, initial.named.find? container.short = some id ∧
      initial.get? id = some (.container container.qualified []) := by
  have built : ∀ container ∈ Container.all, (initial.named.find? container.short).bind
      initial.get? = some (.container container.qualified []) := by
    decide
  exact Option.bind_eq_some_iff.mp (built container listed)

/-- A name resolves to what it denotes. -/
theorem resolve_eq_ok_iff {id : TypeId} :
    context.resolve name = .ok id ↔ context.named.find? name = some id := by
  rw [resolve]
  cases context.named.find? name <;> simp

/-- Names that are not those of containers mean the same with and without arguments, as they cannot
be applied. -/
theorem bracketsAgree_of_unlisted (unlisted : Container.find? name = none) :
    context.BracketsAgree name where
  bare arguments id after applied := by
    rw [TypeM.parameterize_of_unlisted unlisted] at applied
    cases applied
  notGeneric id denotes _ arguments := by
    have known : context.named.contains name = true := by
      rw [NameTable.contains_eq_isSome_find?, resolve_eq_ok_iff.mp denotes, Option.isSome_some]
    rw [TypeM.parameterize_of_unlisted unlisted, if_pos known]

/-- The name of a container that denotes the bare container means the same with arguments. -/
theorem bracketsAgree_of_bare (inStep : context.InStep) {container : Container} {id : TypeId}
    (listed : Container.find? name = some container) (denotes : context.resolve name = .ok id)
    (isBare : context.get? id = some (.container container.qualified [])) :
    context.BracketsAgree name where
  bare arguments applied after ran := by
    rcases TypeM.parameterize_cases inStep listed arguments with
      ⟨_, _, succeeds, denoted, enlarges, -⟩ | ⟨_, -, -, fails⟩
    · rw [succeeds] at ran
      cases ran
      exact ⟨container.qualified, id, denoted, (enlarges.resolve name).trans denotes,
        enlarges.grows.get? isBare⟩
    · rw [fails] at ran
      cases ran
  notGeneric other alsoDenotes isOther := by
    rw [denotes] at alsoDenotes
    cases alsoDenotes
    exact absurd isBare (isOther container.qualified)

/-- The name of a container means something else bare when it denotes a type that is no bare
container. -/
theorem not_bracketsAgree_of_taken (inStep : context.InStep) {container : Container}
    {id : TypeId}
    (listed : Container.find? name = some container) (denotes : context.resolve name = .ok id)
    (isOther : ∀ qualified, context.get? id ≠ some (.container qualified [])) :
    ¬ context.BracketsAgree name := by
  intro agrees
  have refused := agrees.notGeneric id denotes isOther []
  rcases TypeM.parameterize_cases inStep listed [] with
    ⟨_, _, succeeds, -⟩ | ⟨_, -, -, fails⟩
  · rw [succeeds] at refused
    cases refused
  · rw [fails] at refused
    cases refused

end TypeContext

/-- The built-in types are there, and names that no class was given denote what they denoted at the
start. -/
structure Analysis.KeepsBuiltins (state : Analysis) : Prop where
  grows : TypeContext.initial.Grows state.types
  named : ∀ name, state.classes.byName? name = none →
    state.types.named.find? name = TypeContext.initial.named.find? name

namespace Analysis.KeepsBuiltins

variable {state after : Analysis}

theorem initial (config : WarningConfig) : (Analysis.initial config).KeepsBuiltins where
  grows := .refl _
  named _ _ := rfl

/-- What adds types, and leaves the headers of the classes alone, keeps the built-in types in
place. -/
theorem of_headers (keeps : state.KeepsBuiltins) (enlarges : state.types.Enlarges after.types)
    (headers : after.classes.headers = state.classes.headers) : after.KeepsBuiltins where
  grows := keeps.grows.trans enlarges.grows
  named name unused := by
    have same := ClassTable.map_header_byName? after.classes name
    rw [unused, headers, ← ClassTable.map_header_byName?] at same
    rw [enlarges.named, keeps.named name (Option.map_eq_none_iff.mp same.symm)]

/-- A class statement only changes what the name of its class denotes. -/
theorem define (keeps : state.KeepsBuiltins) (definition : ClassDefinition)
    (bases : List TypeId) : (state.defined definition bases).KeepsBuiltins := by
  have enlarges := TypeM.intern_enlarges (.nominal state.classes.nextId definition.name
    (if bases.isEmpty then [.object] else bases)) state.types
  refine ⟨keeps.grows.trans (state.grows_defined definition bases), fun name unused => ?_⟩
  rw [Analysis.defined, ClassTable.byName?_push] at unused
  by_cases same : definition.name = name
  · rw [if_pos (by exact same)] at unused
    cases unused
  · rw [if_neg (by exact same)] at unused
    change ((TypeM.intern _ state.types).2.register definition.name
      (TypeM.intern _ state.types).1).named.find? name = _
    rw [register, NameTable.find?_insert_of_ne _ _ (Ne.symm same), enlarges.named,
      keeps.named name unused]

end Analysis.KeepsBuiltins

/-- A move keeps the built-in types in place. -/
theorem Move.keepsBuiltins {state after : Analysis} (move : Move state after)
    (keeps : state.KeepsBuiltins) (ordered : state.classes.BasesFirst) : after.KeepsBuiltins := by
  rcases move.cases ordered with ⟨definition, bases, -, rfl⟩ | ⟨enlarges, headers⟩
  · exact keeps.define definition bases
  · exact keeps.of_headers enlarges headers

/-- The built-in types are in place in every reachable state. -/
theorem Reachable.keepsBuiltins {config : WarningConfig} {state : Analysis}
    (reachable : Reachable config state) : state.KeepsBuiltins := by
  induction reachable with
  | refl => exact .initial config
  | tail earlier move ih =>
    exact move.keepsBuiltins ih (Reachable.classesTyped earlier).2

namespace Analysis.ClassesTyped

variable {state : Analysis} {name : String} {object : ClassObject}

/-- The name of a class denotes a nominal type. -/
theorem nominal_of_byName? (typed : state.ClassesTyped)
    (taken : state.classes.byName? name = some object) :
    ∃ id bases, state.types.get? object.type = some (.nominal id name bases) := by
  have named : object.name = name := by simpa using List.find?_some taken
  have present : object ∈ state.classes.classes :=
    List.mem_reverse.mp (List.mem_of_find?_eq_some taken)
  obtain ⟨index, found⟩ := List.mem_iff_getElem?.mp present
  obtain ⟨bases, -, denoted⟩ := typed.types ⟨index⟩ object found
  exact ⟨_, _, named ▸ denoted⟩

end Analysis.ClassesTyped

/-- In a reachable state a short name means the same with and without arguments exactly when it is
not both that of a container and that of a class. When it is, the bare name denotes the nominal type
of the class that was given the name last. With as many arguments as the container takes the name
still denotes the container, and with another number of them it is reported that the container does
not take so many, never that the name is not that of a container. -/
theorem Reachable.brackets_agree_iff {config : WarningConfig} {state : Analysis}
    (reachable : Reachable config state) {name : String}
    (short : ∀ container ∈ Container.all, name ≠ container.qualified) :
    (state.types.BracketsAgree name ↔ ∀ container ∈ Container.all, container.short = name →
      state.classes.byName? name = none) ∧
    ∀ container ∈ Container.all, container.short = name → ∀ object,
      state.classes.byName? name = some object →
      state.types.resolve name = .ok object.type ∧
      (∃ id bases, state.types.get? object.type = some (.nominal id name bases)) ∧
      ∀ arguments,
        ((∀ count, container.arity = some count → arguments.length = count) →
          ∃ id after, TypeM.parameterize name arguments state.types = .ok id after ∧
            after.get? id = some (.container container.qualified arguments) ∧
            after.resolve name = .ok object.type) ∧
        ∀ count, container.arity = some count → arguments.length ≠ count →
          TypeM.parameterize name arguments state.types =
            .error (.argumentCount name count arguments.length) state.types := by
  have keeps := reachable.keepsBuiltins
  have typed := reachable.classesTyped.1
  refine ⟨⟨?_, ?_⟩, ?_⟩
  · rintro agrees container listed rfl
    by_contra taken
    obtain ⟨object, latest⟩ := Option.ne_none_iff_exists'.mp taken
    obtain ⟨id, bases, nominal⟩ := typed.nominal_of_byName? latest
    refine not_bracketsAgree_of_taken typed.inStep (Container.find?_short container listed)
      (typed.named _ object latest) ?_ agrees
    rw [nominal]
    nofun
  · intro free
    cases found : Container.find? name with
    | none => exact bracketsAgree_of_unlisted found
    | some container =>
      obtain ⟨listed, isShort | isQualified⟩ := Container.named_of_find? found
      · obtain ⟨id, denoted, isBare⟩ := initial_short listed
        rw [isShort, ← keeps.named name (free container listed isShort)] at denoted
        exact bracketsAgree_of_bare typed.inStep found (resolve_eq_ok_iff.mpr denoted)
          (keeps.grows.get? isBare)
      · exact absurd isQualified.symm (short container listed)
  · rintro container listed rfl object latest
    have denotes := typed.named _ object latest
    refine ⟨denotes, typed.nominal_of_byName? latest, fun arguments => ?_⟩
    rcases TypeM.parameterize_cases typed.inStep (Container.find?_short container listed) arguments
      with ⟨id, after, succeeds, denoted, enlarges, fits⟩ | ⟨count, takes, differ, fails⟩
    · refine ⟨fun _ => ⟨id, after, succeeds, denoted, (enlarges.resolve _).trans denotes⟩, ?_⟩
      intro count takes differ
      exact absurd (fits count takes) differ
    · refine ⟨fun fits => absurd (fits count takes) differ, fun other alsoTakes _ => ?_⟩
      rw [takes] at alsoTakes
      cases alsoTakes
      exact fails

namespace Sample

/-- The state after the statement `class list: pass`. -/
def shadowed : Analysis :=
  Operation.run (Analysis.initial .standard) (.define (ClassDefinition.start "list" [] none))

theorem reachable_shadowed : Reachable .standard shadowed := .tail .refl (.perform _ _)

/-- A name that no class was given means the same with and without arguments. The name of the class
denotes the class, and applied to two arguments it is reported as the name of a container that takes
one. -/
theorem shadowed_names :
    shadowed.types.BracketsAgree "dict" ∧ shadowed.types.resolve "list" = .ok ⟨17⟩ ∧
      TypeM.parameterize "list" [.int, .str] shadowed.types =
        .error (.argumentCount "list" 1 2) shadowed.types := by
  obtain ⟨agrees, -⟩ := reachable_shadowed.brackets_agree_iff (show
    ∀ container ∈ Container.all, "dict" ≠ container.qualified by decide)
  obtain ⟨-, taken⟩ := reachable_shadowed.brackets_agree_iff (show
    ∀ container ∈ Container.all, "list" ≠ container.qualified by decide)
  obtain ⟨denotes, -, applied⟩ := taken .list (by decide) rfl _ rfl
  exact ⟨agrees.mpr fun _ _ _ => rfl, denotes, (applied [.int, .str]).2 1 rfl (by decide)⟩

/-- Where `list` denotes a class, `list[int]` denotes a list of integers. -/
theorem shadowed_list_applied :
    shadowed.types.resolve "list" = .ok ⟨17⟩ ∧
      shadowed.types.get? ⟨17⟩ = some (.nominal ⟨0⟩ "list" [.object]) ∧
      (∃ after, TypeM.parameterize "list" [.int] shadowed.types = .ok ⟨18⟩ after ∧
        after.get? ⟨18⟩ = some (.container Container.list.qualified [.int])) ∧
      ¬ shadowed.types.BracketsAgree "list" := by
  have denotes : shadowed.types.resolve "list" = .ok ⟨17⟩ := rfl
  have nominal : shadowed.types.get? ⟨17⟩ = some (.nominal ⟨0⟩ "list" [.object]) := by decide
  have inStep := reachable_shadowed.classesTyped.1.inStep
  refine ⟨denotes, nominal, ⟨_, rfl, by decide⟩, ?_⟩
  refine not_bracketsAgree_of_taken inStep (Container.find?_short .list (by decide)) denotes ?_
  rw [nominal]
  nofun

end Sample

end DataclassSynthesis
