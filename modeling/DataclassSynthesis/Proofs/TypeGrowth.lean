import DataclassSynthesis.Analysis.Match

/-!
# Growth of type contexts

Types are added at the end of a context and never changed, so an identifier that is known keeps
its type. The store in which types are looked up is kept in step with the types by every addition
(`DataclassSynthesis.TypeContext.InStep.append`). Asking for the types of values is such a growth,
and asking for the types of several values is asking for them one after the other.
-/

namespace DataclassSynthesis

open TypeContext

namespace TypeContext

/-- An identifier denotes a type of the context. -/
def Knows (context : TypeContext) (id : TypeId) : Prop := id.index < context.size

instance (context : TypeContext) (id : TypeId) : Decidable (context.Knows id) :=
  inferInstanceAs (Decidable (id.index < context.size))

/-- The known identifiers are those with a type. -/
theorem knows_iff {context : TypeContext} {id : TypeId} :
    context.Knows id ↔ ∃ type, context.get? id = some type := by
  constructor
  · intro inside
    exact ⟨_, List.getElem?_eq_getElem inside⟩
  · rintro ⟨type, found⟩
    exact (List.getElem?_eq_some_iff.mp found).1

theorem knows_of_get? {context : TypeContext} {id : TypeId} {type : Ty}
    (found : context.get? id = some type) : context.Knows id := knows_iff.mpr ⟨type, found⟩

theorem get?_eq_none_iff {context : TypeContext} {id : TypeId} :
    context.get? id = none ↔ ¬ context.Knows id :=
  List.getElem?_eq_none_iff.trans Nat.not_lt.symm

/-- The two stores of a context agree: a type is found under an identifier exactly when the
identifier denotes it. -/
def InStep (context : TypeContext) : Prop :=
  ∀ id type, context.get? id = some type ↔ context.lookup type = some id

/-- A context with one more type denotes that type by the next identifier, and the others as
before. -/
theorem get?_append (context : TypeContext) (added : Ty) (id : TypeId) :
    (context.append added).get? id =
      if id = ⟨context.size⟩ then some added else context.get? id := by
  by_cases last : id = ⟨context.size⟩
  · subst last
    simp only [get?, append, size, List.getElem?_concat_length, ↓reduceIte]
  · have differ : id.index ≠ context.types.length := fun same => last (congrArg TypeId.mk same)
    rw [if_neg last, get?, get?, append, List.getElem?_append]
    split
    · rfl
    · next beyond =>
      rw [List.getElem?_eq_none (Nat.not_lt.mp beyond)]
      exact List.getElem?_eq_none (by simp only [List.length_singleton]; omega)

/-- What a context with one more type denotes was denoted before or is the new type. -/
theorem get?_of_append {context : TypeContext} {added type : Ty} {id : TypeId}
    (found : (context.append added).get? id = some type) :
    context.get? id = some type ∨ id = ⟨context.size⟩ ∧ type = added := by
  rw [get?_append] at found
  split at found
  · next last => exact .inr ⟨last, (Option.some.inj found).symm⟩
  · exact .inl found

/-- The added type is looked up under its new identifier, and every other type as before. -/
theorem lookup_append (context : TypeContext) (added type : Ty) :
    (context.append added).lookup type =
      if type = added then some ⟨context.size⟩ else context.lookup type := by
  rw [lookup, append, List.lookup_cons]
  by_cases same : type = added
  · simp only [same, BEq.rfl, ↓reduceIte]
  · rw [if_neg same, beq_eq_false_iff_ne.mpr same]
    rfl

namespace InStep

variable {context : TypeContext}

/-- A type has one identifier. -/
theorem injective (inStep : context.InStep) {left right : TypeId} {type : Ty}
    (first : context.get? left = some type) (second : context.get? right = some type) :
    left = right :=
  Option.some.inj (((inStep left type).mp first).symm.trans ((inStep right type).mp second))

/-- A type that is not found is denoted by no identifier. -/
theorem get?_ne (inStep : context.InStep) {type : Ty} (missing : context.lookup type = none)
    (id : TypeId) : context.get? id ≠ some type := by
  intro found
  rw [(inStep id type).mp found] at missing
  cases missing

/-- Adding a type that is not found keeps the stores in step. -/
theorem append (inStep : context.InStep) {added : Ty} (missing : context.lookup added = none) :
    (context.append added).InStep := by
  intro id type
  have unused : context.get? ⟨context.size⟩ = none := List.getElem?_eq_none (Nat.le_refl _)
  rw [get?_append, lookup_append]
  by_cases last : id = ⟨context.size⟩ <;> by_cases same : type = added
  · simp only [last, same, ↓reduceIte]
  · -- The next identifier was not in use, so no other type is found under it.
    have before := inStep id type
    rw [last, unused] at before
    simpa only [last, same, ↓reduceIte, Option.some.injEq, eq_comm (a := added), reduceCtorEq]
      using before
  · have before := inStep.get?_ne missing id
    simpa only [last, same, ↓reduceIte, before, Option.some.injEq, false_iff]
      using fun equal => last (Eq.symm equal)
  · simp only [last, same, ↓reduceIte, inStep id type]

end InStep

/-- The two stores of built-in types are in step. -/
theorem inStep_initial : initial.InStep := by
  have denoted : ∀ entry ∈ initial.ids, initial.get? entry.2 = some entry.1 := by decide
  have found : ∀ entry ∈ initial.types.zipIdx, initial.lookup entry.1 = some ⟨entry.2⟩ := by
    decide
  intro id type
  constructor
  · exact fun here => found (type, id.index) (List.mk_mem_zipIdx_iff_getElem?.mpr here)
  · intro here
    obtain ⟨early, late, listed, -⟩ := List.lookup_eq_some_iff.mp here
    exact denoted (type, id) (listed ▸ by simp)

/-- A context grows into another one by adding types after its own, which keeps its two stores in
step. -/
structure Grows (before after : TypeContext) : Prop where
  types : before.types <+: after.types
  inStep : before.InStep → after.InStep

theorem Grows.refl (context : TypeContext) : context.Grows context :=
  ⟨List.prefix_refl _, fun inStep => inStep⟩

theorem Grows.trans {first second third : TypeContext} (early : first.Grows second)
    (late : second.Grows third) : first.Grows third :=
  ⟨early.types.trans late.types, fun inStep => late.inStep (early.inStep inStep)⟩

/-- Naming a type adds none. -/
theorem grows_register (context : TypeContext) (name : String) (id : TypeId) :
    context.Grows (context.register name id) :=
  ⟨List.prefix_refl _, fun inStep => inStep⟩

/-- Adding a type that is not found lets a context grow. -/
theorem grows_append {context : TypeContext} {added : Ty}
    (missing : context.lookup added = none) : context.Grows (context.append added) :=
  ⟨List.prefix_append _ _, fun inStep => inStep.append missing⟩

/-- What an identifier denotes stays the same while the types grow. -/
theorem Grows.get? {before after : TypeContext} (grows : before.Grows after) {id : TypeId}
    {type : Ty} (found : before.get? id = some type) : after.get? id = some type := by
  obtain ⟨⟨added, appended⟩, -⟩ := grows
  obtain ⟨inside, -⟩ := List.getElem?_eq_some_iff.mp found
  rw [TypeContext.get?, ← appended, List.getElem?_append_left inside]
  exact found

/-- The type of a known identifier stays as it is. -/
theorem Grows.get?_eq {before after : TypeContext} (grows : before.Grows after) {id : TypeId}
    (known : before.Knows id) : after.get? id = before.get? id := by
  obtain ⟨type, found⟩ := knows_iff.mp known
  rw [found, grows.get? found]

theorem Grows.knows {before after : TypeContext} (grows : before.Grows after) {id : TypeId}
    (known : before.Knows id) : after.Knows id := by
  obtain ⟨type, found⟩ := knows_iff.mp known
  exact knows_of_get? (grows.get? found)

/-- The argument of a known container stays as it is. -/
theorem Grows.argumentOf?_eq {before after : TypeContext} (grows : before.Grows after) {id : TypeId}
    (known : before.Knows id) (qualified : String) :
    after.argumentOf? id qualified = before.argumentOf? id qualified := by
  rw [argumentOf?, argumentOf?, grows.get?_eq known]

end TypeContext

namespace TypeM

/-- Interning finds a type that was added, and adds one that was not. -/
theorem intern_cases (type : Ty) (context : TypeContext) :
    (∃ id, context.lookup type = some id ∧ intern type context = (id, context)) ∨
      context.lookup type = none ∧
        intern type context = (⟨context.size⟩, context.append type) := by
  unfold intern
  cases present : context.lookup type with
  | some id => exact .inl ⟨id, rfl, rfl⟩
  | none => exact .inr ⟨rfl, rfl⟩

/-- Interning lets the context grow. -/
theorem intern_grows (type : Ty) (context : TypeContext) :
    context.Grows (intern type context).2 := by
  rcases intern_cases type context with ⟨id, -, same⟩ | ⟨missing, added⟩
  · rw [same]
    exact .refl context
  · rw [added]
    exact grows_append missing

/-- What interning gives is what the type is looked up under from then on. -/
theorem lookup_intern (type : Ty) (context : TypeContext) :
    (intern type context).2.lookup type = some (intern type context).1 := by
  rcases intern_cases type context with ⟨id, present, same⟩ | ⟨-, added⟩
  · rw [same]
    exact present
  · rw [added, lookup_append, if_pos rfl]

/-- The identifier that interning gives denotes the type. -/
theorem get?_intern {context : TypeContext} (inStep : context.InStep) (type : Ty) :
    (intern type context).2.get? (intern type context).1 = some type :=
  ((intern_grows type context).inStep inStep _ _).mpr (lookup_intern type context)

end TypeM

namespace Value

/-- Asking for the type of a value lets the context grow. -/
theorem type_grows (value : Value) (context : TypeContext) :
    context.Grows (value.type context).2 := by
  cases value with
  | classObject instances => exact TypeM.intern_grows _ context
  | function callee => exact TypeM.intern_grows _ context
  | constant _ | instanceOf _ | field _ | unknown => exact .refl context

theorem types_cons (value : Value) (rest : List Value) (context : TypeContext) :
    (types (value :: rest) context).2 = (types rest (value.type context).2).2 := rfl

/-- Typing two lists of values is typing one after the other. -/
theorem types_append (first second : List Value) (context : TypeContext) :
    (types (first ++ second) context).2 = (types second (types first context).2).2 := by
  induction first generalizing context with
  | nil => rfl
  | cons value rest ih => rw [List.cons_append, types_cons, ih, types_cons]

/-- Asking for the types of values lets the context grow. -/
theorem types_grows (values : List Value) (context : TypeContext) :
    context.Grows (types values context).2 := by
  induction values generalizing context with
  | nil => exact .refl context
  | cons value rest ih => exact (value.type_grows context).trans (ih _)

end Value

/-- The values among some bindings that are visible at a point. -/
def visibleValues (program : Program) (point : PointId) (bindings : List Binding) : List Value :=
  (bindings.filter fun binding => program.isReachable binding.point point).map Binding.value

/-- A visible binding is typed first, and reported before the later ones. -/
theorem badMatches_cons_of_visible {program : Program} {declared : TypeId} {point : PointId}
    {binding : Binding} (visible : program.isReachable binding.point point = true)
    (rest : List Binding) (context : TypeContext) :
    badMatches program declared point (binding :: rest) context =
      let typed := binding.value.type context
      let later := badMatches program declared point rest typed.2
      if typed.2.isAssignable typed.1 declared then later
      else (⟨binding, declared, typed.1⟩ :: later.1, later.2) := by
  simp only [badMatches, visible, ↓reduceIte]
  change (if (binding.value.type context).2.isAssignable (binding.value.type context).1 declared
    then pure (badMatches program declared point rest (binding.value.type context).2).1
    else pure (_ :: _) : TypeM (List BadMatch)) _ = _
  split <;> rfl

/-- A binding that is not visible is passed over. -/
theorem badMatches_cons_of_hidden {program : Program} {declared : TypeId} {point : PointId}
    {binding : Binding} (hidden : ¬ program.isReachable binding.point point = true)
    (rest : List Binding) (context : TypeContext) :
    badMatches program declared point (binding :: rest) context =
      badMatches program declared point rest context := by
  simp only [badMatches, hidden, Bool.false_eq_true, ↓reduceIte]

/-- Matching asks for the types of the visible values, in order. -/
theorem badMatches_types (program : Program) (declared : TypeId) (point : PointId)
    (bindings : List Binding) (context : TypeContext) :
    (badMatches program declared point bindings context).2 =
      (Value.types (visibleValues program point bindings) context).2 := by
  induction bindings generalizing context with
  | nil => rfl
  | cons binding rest ih =>
    by_cases visible : program.isReachable binding.point point
    · have kept : visibleValues program point (binding :: rest) =
          binding.value :: visibleValues program point rest := by simp [visibleValues, visible]
      rw [badMatches_cons_of_visible visible, kept, Value.types_cons, ← ih]
      dsimp only
      split <;> rfl
    · have dropped : visibleValues program point (binding :: rest) =
          visibleValues program point rest := by simp [visibleValues, visible]
      rw [badMatches_cons_of_hidden visible, dropped, ih]

end DataclassSynthesis
