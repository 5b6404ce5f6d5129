import DataclassSynthesis.Proofs.TypeGrowth

/-!
# Well-formed type contexts

A context is well formed when it grew from the built-in types, which keeps its two stores in step,
builds types from older ones, keeps unions flat, and has at most one type for each class. Interning
a type whose components are known keeps a context well formed, as long as a union is flat and a
class is new (`DataclassSynthesis.TypeContext.WellFormed.intern`).
-/

namespace DataclassSynthesis

/-- The identifiers from which a type is built. -/
def Ty.components : Ty → List TypeId
  | scalar _ | any | never => []
  | nominal _ _ bases => bases
  | container _ arguments => arguments
  | union members => members
  | callable parameters result _ => result :: parameters

namespace TypeContext

/-- An identifier denotes a union. -/
def IsUnion (context : TypeContext) (id : TypeId) : Prop :=
  ∃ members, context.get? id = some (.union members)

/-- The types of a context hang together. -/
structure WellFormed (context : TypeContext) : Prop where
  /-- The built-in types come first. -/
  starts : initial.Grows context
  /-- Types are built from older ones. -/
  ordered : ∀ id type, context.get? id = some type → ∀ component ∈ type.components,
    component.index < id.index
  /-- Unions have members, and none of them is a union. -/
  flat : ∀ id members, context.get? id = some (.union members) →
    members ≠ [] ∧ ∀ member ∈ members, ¬ context.IsUnion member
  /-- A class has one type. -/
  classes : ∀ left right id name otherName bases otherBases,
    context.get? left = some (.nominal id name bases) →
    context.get? right = some (.nominal id otherName otherBases) → left = right

/-- A type may be added to a context: its components are known, a union has members that are no
unions, and a class has no type yet. -/
structure Admits (context : TypeContext) (type : Ty) : Prop where
  components : ∀ component ∈ type.components, context.Knows component
  flat : ∀ members, type = .union members →
    members ≠ [] ∧ ∀ member ∈ members, ¬ context.IsUnion member
  fresh : ∀ id name bases, type = .nominal id name bases → ∀ other otherName otherBases,
    context.get? other ≠ some (.nominal id otherName otherBases)

namespace WellFormed

variable {context : TypeContext}

/-- The two stores of a well-formed context are in step. -/
theorem inStep (formed : context.WellFormed) : context.InStep := formed.starts.inStep inStep_initial

/-- The components of a type in a well-formed context are known. -/
theorem knows_component (formed : context.WellFormed) {id : TypeId} {type : Ty}
    (found : context.get? id = some type) {component : TypeId}
    (member : component ∈ type.components) : context.Knows component :=
  Nat.lt_trans (formed.ordered id type found component member) (knows_of_get? found)

/-- What the built-in identifiers denote stays in place. -/
theorem get?_builtin (formed : context.WellFormed) {id : TypeId} {type : Ty}
    (found : initial.get? id = some type) : context.get? id = some type :=
  formed.starts.get? found

end WellFormed

/-- No built-in type is built from another one, and none is a union or a class. -/
theorem simple_of_builtin {id : TypeId} {type : Ty} (found : initial.get? id = some type) :
    type.components = [] ∧ (∀ members, type ≠ .union members) ∧
      ∀ id name bases, type ≠ .nominal id name bases := by
  have simple : ∀ type ∈ initial.types, type.components = [] ∧
      (∀ members, type ≠ .union members) ∧ ∀ id name bases, type ≠ .nominal id name bases := by
    simp [initial, builtins, Scalar.all, Container.all, Ty.components]
  exact simple type (List.mem_of_getElem? found)

/-- The context of the built-in types is well formed. -/
theorem wellFormed_initial : initial.WellFormed where
  starts := .refl initial
  ordered id type found component member := by
    rw [(simple_of_builtin found).1] at member
    cases member
  flat id members found := ((simple_of_builtin found).2.1 members rfl).elim
  classes left right id name _ bases _ found :=
    ((simple_of_builtin found).2.2 id name bases rfl).elim

/-- The types among which a union was added keep being unions, or no unions. -/
theorem Grows.isUnion_iff {before after : TypeContext} (grows : before.Grows after) {id : TypeId}
    (known : before.Knows id) : after.IsUnion id ↔ before.IsUnion id := by
  rw [IsUnion, IsUnion, grows.get?_eq known]

/-- A well-formed context may be extended by an admitted type that it does not hold. -/
theorem WellFormed.append {context : TypeContext} (formed : context.WellFormed) {added : Ty}
    (missing : context.lookup added = none) (admitted : context.Admits added) :
    (context.append added).WellFormed where
  starts := formed.starts.trans (grows_append missing)
  ordered id type found component member := by
    rcases get?_of_append found with before | ⟨rfl, rfl⟩
    · exact formed.ordered id type before component member
    · exact admitted.components component member
  flat id members found := by
    have flat : members ≠ [] ∧ (∀ member ∈ members, context.Knows member) ∧
        ∀ member ∈ members, ¬ context.IsUnion member := by
      rcases get?_of_append found with before | ⟨rfl, rfl⟩
      · exact ⟨(formed.flat id members before).1,
          fun member among => formed.knows_component before among,
          (formed.flat id members before).2⟩
      · exact ⟨(admitted.flat members rfl).1, admitted.components,
          (admitted.flat members rfl).2⟩
    refine ⟨flat.1, fun member among => ?_⟩
    rw [(grows_append missing).isUnion_iff (flat.2.1 member among)]
    exact flat.2.2 member among
  classes left right id name otherName bases otherBases first second := by
    rcases get?_of_append first with before | ⟨rfl, new⟩ <;>
      rcases get?_of_append second with alsoBefore | ⟨rfl, alsoNew⟩
    · exact formed.classes left right id name otherName bases otherBases before alsoBefore
    · exact (admitted.fresh id otherName otherBases alsoNew.symm left name bases before).elim
    · exact (admitted.fresh id name bases new.symm right otherName otherBases alsoBefore).elim
    · rfl

/-- Registering a name concerns no type. -/
theorem WellFormed.register {context : TypeContext} (formed : context.WellFormed) (name : String)
    (id : TypeId) : (context.register name id).WellFormed :=
  ⟨formed.starts.trans (context.grows_register name id), formed.ordered, formed.flat,
    formed.classes⟩

/-- Interning an admitted type keeps a context well formed. -/
theorem WellFormed.intern {context : TypeContext} (formed : context.WellFormed) {type : Ty}
    (admitted : context.Admits type) : (TypeM.intern type context).2.WellFormed := by
  rcases TypeM.intern_cases type context with ⟨id, -, same⟩ | ⟨missing, added⟩
  · rw [same]
    exact formed
  · rw [added]
    exact formed.append missing admitted

/-- A well-formed context that grew by types of no new class. -/
structure Extension (before after : TypeContext) : Prop where
  formed : after.WellFormed
  grows : before.Grows after
  classes : ∀ type id name bases, after.get? type = some (.nominal id name bases) →
    before.get? type = some (.nominal id name bases)

theorem Extension.refl {context : TypeContext} (formed : context.WellFormed) :
    context.Extension context := ⟨formed, .refl context, fun _ _ _ _ found => found⟩

theorem Extension.trans {first second third : TypeContext} (early : first.Extension second)
    (late : second.Extension third) : first.Extension third :=
  ⟨late.formed, early.grows.trans late.grows, fun type id name bases found =>
    early.classes type id name bases (late.classes type id name bases found)⟩

/-- Interning an admitted type that is no class extends a context. -/
theorem Extension.intern {context : TypeContext} (formed : context.WellFormed) {type : Ty}
    (admitted : context.Admits type) (noClass : ∀ id name bases, type ≠ .nominal id name bases) :
    context.Extension (TypeM.intern type context).2 where
  formed := formed.intern admitted
  grows := TypeM.intern_grows type context
  classes other id name bases found := by
    rcases TypeM.intern_cases type context with ⟨_, _, same⟩ | ⟨_, added⟩
    · rwa [same] at found
    · rw [added] at found
      rcases get?_of_append found with before | ⟨-, new⟩
      · exact before
      · exact (noClass id name bases new.symm).elim

/-- Interning a type over known types that is neither a union nor a class extends a context. -/
theorem Extension.intern_plain {context : TypeContext} (formed : context.WellFormed) {type : Ty}
    (known : ∀ component ∈ type.components, context.Knows component)
    (noUnion : ∀ members, type ≠ .union members)
    (noClass : ∀ id name bases, type ≠ .nominal id name bases) :
    context.Extension (TypeM.intern type context).2 :=
  .intern formed
    { components := known
      flat := fun members same => (noUnion members same).elim
      fresh := fun id name bases same => (noClass id name bases same).elim }
    noClass

end TypeContext

end DataclassSynthesis
