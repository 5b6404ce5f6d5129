import DataclassSynthesis.Proofs.WellFormedTypes
import DataclassSynthesis.Type.Assignability
import DataclassSynthesis.Type.Display

/-!
# One level of a walk in two monads

One level of the decision about two types, and of the written form of a type, is the same program
in every monad. When the answers about the components are related, so are the answers about the
types themselves (`DataclassSynthesis.TypeContext.assignableStep_simulated`,
`DataclassSynthesis.Ty.displayWith_simulated`).
-/

namespace DataclassSynthesis

/-- A relation between the computations of two monads that results and sequences keep. -/
structure Simulation (m n : Type → Type) [Monad m] [Monad n] where
  related : {α : Type} → m α → n α → Prop
  pure : ∀ {α : Type} (result : α), related (pure result : m α) (pure result : n α)
  bind : ∀ {α β : Type} {action : m α} {other : n α} {next : α → m β} {otherNext : α → n β},
    related action other → (∀ result, related (next result) (otherNext result)) →
    related (action >>= next) (other >>= otherNext)

namespace Simulation

/-- Equal computations are related. -/
def equality (m : Type → Type) [Monad m] : Simulation m m where
  related := Eq
  pure _ := rfl
  bind same rest := by rw [same, funext rest]

/-- A computation that gives a result is related to the result. -/
def answering : Simulation Option Id where
  related computed result := computed = some (Id.run result)
  pure _ := rfl
  bind computed rest := by
    rw [computed]
    exact rest _

variable {m n : Type → Type} [Monad m] [Monad n] (simulation : Simulation m n)
  {α β : Type} {items : List α}

/-- Asking the items of a list until one says no is simulated item by item. -/
theorem allM {ask : α → m Bool} {other : α → n Bool}
    (alike : ∀ item ∈ items, simulation.related (ask item) (other item)) :
    simulation.related (items.allM ask) (items.allM other) := by
  induction items with
  | nil => exact simulation.pure true
  | cons item rest ih =>
    obtain ⟨first, others⟩ := List.forall_mem_cons.mp alike
    rw [List.allM, List.allM]
    apply simulation.bind first
    intro answer
    cases answer with
    | true => exact ih others
    | false => exact simulation.pure false

theorem anyM {ask : α → m Bool} {other : α → n Bool}
    (alike : ∀ item ∈ items, simulation.related (ask item) (other item)) :
    simulation.related (items.anyM ask) (items.anyM other) := by
  induction items with
  | nil => exact simulation.pure false
  | cons item rest ih =>
    obtain ⟨first, others⟩ := List.forall_mem_cons.mp alike
    rw [List.anyM, List.anyM]
    apply simulation.bind first
    intro answer
    cases answer with
    | true => exact simulation.pure true
    | false => exact ih others

/-- Making something of every item of a list is simulated item by item. -/
theorem mapM [LawfulMonad m] [LawfulMonad n] {make : α → m β} {other : α → n β}
    (alike : ∀ item ∈ items, simulation.related (make item) (other item)) :
    simulation.related (items.mapM make) (items.mapM other) := by
  induction items with
  | nil => exact simulation.pure []
  | cons item rest ih =>
    obtain ⟨first, others⟩ := List.forall_mem_cons.mp alike
    rw [List.mapM_cons, List.mapM_cons]
    apply simulation.bind first
    intro made
    apply simulation.bind (ih others)
    intro mades
    exact simulation.pure (made :: mades)

end Simulation

variable {m n : Type → Type} [Monad m] [Monad n]

/-- One level of the decision, in two contexts whose containers match alike, has related answers if
the questions about components have. -/
theorem TypeContext.assignableStep_simulated (simulation : Simulation m n)
    {left right : TypeContext} {first second target : TypeId} {sourceType targetType : Ty}
    {ask : TypeId → TypeId → m Bool} {other : TypeId → TypeId → n Bool}
    (matching : ∀ sourceName targetName,
      left.containersMatch sourceName targetName sourceType.components targetType.components =
        right.containersMatch sourceName targetName sourceType.components targetType.components)
    (below : ∀ component ∈ sourceType.components,
      simulation.related (ask component target) (other component target))
    (above : ∀ component ∈ targetType.components,
      simulation.related (ask first component) (other second component))
    (across : ∀ mine ∈ sourceType.components, ∀ theirs ∈ targetType.components,
      simulation.related (ask mine theirs) (other mine theirs) ∧
        simulation.related (ask theirs mine) (other theirs mine)) :
    simulation.related (left.assignableStep ask first target sourceType targetType)
      (right.assignableStep other second target sourceType targetType) := by
  cases sourceType with
  | any | never => cases targetType <;> exact simulation.pure true
  | union members =>
    cases targetType with
    | any => exact simulation.pure true
    | _ => exact simulation.allM below
  | scalar narrow =>
    cases targetType with
    | any => exact simulation.pure true
    | union members => exact simulation.anyM above
    | scalar wide => cases wide <;> exact simulation.pure _
    | _ => exact simulation.pure false
  | nominal id name bases =>
    cases targetType with
    | any => exact simulation.pure true
    | union members => exact simulation.anyM above
    | scalar wide =>
      cases wide with
      | object => exact simulation.pure true
      | _ => exact simulation.anyM below
    | nominal otherId otherName otherBases =>
      simp only [assignableStep]
      split
      · exact simulation.pure true
      · exact simulation.anyM below
    | _ => exact simulation.anyM below
  | container sourceName sources =>
    cases targetType with
    | any => exact simulation.pure true
    | union members => exact simulation.anyM above
    | scalar wide => cases wide <;> exact simulation.pure _
    | container targetName targets =>
      have same : left.containersMatch sourceName targetName sources targets =
          right.containersMatch sourceName targetName sources targets :=
        matching sourceName targetName
      simp only [assignableStep, same]
      exact simulation.pure _
    | _ => exact simulation.pure false
  | callable sources sourceResult sourceRequired =>
    cases targetType with
    | any => exact simulation.pure true
    | union members => exact simulation.anyM above
    | scalar wide => cases wide <;> exact simulation.pure _
    | callable targets targetResult targetRequired =>
      simp only [assignableStep]
      split
      · -- The parameters are asked about the other way round, and the results only after them.
        apply simulation.bind
        · apply simulation.allM
          intro pair member
          obtain ⟨mine, theirs⟩ := List.of_mem_zip member
          exact (across pair.1 (List.mem_cons_of_mem _ mine) pair.2
            (List.mem_cons_of_mem _ theirs)).2
        · intro accepted
          cases accepted with
          | true =>
            exact (across sourceResult List.mem_cons_self targetResult List.mem_cons_self).1
          | false => exact simulation.pure false
      · exact simulation.pure false
    | _ => exact simulation.pure false

/-- The written forms of a type are related if those of its components are. -/
theorem Ty.displayWith_simulated [LawfulMonad m] [LawfulMonad n] (simulation : Simulation m n)
    {type : Ty} {component : TypeId → m String} {other : TypeId → n String}
    (alike : ∀ id ∈ type.components, simulation.related (component id) (other id)) :
    simulation.related (type.displayWith component) (type.displayWith other) := by
  cases type with
  | scalar _ | nominal _ _ _ | any | never => exact simulation.pure _
  | container qualified arguments =>
    cases arguments with
    | nil => exact simulation.pure _
    | cons first rest =>
      apply simulation.bind (simulation.mapM alike)
      intro texts
      exact simulation.pure _
  | union members =>
    apply simulation.bind (simulation.mapM alike)
    intro texts
    exact simulation.pure _
  | callable parameters result required =>
    obtain ⟨ofResult, ofParameters⟩ := List.forall_mem_cons.mp alike
    apply simulation.bind (simulation.mapM ofParameters)
    intro texts
    apply simulation.bind ofResult
    intro last
    exact simulation.pure _

end DataclassSynthesis
