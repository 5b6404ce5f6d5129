import DataclassSynthesis.Proofs.StepSimulation

/-!
# The rules of assignability

In a well-formed context every nested step of a decision concerns a pair of identifiers with a
smaller sum, also where the two change sides. So the bound of the decision is never reached, and the
decision obeys its own rules (`DataclassSynthesis.TypeContext.isAssignable_iff`).
-/

namespace DataclassSynthesis

namespace TypeContext

/-- One level of the rules, given a relation between the components of two types. The identifiers
name the two types themselves. -/
def Matches (context : TypeContext) (holds : TypeId → TypeId → Prop) (source target : TypeId) :
    Ty → Ty → Prop
  | .any, _ | _, .any | .never, _ => True
  | .union members, _ => ∀ member ∈ members, holds member target
  | _, .union members => ∃ member ∈ members, holds source member
  | _, .scalar .object => True
  | .scalar narrow, .scalar wide => narrow.assignable wide = true
  | .nominal id _ bases, .nominal otherId _ _ =>
    id = otherId ∨ ∃ base ∈ bases, holds base target
  | .nominal _ _ bases, _ => ∃ base ∈ bases, holds base target
  | .container sourceName sources, .container targetName targets =>
    context.containersMatch sourceName targetName sources targets = true
  | .callable sources sourceResult _, .callable targets targetResult _ =>
    sources.length = targets.length ∧
      (∀ pair ∈ sources.zip targets, holds pair.2 pair.1) ∧ holds sourceResult targetResult
  | _, _ => False

/-- Asking whether there is one in a list succeeds when each question is answered. -/
theorem anyM_eq_some {α : Type} {items : List α} {ask : α → Option Bool} {answer : α → Bool}
    (answered : ∀ item ∈ items, ask item = some (answer item)) :
    items.anyM ask = some (items.any answer) := by
  have asked : items.anyM ask = some (Id.run (items.anyM fun item => pure (answer item))) :=
    Simulation.answering.anyM answered
  rw [asked, List.anyM_pure]
  rfl

/-- Given the answers about components, one level of the decision is one level of the rules. -/
theorem run_assignableStep_iff {context : TypeContext} {answer : TypeId → TypeId → Bool}
    {source target : TypeId} {sourceType targetType : Ty} :
    Id.run (context.assignableStep (fun left right => pure (answer left right)) source target
        sourceType targetType) = true ↔
      context.Matches (fun left right => answer left right = true) source target sourceType
        targetType := by
  cases sourceType with
  | scalar narrow =>
    cases targetType with
    | scalar wide => cases wide <;> simp [assignableStep, Matches]
    | _ => simp [assignableStep, Matches]
  | nominal id name bases =>
    cases targetType with
    | scalar wide => cases wide <;> simp [assignableStep, Matches]
    | nominal otherId otherName otherBases =>
      by_cases same : id = otherId <;> simp [assignableStep, Matches, same]
    | _ => simp [assignableStep, Matches]
  | container name arguments =>
    cases targetType with
    | scalar wide => cases wide <;> simp [assignableStep, Matches]
    | _ => simp [assignableStep, Matches]
  | callable parameters result required =>
    cases targetType with
    | scalar wide => cases wide <;> simp [assignableStep, Matches]
    | callable others otherResult otherRequired =>
      by_cases aligned : parameters.length = others.length
      · simp only [assignableStep, aligned, ↓reduceIte, Matches, true_and, List.allM_pure,
          pure_bind, ← List.all_eq_true]
        cases (parameters.zip others).all fun pair => answer pair.2 pair.1 <;> simp
      · simp [assignableStep, Matches, aligned]
    | _ => simp [assignableStep, Matches]
  | any | never | union members => cases targetType <;> simp [assignableStep, Matches]

/-- One level of the decision is answered by the rules, when all pairs of identifiers with a smaller
sum are answered. -/
theorem assignableStep_spec {context : TypeContext} (formed : context.WellFormed)
    {source target : TypeId} {sourceType targetType : Ty}
    (isSource : context.get? source = some sourceType)
    (isTarget : context.get? target = some targetType)
    {ask : TypeId → TypeId → Option Bool} {answer : TypeId → TypeId → Bool}
    (answered : ∀ left right, left.index + right.index < source.index + target.index →
      ask left right = some (answer left right)) :
    ∃ result, context.assignableStep ask source target sourceType targetType = some result ∧
      (result = true ↔
        context.Matches (fun left right => answer left right = true) source target sourceType
          targetType) := by
  have below := formed.ordered source sourceType isSource
  have above := formed.ordered target targetType isTarget
  refine ⟨_, ?_, run_assignableStep_iff⟩
  apply assignableStep_simulated .answering
  · intro sourceName targetName
    rfl
  · intro component member
    have older := below component member
    exact answered component target (by omega)
  · intro component member
    have older := above component member
    exact answered source component (by omega)
  · intro mine isMine theirs isTheirs
    have older := below mine isMine
    have alsoOlder := above theirs isTheirs
    exact ⟨answered mine theirs (by omega), answered theirs mine (by omega)⟩

/-- The answer with the least bound that is above the sum of the identifiers. -/
def answer (context : TypeContext) (source target : TypeId) : Bool :=
  (context.assignableWithin (source.index + target.index + 1) source target).getD false

/-- An identifier without a type is assignable to itself only, whatever the bound. -/
theorem assignableWithin_of_unknown {context : TypeContext} {source target : TypeId}
    (unknown : context.get? source = none ∨ context.get? target = none) (bound : Nat) :
    context.assignableWithin (bound + 1) source target = some (decide (source = target)) := by
  rw [assignableWithin]
  by_cases same : source = target
  · simp only [same, ↓reduceIte, decide_true]
  · simp only [same, ↓reduceIte, decide_false]
    rcases unknown with missing | missing
    · rw [missing]
    · rw [missing]
      cases context.get? source <;> rfl

/-- Every bound above the sum of the identifiers gives the same answer. -/
theorem assignableWithin_eq_answer {context : TypeContext} (formed : context.WellFormed)
    {source target : TypeId} {bound : Nat} (enough : source.index + target.index < bound) :
    context.assignableWithin bound source target = some (context.answer source target) := by
  induction sum : source.index + target.index using Nat.strongRecOn
    generalizing source target bound with
  | ind total ih =>
    obtain ⟨depth, rfl⟩ : ∃ depth, bound = depth + 1 := ⟨bound - 1, by omega⟩
    have smaller : ∀ depth, total ≤ depth → ∀ left right : TypeId,
        left.index + right.index < source.index + target.index →
        context.assignableWithin depth left right = some (context.answer left right) :=
      fun depth deep left right less => ih _ (by omega) (by omega) rfl
    rw [answer, assignableWithin, assignableWithin]
    by_cases same : source = target
    · simp only [same, ↓reduceIte, Option.getD_some]
    · simp only [same, ↓reduceIte]
      cases isSource : context.get? source with
      | none => rfl
      | some sourceType =>
        cases isTarget : context.get? target with
        | none => rfl
        | some targetType =>
          obtain ⟨result, decided, iff⟩ := assignableStep_spec formed isSource isTarget
            (smaller depth (by omega))
          obtain ⟨least, alsoDecided, alsoIff⟩ := assignableStep_spec formed isSource isTarget
            (smaller (source.index + target.index) (by omega))
          dsimp only
          rw [decided, alsoDecided, Option.getD_some]
          exact congrArg some (Bool.eq_iff_iff.mpr (iff.trans alsoIff.symm))

/-- The bound of the decision is large enough. -/
theorem isAssignable_eq_answer {context : TypeContext} (formed : context.WellFormed)
    (source target : TypeId) :
    context.isAssignable source target = context.answer source target := by
  by_cases known : context.Knows source ∧ context.Knows target
  · have some_builtin : 2 ≤ context.size := Nat.le_trans (by decide) formed.starts.types.length_le
    have square : 2 * context.size ≤ context.size * context.size :=
      Nat.mul_le_mul_right context.size some_builtin
    have first : source.index < context.size := known.1
    have second : target.index < context.size := known.2
    rw [isAssignable, assignableWithin_eq_answer formed (by omega), Option.getD_some]
  · have unknown : context.get? source = none ∨ context.get? target = none := by
      rw [get?_eq_none_iff, get?_eq_none_iff]
      exact Classical.not_and_iff_not_or_not.mp known
    rw [isAssignable, answer, assignableWithin_of_unknown unknown,
      assignableWithin_of_unknown unknown]

/-- Two known types are assignable when they are the same or the rules say so. -/
theorem isAssignable_iff {context : TypeContext} (formed : context.WellFormed)
    {source target : TypeId} {sourceType targetType : Ty}
    (isSource : context.get? source = some sourceType)
    (isTarget : context.get? target = some targetType) :
    context.isAssignable source target = true ↔ source = target ∨
      context.Matches (fun left right => context.isAssignable left right = true) source target
        sourceType targetType := by
  have smaller : ∀ left right : TypeId, left.index + right.index < source.index + target.index →
      context.assignableWithin (source.index + target.index) left right =
        some (context.isAssignable left right) := fun left right less => by
    rw [assignableWithin_eq_answer formed less, isAssignable_eq_answer formed]
  obtain ⟨result, decided, iff⟩ := assignableStep_spec formed isSource isTarget smaller
  rw [isAssignable_eq_answer formed, answer, assignableWithin, isSource, isTarget]
  by_cases same : source = target
  · simp [same]
  · simp only [same, ↓reduceIte, false_or]
    rw [decided, Option.getD_some, iff]

end TypeContext

end DataclassSynthesis
