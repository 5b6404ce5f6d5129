import DataclassSynthesis.Proofs.Frame

/-!
# Two runs side by side

Two computations run alike when from related states they both succeed with related values, or both
fail with the same error, and leave related states behind. Computations that are built in the same
way from parts that run alike run alike.
-/

namespace DataclassSynthesis

section

variable {ε σ τ α β γ δ : Type} {states : σ → τ → Prop} {values : α → β → Prop}
  {results : γ → δ → Prop}

/-- Two results have related values or the same error, in related states. -/
def ResultsAlike (states : σ → τ → Prop) (values : α → β → Prop) :
    EStateM.Result ε σ α → EStateM.Result ε τ β → Prop
  | .ok value after, .ok other later => values value other ∧ states after later
  | .error error after, .error other later => error = other ∧ states after later
  | _, _ => False

/-- Two computations have results that are alike whenever they start from related states. -/
def RunsAlike (states : σ → τ → Prop) (values : α → β → Prop) (left : EStateM ε σ α)
    (right : EStateM ε τ β) : Prop :=
  ∀ before other, states before other → ResultsAlike states values (left before) (right other)

namespace RunsAlike

theorem pure {value : α} {other : β} (related : values value other) :
    RunsAlike states values (pure value : EStateM ε σ α) (pure other : EStateM ε τ β) :=
  fun _ _ starts => ⟨related, starts⟩

theorem throw (error : ε) :
    RunsAlike states values (throw error : EStateM ε σ α) (throw error : EStateM ε τ β) :=
  fun _ _ starts => ⟨rfl, starts⟩

/-- Computations go on alike from parts that run alike. -/
theorem bind {left : EStateM ε σ α} {right : EStateM ε τ β} {next : α → EStateM ε σ γ}
    {other : β → EStateM ε τ δ} (first : RunsAlike states values left right)
    (rest : ∀ value another, values value another →
      RunsAlike states results (next value) (other another)) :
    RunsAlike states results (left >>= next) (right >>= other) := by
  intro before start starts
  have alike := first before start starts
  cases ran : left before with
  | ok value after =>
    cases alsoRan : right start with
    | ok another later =>
      rw [ran, alsoRan] at alike
      rw [bind_of_ok ran, bind_of_ok alsoRan]
      exact rest value another alike.1 after later alike.2
    | error error later =>
      rw [ran, alsoRan] at alike
      cases alike
  | error error after =>
    cases alsoRan : right start with
    | ok another later =>
      rw [ran, alsoRan] at alike
      cases alike
    | error another later =>
      rw [ran, alsoRan] at alike
      rw [bind_of_error ran, bind_of_error alsoRan]
      exact alike

/-- Reading the state first gives related states to the rest. -/
theorem get_bind {next : σ → EStateM ε σ γ} {other : τ → EStateM ε τ δ}
    (rest : ∀ before start, states before start →
      RunsAlike states results (next before) (other start)) :
    RunsAlike states results (get >>= next) (get >>= other) :=
  fun before start starts => rest before start starts before start starts

/-- Edits that keep states related are alike. -/
theorem modify {edit : σ → σ} {other : τ → τ}
    (keeps : ∀ before start, states before start → states (edit before) (other start)) :
    RunsAlike states Eq (modify edit : EStateM ε σ PUnit) (modify other : EStateM ε τ PUnit) :=
  fun before start starts => ⟨rfl, keeps before start starts⟩

theorem modifyGet {action : σ → α × σ} {other : τ → β × τ}
    (alike : ∀ before start, states before start →
      values (action before).1 (other start).1 ∧ states (action before).2 (other start).2) :
    RunsAlike states values (modifyGet action : EStateM ε σ α)
      (modifyGet other : EStateM ε τ β) :=
  fun before start starts => alike before start starts

/-- Computations that run alike leave related states behind, whether they succeed or fail. -/
theorem stateAfter {left : EStateM ε σ α} {right : EStateM ε τ β}
    (alike : RunsAlike states values left right) {before : σ} {start : τ}
    (starts : states before start) :
    states (DataclassSynthesis.stateAfter left before)
      (DataclassSynthesis.stateAfter right start) := by
  have ends := alike before start starts
  unfold DataclassSynthesis.stateAfter
  generalize left before = early at ends ⊢
  generalize right start = late at ends ⊢
  cases early <;> cases late
  · exact ends.2
  · exact ends.elim
  · exact ends.elim
  · exact ends.2

end RunsAlike

end

/-- A result that is computed beforehand is alike in all related states. -/
theorem RunsAlike.ofExcept {states : Analysis → Analysis → Prop} {α : Type}
    (result : Except DecorateError α) :
    RunsAlike states Eq (AnalysisM.ofExcept result) (AnalysisM.ofExcept result) := by
  cases result with
  | ok value => exact .pure rfl
  | error error => exact .throw error

end DataclassSynthesis
