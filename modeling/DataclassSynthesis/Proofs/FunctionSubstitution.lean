import DataclassSynthesis.Proofs.CleanFailures
import DataclassSynthesis.Proofs.ArisenStates

/-!
# Functions in the place of functions

A function type records how many arguments a call has to supply at least, and calls enforce that
number, but assignability does not compare it. So a function whose type is assignable to that of
another one can be called in its place exactly when it requires no more arguments
(`DataclassSynthesis.Function.standsInFor_iff_of_isAssignable`).
-/

namespace DataclassSynthesis

namespace Signature

theorem requiredCount_le (signature : Signature) :
    signature.requiredCount ≤ signature.parameters.length := List.length_filter_le _ _

theorem accepts_iff {signature : Signature} {count : Nat} :
    signature.accepts count = true ↔
      signature.requiredCount ≤ count ∧ count ≤ signature.parameters.length := decide_eq_true_iff

/-- Every signature accepts as few arguments as it requires, so a signature with as many parameters
accepts whatever it accepts only when it requires no more. -/
theorem accepts_of_accepts_iff {mine theirs : Signature}
    (aligned : mine.parameters.length = theirs.parameters.length) :
    (∀ count, theirs.accepts count = true → mine.accepts count = true) ↔
      mine.requiredCount ≤ theirs.requiredCount := by
  constructor
  · intro accepted
    have least : theirs.accepts theirs.requiredCount = true :=
      accepts_iff.mpr ⟨Nat.le_refl _, theirs.requiredCount_le⟩
    exact (accepts_iff.mp (accepted _ least)).1
  · intro fewer count fits
    obtain ⟨enough, bounded⟩ := accepts_iff.mp fits
    exact accepts_iff.mpr ⟨Nat.le_trans fewer enough, aligned ▸ bounded⟩

end Signature

/-- The type of the functions with a signature. -/
def Signature.functionType (signature : Signature) : Ty :=
  .callable (signature.parameters.map Parameter.type) signature.result signature.requiredCount

/-- A call of a function succeeds when the number of arguments fits, in every state. -/
theorem AnalysisM.succeeds_call_iff {callee : Variable} {function : Function}
    (decides : callee.first? = some (.function function)) (arguments : CallArguments)
    (state : Analysis) :
    Succeeds (call callee arguments) state ↔
      function.signature.accepts arguments.count = true := by
  unfold call Analysis.callResult
  rw [Succeeds, get_bind, decides]
  dsimp only
  by_cases fits : function.signature.accepts arguments.count = true
  · rw [if_pos fits]
    exact iff_of_true ⟨_, _, rfl⟩ fits
  · rw [if_neg fits]
    exact iff_of_false (not_succeeds_of_error (bind_of_error rfl)) fits

namespace Function

/-- Every call that succeeds with one function also succeeds when another function takes its
place. -/
def StandsInFor (mine theirs : Function) : Prop :=
  ∀ (state : Analysis) (arguments : CallArguments) (given expected : Variable),
    given.first? = some (.function mine) → expected.first? = some (.function theirs) →
    Succeeds (AnalysisM.call expected arguments) state →
    Succeeds (AnalysisM.call given arguments) state

/-- A function stands in for another one exactly if it accepts every count of arguments that the
other one accepts. -/
theorem standsInFor_iff {mine theirs : Function} :
    mine.StandsInFor theirs ↔
      ∀ count, theirs.signature.accepts count = true → mine.signature.accepts count = true := by
  constructor
  · intro standsIn count fits
    let arguments : CallArguments := ⟨List.replicate count .empty, .empty, .unknown⟩
    have counted : arguments.count = count := List.length_replicate
    have called := standsIn (.initial .standard) arguments (.single (.function mine) Program.entry)
      (.single (.function theirs) Program.entry) rfl rfl
    rw [AnalysisM.succeeds_call_iff rfl, AnalysisM.succeeds_call_iff rfl, counted] at called
    exact called fits
  · intro accepted state arguments given expected isMine isTheirs called
    rw [AnalysisM.succeeds_call_iff isTheirs] at called
    exact (AnalysisM.succeeds_call_iff isMine arguments state).mpr (accepted _ called)

end Function

/-- Ask for the types of two functions, one after the other, and whether the first is assignable to
the second. -/
def Function.isAssignable (mine : Function) (context : TypeContext) (theirs : Function) : Bool :=
  let given := (Value.function mine).type context
  let expected := (Value.function theirs).type given.2
  expected.2.isAssignable given.1 expected.1

/-- Both identifiers denote the types of the functions when the question is decided. -/
theorem Function.types_denote {context : TypeContext} (inStep : context.InStep)
    (mine theirs : Function) :
    let given := (Value.function mine).type context
    let expected := (Value.function theirs).type given.2
    expected.2.get? given.1 = some mine.signature.functionType ∧
      expected.2.get? expected.1 = some theirs.signature.functionType :=
  ⟨(Value.type_grows _ _).get? (TypeM.get?_intern inStep _),
    TypeM.get?_intern ((Value.type_grows _ _).inStep inStep) _⟩

/-- Function types are assignable only when they have the same number of parameters. -/
theorem TypeContext.length_eq_of_isAssignable {context : TypeContext} {given expected : TypeId}
    {parameters others : List TypeId} {result otherResult : TypeId} {required otherRequired : Nat}
    (isGiven : context.get? given = some (.callable parameters result required))
    (isExpected : context.get? expected = some (.callable others otherResult otherRequired))
    (assignable : context.isAssignable given expected = true) :
    parameters.length = others.length := by
  by_cases same : given = expected
  · rw [same, isExpected] at isGiven
    cases isGiven
    rfl
  · by_contra apart
    rw [isAssignable, assignableWithin, if_neg same, isGiven, isExpected] at assignable
    simp only [assignableStep, if_neg apart] at assignable
    cases assignable

/-- In every state that arises, a function whose type is assignable to that of another one has as
many parameters, and it can be called in every way in which the other one can exactly when it
requires no more arguments. -/
theorem Function.standsInFor_iff_of_isAssignable {config : WarningConfig} {state : Analysis}
    (arises : Arises config state) {mine theirs : Function}
    (assignable : mine.isAssignable state.types theirs = true) :
    mine.signature.parameters.length = theirs.signature.parameters.length ∧
      (mine.StandsInFor theirs ↔
        mine.signature.requiredCount ≤ theirs.signature.requiredCount) := by
  obtain ⟨isGiven, isExpected⟩ := Function.types_denote arises.sound.inStep mine theirs
  have aligned : mine.signature.parameters.length = theirs.signature.parameters.length := by
    have counts := TypeContext.length_eq_of_isAssignable isGiven isExpected assignable
    rwa [List.length_map, List.length_map] at counts
  exact ⟨aligned, standsInFor_iff.trans (Signature.accepts_of_accepts_iff aligned)⟩

namespace Sample

/-- `def strict(x: int) -> int` -/
def strict : Function := .declare "strict" [⟨"x", .int, none⟩] .int

/-- `def lenient(x: int = 1) -> int` -/
def lenient : Function :=
  .declare "lenient" [⟨"x", .int, some (.single (.constant (.int 1)) Program.entry)⟩] .int

/-- A function with a default stands in for one without. -/
theorem lenient_standsInFor_strict : lenient.StandsInFor strict :=
  (Function.standsInFor_iff_of_isAssignable (@Arises.start .standard) (by decide)).2.mpr (by decide)

/-- Conversely the types are assignable too, but a call without arguments tells the functions
apart. -/
theorem strict_isAssignable_lenient :
    strict.isAssignable (Analysis.initial .standard).types lenient = true ∧
      ¬ strict.StandsInFor lenient := by
  refine ⟨by decide, fun standsIn => ?_⟩
  have accepted : strict.signature.accepts 0 = true :=
    Function.standsInFor_iff.mp standsIn 0 (by decide)
  exact absurd accepted (by decide)

end Sample

end DataclassSynthesis
