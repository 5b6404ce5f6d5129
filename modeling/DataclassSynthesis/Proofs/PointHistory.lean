import DataclassSynthesis.Proofs.ProgramTrail

/-!
# Visibility is history

At the current point of an analysis exactly those points are visible that have been current before,
at the end of an operation or in the midst of one. Side branches do not count, wherever they hang
(`DataclassSynthesis.Reaches.visibility_is_history`). So a default is checked by the values that the
analysis produced on its way, and by no others.
-/

namespace DataclassSynthesis

/-- A change leaves program points alone, adds a side branch, or moves on. -/
theorem Change.program_cases {state after : Analysis} (change : Change state after) :
    (after.program = state.program ∧ after.point = state.point) ∨
      (∃ source label, after.program = (state.program.extend source label).2 ∧
        after.point = state.point) ∨
      ∃ label, after.program = (state.program.extend state.point label).2 ∧
        after.point = (state.program.extend state.point label).1 := by
  cases change with
  | types types | classes classes | log log => exact .inl ⟨rfl, rfl⟩
  | branch source label => exact .inr (.inl ⟨source, label, rfl, rfl⟩)
  | advance label => exact .inr (.inr ⟨label, rfl, rfl⟩)

namespace Passes

variable {start state : Analysis} {points : List PointId}

/-- A point that is current on the way is the first one, or is created on the way. -/
theorem current_cases (passes : Passes start points state) :
    start.program.size ≤ state.program.size ∧ ∀ point ∈ state.point :: points,
      point = start.point ∨
        start.program.size ≤ point.index ∧ point.index < state.program.size := by
  induction passes with
  | refl =>
    refine ⟨Nat.le_refl _, fun point member => .inl ?_⟩
    exact List.mem_singleton.mp member
  | @step points state after _ change ih =>
    obtain ⟨larger, created⟩ := ih
    have earlier : ∀ point ∈ state.point :: points, point = start.point ∨
        start.program.size ≤ point.index ∧ point.index < state.program.size + 1 := by
      intro point member
      exact (created point member).imp_right fun inside =>
        ⟨inside.1, Nat.lt_succ_of_lt inside.2⟩
    simp only [List.forall_mem_cons] at created earlier ⊢
    rcases change.program_cases with ⟨same, still⟩ | ⟨source, label, extended, still⟩ |
      ⟨label, extended, moved⟩
    · rw [same, still]
      exact ⟨larger, created.1, created⟩
    · rw [extended, still, Program.size_extend]
      exact ⟨Nat.le_succ_of_le larger, earlier.1, earlier⟩
    · have fresh : after.point.index = state.program.size := by rw [moved]; rfl
      rw [extended, Program.size_extend]
      refine ⟨Nat.le_succ_of_le larger, .inr ?_, .inr ?_, earlier.2⟩
      · omega
      · omega

/-- What is met from the current point is what has been current, if the steps suffice. -/
theorem reachesWithin_iff {config : WarningConfig}
    (passes : Passes (.initial config) points state) (source : PointId) {steps : Nat}
    (enough : state.program.size ≤ steps) :
    state.program.reachesWithin source steps state.point = true ↔
      source = Program.entry ∨ source ∈ points := by
  -- The bound stays arbitrary: a side branch makes the program larger, but the way back no longer.
  induction passes generalizing source steps with
  | refl =>
    obtain ⟨more, rfl⟩ := Nat.exists_eq_add_of_le' enough
    have here : (Analysis.initial config).program.reachesWithin source (more + 1)
        (Analysis.initial config).point = (Program.entry == source) := Bool.or_false _
    rw [show more + (Analysis.initial config).program.size = more + 1 from rfl, here, beq_iff_eq,
      eq_comm]
    simp only [List.not_mem_nil, or_false]
  | @step points state after earlier change ih =>
    have trail : state.OnTrail := earlier.keeps (fun _ _ change => change.onTrail) (.start rfl)
    -- A change that does not move on lists the current point once more.
    have stays : (source = Program.entry ∨ source ∈ state.point :: points) ↔
        source = Program.entry ∨ source ∈ points := by
      have current := (ih state.point (Nat.le_refl _)).mp (Program.reachesWithin_self _ _ _)
      rw [List.mem_cons]
      constructor
      · rintro (isEntry | rfl | member)
        · exact .inl isEntry
        · exact current
        · exact .inr member
      · exact Or.imp_right .inr
    rcases change.program_cases with ⟨same, still⟩ | ⟨origin, label, extended, still⟩ |
      ⟨label, extended, moved⟩
    · rw [same] at enough
      rw [same, still, stays, ih source enough]
    · rw [extended, Program.size_extend] at enough
      rw [extended, still, stays, trail.reachesWithin_extend,
        ih source (Nat.le_of_succ_le enough)]
    · rw [extended, Program.size_extend] at enough
      obtain ⟨fewer, rfl⟩ := Nat.exists_eq_add_of_le' (Nat.le_of_add_left_le enough)
      rw [extended, moved, trail.reachesWithin_next, Bool.or_eq_true, beq_iff_eq,
        ih source (Nat.le_of_succ_le_succ enough), List.mem_cons, eq_comm]
      exact or_left_comm

/-- A point is reachable from the entry point if it was current at some moment. -/
theorem isReachable_iff {config : WarningConfig}
    (passes : Passes (.initial config) points state) (source : PointId) :
    state.program.isReachable source state.point = true ↔
      source = Program.entry ∨ source ∈ points :=
  passes.reachesWithin_iff source (Nat.le_refl _)

/-- The points that have been current exist. -/
theorem index_lt {config : WarningConfig} (passes : Passes (.initial config) points state)
    {point : PointId} (current : point = Program.entry ∨ point ∈ state.point :: points) :
    point.index < state.program.size := by
  obtain ⟨larger, created⟩ := passes.current_cases
  have nonempty : 0 < state.program.size := larger
  rcases current with rfl | member
  · exact nonempty
  · rcases created point member with rfl | inside
    · exact nonempty
    · exact inside.2

/-- A side branch never comes into sight. -/
theorem not_isReachable_branch {config : WarningConfig} {more : List PointId} {later : Analysis}
    (passes : Passes (.initial config) points state) {source : PointId} {label : String}
    (continued : Passes (stateAfter (AnalysisM.branch source label) state) more later) :
    later.program.isReachable (state.program.extend source label).1 later.point = false := by
  have new : ¬ (state.program.extend source label).1.index < state.program.size :=
    Nat.lt_irrefl _
  have all := (passes.step (.branch state source label)).trans continued
  rw [← Bool.not_eq_true, all.isReachable_iff, List.mem_append]
  -- The branch is the newest point now, and every point that becomes current later is newer.
  rintro (isEntry | later | earlier)
  · exact new (passes.index_lt (.inl isEntry))
  · rcases continued.current_cases.2 _ (List.mem_cons_of_mem _ later) with same | ⟨larger, -⟩
    · exact new (passes.index_lt (.inr (List.mem_cons.mpr (.inl same))))
    · rw [show (stateAfter (AnalysisM.branch source label) state).program =
        (state.program.extend source label).2 from rfl, Program.size_extend] at larger
      exact new larger
  · exact new (passes.index_lt (.inr earlier))

end Passes

/-- The bindings that do not match a declared type, with no regard to where they are visible. -/
def mismatches (declared : TypeId) : List Binding → TypeM (List BadMatch)
  | [] => pure []
  | binding :: rest => do
    let actual ← binding.value.type
    let context ← get
    let later ← mismatches declared rest
    if context.isAssignable actual declared then pure later
    else pure (⟨binding, declared, actual⟩ :: later)

/-- Matching leaves out the bindings that are not visible, and compares all others. -/
theorem badMatches_eq_mismatches (program : Program) (declared : TypeId) (point : PointId)
    (bindings : List Binding) :
    badMatches program declared point bindings =
      mismatches declared (bindings.filter fun binding =>
        program.isReachable binding.point point) := by
  induction bindings with
  | nil => rfl
  | cons binding rest ih =>
    rw [badMatches, List.filter_cons]
    split
    · rw [mismatches, ih]
    · exact ih

/-- The operations that produce a value, with the state that they leave. -/
inductive Produces (state : Analysis) : Variable → Analysis → Prop
  | instantiate {type : TypeId} {var : Variable} {after : Analysis}
      (ran : AnalysisM.instantiate type state = .ok var after) : Produces state var after
  | call {callee : Variable} {arguments : CallArguments} {var : Variable} {after : Analysis}
      (ran : AnalysisM.call callee arguments state = .ok var after) : Produces state var after
  | describeField {arguments : CallArguments} {var : Variable} {after : Analysis}
      (ran : Field.call arguments state = .ok var after) : Produces state var after

/-- A value is produced at the point that is current then. -/
theorem Produces.point_eq {state after : Analysis} {var : Variable}
    (produces : Produces state var after) : ∀ binding ∈ var.bindings,
      binding.point = after.point := by
  suffices single : ∃ value, var = .single value after.point by
    obtain ⟨value, rfl⟩ := single
    exact List.forall_mem_singleton.mpr rfl
  cases produces with
  | instantiate ran =>
    cases ran
    exact ⟨_, rfl⟩
  | call ran =>
    rw [AnalysisM.call, get_bind] at ran
    obtain ⟨result, middle, -, continued⟩ := exists_of_bind_ok ran
    cases continued
    exact ⟨_, rfl⟩
  | describeField ran =>
    obtain ⟨-, first, -, described⟩ := exists_of_bind_ok ran
    obtain ⟨default, second, -, initialized⟩ := exists_of_bind_ok described
    obtain ⟨init, third, -, continued⟩ := exists_of_bind_ok initialized
    cases continued
    exact ⟨_, rfl⟩

/-- Producing a value is a sequence of elementary changes. -/
theorem Produces.passes {state after : Analysis} {var : Variable}
    (produces : Produces state var after) : ∃ points, Passes state points after := by
  cases produces with
  | @instantiate type _ _ ran =>
    rw [← stateAfter_of_ok ran]
    exact (Operation.instantiate type).passes_run state
  | call ran =>
    rw [← stateAfter_of_ok ran]
    exact AnalysisM.passes_call state _ _
  | describeField ran =>
    rw [← stateAfter_of_ok ran]
    exact Field.passes_call state _

/-- A run of operations is a history of elementary changes. -/
theorem Reaches.exists_passes {admits : Analysis → Operation → Prop} {start state : Analysis}
    (reached : Reaches admits start state) : ∃ points, Passes start points state := by
  induction reached with
  | refl => exact ⟨[], .refl⟩
  | @step state _ operation _ ih =>
    obtain ⟨points, passes⟩ := ih
    obtain ⟨more, continued⟩ := operation.passes_run state
    exact ⟨more ++ points, passes.trans continued⟩

/-- In every reached state, a point is visible from the current one exactly when it has been current
before, whichever elementary changes led to the state. So matching at the current point compares
exactly the bindings whose point has been current. A value that the analysis produces is compared
from then on, and one that belongs to a side branch is never compared. -/
theorem Reaches.visibility_is_history {config : WarningConfig} {state : Analysis}
    (reached : Reaches Operation.Any (Analysis.initial config) state) :
    (∃ points, Passes (.initial config) points state) ∧
    ∀ points, Passes (.initial config) points state →
      (∀ source, state.program.isReachable source state.point = true ↔
        source = Program.entry ∨ source ∈ points) ∧
      (∀ declared bindings, badMatches state.program declared state.point bindings =
        mismatches declared (bindings.filter fun binding =>
          binding.point = Program.entry ∨ binding.point ∈ points)) ∧
      (∀ var after more later, Produces state var after → Passes after more later →
        ∀ binding ∈ var.bindings,
          later.program.isReachable binding.point later.point = true) ∧
      ∀ source label more later,
        Passes (stateAfter (AnalysisM.branch source label) state) more later →
          later.program.isReachable (state.program.extend source label).1 later.point = false := by
  refine ⟨reached.exists_passes, fun points passes => ⟨passes.isReachable_iff, ?_, ?_, ?_⟩⟩
  · intro declared bindings
    rw [badMatches_eq_mismatches]
    congr 1
    refine List.filter_congr fun binding _ => ?_
    rw [Bool.eq_iff_iff, passes.isReachable_iff, decide_eq_true_iff]
  · intro var after more later produces continued binding member
    obtain ⟨between, produced⟩ := produces.passes
    have untilThen := passes.trans produced
    have current := (untilThen.isReachable_iff after.point).mp (Program.reachesWithin_self _ _ _)
    rw [produces.point_eq binding member, (untilThen.trans continued).isReachable_iff,
      List.mem_append]
    exact current.imp_right .inr
  · intro source label more later continued
    exact passes.not_isReachable_branch continued

namespace Sample

/-- The statement `class Task: token: InitVar[int]`. -/
def task : ClassDefinition := (ClassDefinition.start "Task" [] none).annotate "token" ⟨17⟩ none

/-- The state after `InitVar[int]`, the statement, a side branch of a point that does not exist, and
`@dataclass`, which creates an instance of `int` on its way. -/
def decoratedBesideBranch : Analysis :=
  Operation.run (Operation.run (Operation.run (Operation.run (.initial .standard)
    (.container Container.initVariable.qualified [.int])) (.define task)) (.branch ⟨7⟩ "side"))
    (.decorate .fresh ⟨0⟩)

theorem reaches_decoratedBesideBranch :
    Reaches Operation.Any (.initial .standard) decoratedBesideBranch :=
  .step (.step (.step (.step .refl (.container _ _) trivial) (.define task) trivial)
    (.branch ⟨7⟩ "side") trivial) (.decorate .fresh ⟨0⟩) trivial

/-- The branch has never been current, and the point of the instance has been. -/
theorem history_besideBranch :
    ∃ points, Passes (.initial .standard) points decoratedBesideBranch ∧
      ⟨1⟩ ∉ points ∧ ⟨2⟩ ∈ points ∧
      ∀ declared bindings, badMatches decoratedBesideBranch.program declared
          decoratedBesideBranch.point bindings =
        mismatches declared (bindings.filter fun binding =>
          binding.point = Program.entry ∨ binding.point ∈ points) := by
  obtain ⟨⟨points, passes⟩, history⟩ :=
    Reaches.visibility_is_history reaches_decoratedBesideBranch
  obtain ⟨visible, compared, -, -⟩ := history points passes
  have hidden : decoratedBesideBranch.program.isReachable ⟨1⟩ decoratedBesideBranch.point = false :=
    rfl
  refine ⟨points, passes, fun member => ?_, ?_, compared⟩
  · rw [(visible ⟨1⟩).mpr (.inr member)] at hidden
    cases hidden
  · exact ((visible ⟨2⟩).mp rfl).resolve_left (by decide)

end Sample

end DataclassSynthesis
