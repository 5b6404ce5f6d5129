import DataclassSynthesis.Proofs.ElementaryChanges

/-!
# The trail of the current point

The predecessors of the current point of an analysis lead through points that exist. Side branches
may hang off points that do not exist, but the current point is never moved there. So moving on
makes the new point visible and changes nothing else about what is visible
(`DataclassSynthesis.Program.isReachable_next`), and every operation keeps to the trail
(`DataclassSynthesis.Operation.onTrail_run`).
-/

namespace DataclassSynthesis

namespace Program

/-- The predecessors of a point exist, up to one that has no predecessor. -/
inductive Trail (program : Program) : PointId → Prop
  | start {point : PointId} {label : String} (found : program.get? point = some ⟨label, none⟩) :
      Trail program point
  | step {point previous : PointId} {label : String}
      (found : program.get? point = some ⟨label, some previous⟩)
      (earlier : Trail program previous) : Trail program point

variable {program : Program} {point : PointId}

/-- Adding a point leaves the others alone. -/
theorem get?_extend {found : Point} (present : program.get? point = some found)
    (source : PointId) (label : String) :
    (program.extend source label).2.get? point = some found := by
  obtain ⟨inside, -⟩ := List.getElem?_eq_some_iff.mp present
  simpa only [get?, extend, List.getElem?_append_left inside] using present

/-- The added point leads back to its source. -/
theorem get?_extend_new (program : Program) (source : PointId) (label : String) :
    (program.extend source label).2.get? (program.extend source label).1 =
      some ⟨label, some source⟩ := by
  simp only [get?, extend, size, List.getElem?_concat_length]

theorem size_extend (program : Program) (source : PointId) (label : String) :
    (program.extend source label).2.size = program.size + 1 := by
  simp only [extend, size, List.length_append, List.length_singleton]

/-- A trail stays one while points are added. -/
theorem Trail.extend (trail : program.Trail point) (source : PointId) (label : String) :
    (program.extend source label).2.Trail point := by
  induction trail with
  | start found => exact .start (get?_extend found source label)
  | step found _ ih => exact .step (get?_extend found source label) ih

/-- The point that continues a trail is on one. -/
theorem Trail.next (trail : program.Trail point) (label : String) :
    (program.extend point label).2.Trail (program.extend point label).1 :=
  .step (get?_extend_new program point label) (trail.extend point label)

theorem reachesWithin_self (program : Program) (point : PointId) (steps : Nat) :
    program.reachesWithin point steps point = true := by
  cases steps <;> simp only [reachesWithin, beq_self_eq_true, Bool.true_or]

/-- Along a trail the same points are met after points are added. -/
theorem Trail.reachesWithin_extend (trail : program.Trail point) (origin : PointId)
    (label : String) (source : PointId) (steps : Nat) :
    (program.extend origin label).2.reachesWithin source steps point =
      program.reachesWithin source steps point := by
  induction trail generalizing steps with
  | start found =>
    cases steps with
    | zero => rfl
    | succ steps =>
      rw [reachesWithin, reachesWithin, predecessor?, predecessor?, found,
        get?_extend found origin label]
      rfl
  | step found _ ih =>
    cases steps with
    | zero => rfl
    | succ steps =>
      rw [reachesWithin, reachesWithin, predecessor?, predecessor?, found,
        get?_extend found origin label]
      simp only [Option.bind_some, ih steps]

/-- From the point that continues a trail, the first step leads back to where it continues. -/
theorem Trail.reachesWithin_next (trail : program.Trail point) (label : String)
    (source : PointId) (steps : Nat) :
    (program.extend point label).2.reachesWithin source (steps + 1)
        (program.extend point label).1 =
      ((program.extend point label).1 == source || program.reachesWithin source steps point) := by
  have before : (program.extend point label).2.predecessor? (program.extend point label).1 =
      some point := by
    rw [predecessor?, get?_extend_new]
    rfl
  rw [reachesWithin, before]
  exact congrArg _ (trail.reachesWithin_extend point label source steps)

/-- From the point that continues a trail, what was visible before is visible, and so is the point
itself. -/
theorem isReachable_next (trail : program.Trail point) (label : String) (source : PointId) :
    (program.extend point label).2.isReachable source (program.extend point label).1 =
      ((program.extend point label).1 == source || program.isReachable source point) := by
  rw [isReachable, size_extend, trail.reachesWithin_next, isReachable]

end Program

/-- The current point is on a trail. -/
def Analysis.OnTrail (state : Analysis) : Prop := state.program.Trail state.point

/-- An elementary change keeps to the trail. -/
theorem Change.onTrail {state after : Analysis} (change : Change state after)
    (trail : state.OnTrail) : after.OnTrail := by
  cases change with
  | types types | classes classes | log log => exact trail
  | branch source label => exact trail.extend source label
  | advance label => exact trail.next label

/-- Every operation keeps to the trail. -/
theorem Operation.onTrail_run {state : Analysis} (trail : state.OnTrail) (operation : Operation) :
    (operation.run state).OnTrail := by
  obtain ⟨points, passes⟩ := operation.passes_run state
  exact passes.keeps (fun _ _ change => change.onTrail) trail

end DataclassSynthesis
