import DataclassSynthesis.Proofs.DecorationTwice
import DataclassSynthesis.Proofs.LaterStates
import DataclassSynthesis.Proofs.ReachedTypes

/-!
# Independent decorations

Two classes are independent when neither is an ancestor of the other. Decorating one of them adds
types and program points and may store attributes, but the decoration of the other one cannot tell.
So the two decorations can be made in either order, and what they report is the same but for the
order (`DataclassSynthesis.Arises.independent_decorations_commute`).
-/

namespace DataclassSynthesis

/-- Decorating a class that stands in a state does the same in every later state in which the same
attributes are prescribed for it: it reports the same, and up to program points the class becomes
the same. -/
theorem Decoration.decorate_later {base : Analysis} (sound : base.Sound) {id : ClassId}
    (inside : id.index < base.classes.size) {object : ClassObject}
    (stands : object.body.StandsIn base) (options : Options) (attrs : List Attribute) :
    ∃ errors warnings, ∀ state, base.Later state → state.classes.BasesFirst →
      state.classes.get? id = some object → state.prescribed base.types id object.body = attrs →
      ∃ after stored, decorate options id state = .ok after.point after ∧
        after.classes = state.classes.modify id (fun _ => stored) ∧
        stored.unstamped = object.unstamped.decoratedBy base.types options attrs ∧
        after.log = state.log.extend errors warnings ∧
        base.Later after ∧ after.classes.BasesFirst := by
  obtain ⟨errors, warnings, reports⟩ := exists_report sound inside stands attrs
  refine ⟨errors, warnings, fun state later ordered found prescribed => ?_⟩
  have known : ∀ entry ∈ object.body.annotations, base.types.Knows entry.2 :=
    fun entry member => (stands.annotations entry member).knows
  obtain ⟨after, stored, ran, outcome, edited, effect⟩ :=
    decorate_edits ordered found options later.types known
  rw [prescribed] at edited effect
  obtain ⟨logged, stillLater⟩ := reports state later
  have nowOrdered := outcome.basesFirst ordered
  rw [edited] at ran nowOrdered
  exact ⟨_, stored, ran, rfl, effect, logged,
    { stillLater with
      classes := by simpa only [ClassTable.size_modify] using later.classes }, nowOrdered⟩

/-- Edits of two classes can be made in either order: every class ends up the same up to program
points if the edited ones do. -/
theorem ClassTable.exists_same_of_modify {table : ClassTable} {first second : ClassId}
    (differ : first ≠ second) {one two other another : ClassObject}
    (same : one.unstamped = another.unstamped) (alsoSame : two.unstamped = other.unstamped)
    {id : ClassId} {object : ClassObject} (found : table.get? id = some object) :
    ∃ left right,
      ((table.modify first fun _ => one).modify second fun _ => two).get? id = some left ∧
      ((table.modify second fun _ => other).modify first fun _ => another).get? id = some right ∧
      left.unstamped = right.unstamped := by
  by_cases isFirst : id = first
  · subst isFirst
    have kept : (table.modify second fun _ => other).get? id = some object := by
      rw [get?_modify_of_ne _ differ, found]
    refine ⟨one, another, ?_, get?_modify_self kept _, same⟩
    rw [get?_modify_of_ne _ differ, get?_modify_self found]
  by_cases isSecond : id = second
  · subst isSecond
    have kept : (table.modify first fun _ => one).get? id = some object := by
      rw [get?_modify_of_ne _ isFirst, found]
    refine ⟨two, other, get?_modify_self kept _, ?_, alsoSame⟩
    rw [get?_modify_of_ne _ isFirst, get?_modify_self found]
  refine ⟨object, object, ?_, ?_, rfl⟩
  · rw [get?_modify_of_ne _ isSecond, get?_modify_of_ne _ isFirst, found]
  · rw [get?_modify_of_ne _ isFirst, get?_modify_of_ne _ isSecond, found]

/-- Two classes neither of which is an ancestor of the other can be decorated in either order. Every
class ends with the same attributes, the same annotated names and the same values of members. Each
decoration adds the same errors and warnings to the log, whichever is made first. -/
theorem Arises.independent_decorations_commute {config : WarningConfig} {state : Analysis}
    (arises : Arises config state) {first second : ClassId} (differ : first ≠ second)
    {object other : ClassObject} (found : state.classes.get? first = some object)
    (alsoFound : state.classes.get? second = some other)
    (apart : ¬ Relation.TransGen state.classes.DerivesFrom first second)
    (alsoApart : ¬ Relation.TransGen state.classes.DerivesFrom second first)
    (stands : object.body.StandsIn state) (alsoStands : other.body.StandsIn state)
    (decorator : Decorator) :
    ∃ afterFirst forward afterSecond backward errors warnings more further,
      (Decorator.decorate first (decorator, state) = .ok afterFirst.point (decorator, afterFirst) ∧
        Decorator.decorate second (decorator, afterFirst) =
          .ok forward.point (decorator, forward)) ∧
      (Decorator.decorate second (decorator, state) =
          .ok afterSecond.point (decorator, afterSecond) ∧
        Decorator.decorate first (decorator, afterSecond) =
          .ok backward.point (decorator, backward)) ∧
      (∀ id before, state.classes.get? id = some before → ∃ left right,
        forward.classes.get? id = some left ∧ backward.classes.get? id = some right ∧
        left.fields = right.fields ∧ left.annotations = right.annotations ∧
        left.members.map Variable.values = right.members.map Variable.values) ∧
      (afterFirst.log = state.log.extend errors warnings ∧
        forward.log = (state.log.extend errors warnings).extend more further) ∧
      afterSecond.log = state.log.extend more further ∧
      backward.log = (state.log.extend more further).extend errors warnings := by
  have sound := arises.sound
  have here := Analysis.Later.refl sound.onTrail
  obtain ⟨errors, warnings, decorateFirst⟩ := Decoration.decorate_later sound
    (ClassTable.exists_get?_iff.mp ⟨_, found⟩) stands (decorator.options first)
    (state.prescribed state.types first object.body)
  obtain ⟨more, further, decorateSecond⟩ := Decoration.decorate_later sound
    (ClassTable.exists_get?_iff.mp ⟨_, alsoFound⟩) alsoStands (decorator.options second)
    (state.prescribed state.types second other.body)
  obtain ⟨afterFirst, one, ranFirst, classesFirst, isOne, logFirst, laterFirst, orderedFirst⟩ :=
    decorateFirst state here sound.basesFirst found rfl
  obtain ⟨afterSecond, two, ranSecond, classesSecond, isTwo, logSecond, laterSecond,
    orderedSecond⟩ := decorateSecond state here sound.basesFirst alsoFound rfl
  -- Neither decoration touches the other class or what the other class inherits.
  have stillSecond : afterFirst.classes.get? second = some other := by
    rw [classesFirst, ClassTable.get?_modify_of_ne _ differ.symm, alsoFound]
  have stillFirst : afterSecond.classes.get? first = some object := by
    rw [classesSecond, ClassTable.get?_modify_of_ne _ differ, found]
  obtain ⟨-, basesOne⟩ := ClassObject.body_and_bases_of_decorated isOne
  obtain ⟨-, basesTwo⟩ := ClassObject.body_and_bases_of_decorated isTwo
  obtain ⟨forward, laterTwo, ranForward, classesForward, isLaterTwo, logForward, -, -⟩ :=
    decorateSecond afterFirst laterFirst orderedFirst stillSecond
      (Decoration.prescribed_of_apart found classesFirst basesOne alsoApart _ _)
  obtain ⟨backward, laterOne, ranBackward, classesBackward, isLaterOne, logBackward, -, -⟩ :=
    decorateFirst afterSecond laterSecond orderedSecond stillFirst
      (Decoration.prescribed_of_apart alsoFound classesSecond basesTwo apart _ _)
  refine ⟨afterFirst, forward, afterSecond, backward, errors, warnings, more, further,
    ⟨?_, ?_⟩, ⟨?_, ?_⟩, ?_, ⟨logFirst, ?_⟩, logSecond, ?_⟩
  · rw [Decorator.decorate_eq, ranFirst]
  · rw [Decorator.decorate_eq, ranForward]
  · rw [Decorator.decorate_eq, ranSecond]
  · rw [Decorator.decorate_eq, ranBackward]
  · intro id before present
    obtain ⟨left, right, isLeft, isRight, same⟩ := ClassTable.exists_same_of_modify differ
      (isOne.trans isLaterOne.symm) (isLaterTwo.trans isTwo.symm) present
    rw [← classesFirst, ← classesForward] at isLeft
    rw [← classesSecond, ← classesBackward] at isRight
    exact ⟨left, right, isLeft, isRight, ClassObject.tables_eq_of_unstamped same⟩
  · rw [logForward, logFirst]
  · rw [logBackward, logSecond]

namespace Sample

/-- The statement `class Left: x: str = 1`. -/
def left : ClassDefinition :=
  (ClassDefinition.start "Left" [] none).declare "x" .str
    (.single (.constant (.int 1)) Program.entry)

/-- The statement `class Right: y: str = int`. -/
def right : ClassDefinition :=
  (ClassDefinition.start "Right" [] none).declare "y" .str
    (.single (.classObject .int) Program.entry)

/-- The state after both statements. -/
def sides : Analysis :=
  Operation.run (Operation.run (.initial .standard) (.define left)) (.define right)

theorem reaches_sides : Reaches Operation.Known (.initial .standard) sides :=
  .step (.step .refl (.define left) (by decide)) (.define right) (by decide)

/-- Each class reports its own default, in whichever order the two are decorated. -/
theorem sides_commute :
    ∃ afterLeft forward afterRight backward,
      Decorator.decorate ⟨0⟩ (.fresh, sides) = .ok afterLeft.point (.fresh, afterLeft) ∧
      Decorator.decorate ⟨1⟩ (.fresh, afterLeft) = .ok forward.point (.fresh, forward) ∧
      Decorator.decorate ⟨1⟩ (.fresh, sides) = .ok afterRight.point (.fresh, afterRight) ∧
      Decorator.decorate ⟨0⟩ (.fresh, afterRight) = .ok backward.point (.fresh, backward) ∧
      forward.log.errors = [.mismatch "x" "str" "int" "1" ⟨0, 0, 2, 5⟩,
        .mismatch "y" "str" "type[int]" "int" ⟨0, 0, 2, 5⟩] ∧
      backward.log.errors = [.mismatch "y" "str" "type[int]" "int" ⟨0, 0, 2, 5⟩,
        .mismatch "x" "str" "int" "1" ⟨0, 0, 2, 5⟩] := by
  have grounded : ∀ id, sides.types.Knows id → sides.types.Grounded id :=
    fun _ known => reaches_sides.coherent.formed.grounded known
  have apart : ∀ child parent, ¬ Relation.TransGen sides.classes.DerivesFrom child parent := by
    have noBases : ∀ child parent, ¬ sides.classes.DerivesFrom child parent := by
      rintro ⟨index⟩ parent ⟨object, found, member⟩
      match index with
      | 0 | 1 =>
        cases found
        cases member
      | _ + 2 => cases found
    intro child parent above
    cases above with
    | single derives => exact noBases _ _ derives
    | tail _ derives => exact noBases _ _ derives
  have leftStands : Body.StandsIn left.body sides :=
    { annotations := List.forall_mem_singleton.mpr (grounded _ (by decide))
      bindings := List.forall_mem_singleton.mpr (List.forall_mem_singleton.mpr ⟨by decide, nofun⟩) }
  have rightStands : Body.StandsIn right.body sides :=
    { annotations := List.forall_mem_singleton.mpr (grounded _ (by decide))
      bindings := List.forall_mem_singleton.mpr (List.forall_mem_singleton.mpr
        ⟨by decide, List.forall_mem_singleton.mpr (grounded _ (by decide))⟩) }
  obtain ⟨afterLeft, forward, afterRight, backward, errors, warnings, more, further,
    ⟨ranLeft, ranForward⟩, ⟨ranRight, ranBackward⟩, -, ⟨logLeft, logForward⟩, logRight,
    logBackward⟩ := reaches_sides.arises.independent_decorations_commute
      (by decide : (⟨0⟩ : ClassId) ≠ ⟨1⟩) rfl rfl (apart _ _) (apart _ _) leftStands rightStands
      .fresh
  refine ⟨afterLeft, forward, afterRight, backward, ranLeft, ranForward, ranRight, ranBackward, ?_⟩
  have ofLeft : (stateAfter (Decorator.decorate ⟨0⟩) (.fresh, sides)).2.log.errors =
      [.mismatch "x" "str" "int" "1" ⟨0, 0, 2, 5⟩] := by decide
  have ofRight : (stateAfter (Decorator.decorate ⟨1⟩) (.fresh, sides)).2.log.errors =
      [.mismatch "y" "str" "type[int]" "int" ⟨0, 0, 2, 5⟩] := by decide
  rw [stateAfter_of_ok ranLeft, logLeft] at ofLeft
  rw [stateAfter_of_ok ranRight, logRight] at ofRight
  change [] ++ errors = _ at ofLeft
  change [] ++ more = _ at ofRight
  rw [List.nil_append] at ofLeft ofRight
  subst ofLeft ofRight
  rw [logForward, logBackward]
  exact ⟨rfl, rfl⟩

end Sample

end DataclassSynthesis
