import DataclassSynthesis.Proofs.ArisenStates
import DataclassSynthesis.Proofs.DecorationTwice
import DataclassSynthesis.Proofs.SideBySide

/-!
# What decorating reads of the tables it edits

Decorating reads neither the members of a class nor its annotated names, except for whether a class
has a constructor. So it runs alike in two states that agree on everything else
(`DataclassSynthesis.Analysis.SameButTables.indistinct`), and running it twice in a row is the same
as running it once, up to program points (`DataclassSynthesis.Arises.decoration_reads_no_edits`).
-/

namespace DataclassSynthesis

/-- Two states differ at most in the members and annotated names of classes, and agree on which
classes have a constructor. -/
structure Analysis.SameButTables (left right : Analysis) : Prop where
  types : right.types = left.types
  program : right.program = left.program
  log : right.log = left.log
  point : right.point = left.point
  classes : ∀ id,
    Option.Rel ClassObject.SameButTables (left.classes.get? id) (right.classes.get? id)

/-- Nothing that a call or a decoration reads is in the tables that it edits. -/
theorem Analysis.SameButTables.indistinct : Indistinct SameButTables where
  types := SameButTables.types
  program := SameButTables.program
  point := SameButTables.point
  classes := SameButTables.classes
  typed same types := { same with types := rfl }
  edited same id edit uniform := by
    refine { same with classes := fun queried => ?_ }
    rw [ClassTable.get?_modify, ClassTable.get?_modify]
    split
    · rcases ClassTable.get?_cases_of_rel (same.classes id) with
        ⟨isNone, alsoNone⟩ | ⟨object, other, found, alsoFound, alike⟩
      · rw [isNone, alsoNone]
        exact .none
      · rw [found, alsoFound]
        exact .some (uniform object other alike)
    · exact same.classes queried
  warned same warning := { same with log := by rw [same.log] }
  recorded same _ _ _ _ _ := { same with log := by rw [same.log] }
  advanced same label :=
    have moved := AnalysisM.stateAfter_advance_congr same.program same.point label
    { same with program := moved.1, point := moved.2 }

/-- Decorating a class twice in a row leaves what decorating it once leaves: the attributes, the
annotated names, the order of the members, the constructor, and the values of the other members.
More generally, decorating runs alike in any two states that differ at most in members and annotated
names: it gives the same point or error, stores the same attributes, reports the same, and adds the
same program points. -/
theorem Arises.decoration_reads_no_edits (config : WarningConfig) (decorator : Decorator)
    (id : ClassId) :
    (∀ state object, Arises config state → state.classes.get? id = some object →
      (∀ entry ∈ object.body.annotations, state.types.Knows entry.2) →
      ∃ once twice first second,
        Decorator.decorate id (decorator, state) = .ok once.point (decorator, once) ∧
        Decorator.decorate id (decorator, once) = .ok twice.point (decorator, twice) ∧
        once.classes.get? id = some first ∧ twice.classes.get? id = some second ∧
        second.fields = first.fields ∧
        second.annotations = first.annotations ∧
        second.members.keys = first.members.keys ∧
        second.members.find? constructorName = first.members.find? constructorName ∧
        second.members.map Variable.values = first.members.map Variable.values) ∧
    ∀ left right : Analysis, left.SameButTables right →
      ResultsAlike
        (fun before after => before.1 = after.1 ∧ before.2.SameButTables after.2) Eq
        (Decorator.decorate id (decorator, left)) (Decorator.decorate id (decorator, right)) := by
  constructor
  · intro state object arises found known
    obtain ⟨once, twice, first, second, ran, ranAgain, isFirst, isSecond, alike, constructor⟩ :=
      Decoration.decorate_twice arises.sound.basesFirst found (decorator.options id) known
    obtain ⟨fields, annotations, values⟩ := ClassObject.tables_eq_of_unstamped alike
    have keys := congrArg NameTable.keys values
    simp only [NameTable.keys_map] at keys
    refine ⟨once, twice, first, second, ?_, ?_, isFirst, isSecond, fields, annotations, keys,
      constructor, values⟩
    · rw [Decorator.decorate_eq, ran]
    · rw [Decorator.decorate_eq, ranAgain]
  · intro left right same
    have ends := Analysis.SameButTables.indistinct.decorate_runsAlike (decorator.options id) id left
      right same
    rw [Decorator.decorate_eq, Decorator.decorate_eq]
    generalize Decoration.decorate (decorator.options id) id left = early at ends ⊢
    generalize Decoration.decorate (decorator.options id) id right = late at ends ⊢
    cases early <;> cases late
    · exact ⟨ends.1, rfl, ends.2⟩
    · exact ends
    · exact ends
    · exact ⟨ends.1, rfl, ends.2⟩

namespace Sample

/-- The statement `class Mixed: limit: ClassVar[int]; seed: InitVar[int] = 1; token: InitVar[int];
size: int`. -/
def mixed : ClassDefinition :=
  ((((ClassDefinition.start "Mixed" [] none).annotate "limit" ⟨17⟩ none).declare "seed" ⟨18⟩
    (.single (.constant (.int 1)) Program.entry)).annotate "token" ⟨18⟩ none).annotate
    "size" .int none

/-- The state after `ClassVar[int]`, `InitVar[int]` and the statement. -/
def mixedDefined : Analysis :=
  Operation.run (Operation.run (Operation.run (.initial .standard)
    (.container Container.classVariable.qualified [.int]))
    (.container Container.initVariable.qualified [.int])) (.define mixed)

/-- The same state with an empty table of annotated names. -/
def mixedStripped : Analysis :=
  { mixedDefined with
    classes := mixedDefined.classes.modify ⟨0⟩ fun object => { object with annotations := ∅ } }

theorem arises_mixedDefined : Arises .standard mixedDefined :=
  ((Arises.start.move (.perform _ (.container _ _))).move (.perform _ (.container _ _))).move
    (.perform _ (.define mixed))

/-- A second decoration keeps the tables, and the table of annotated names need not be there. -/
theorem mixed_decorated_twice :
    (∃ once twice first second,
      Decorator.decorate ⟨0⟩ (.fresh, mixedDefined) = .ok once.point (.fresh, once) ∧
      Decorator.decorate ⟨0⟩ (.fresh, once) = .ok twice.point (.fresh, twice) ∧
      once.classes.get? ⟨0⟩ = some first ∧ twice.classes.get? ⟨0⟩ = some second ∧
      first.members.keys = ["seed", "size", "__init__"] ∧
      second.members.keys = first.members.keys ∧ second.annotations = first.annotations) ∧
    ∃ point after later,
      Decorator.decorate ⟨0⟩ (.fresh, mixedDefined) = .ok point (.fresh, after) ∧
      Decorator.decorate ⟨0⟩ (.fresh, mixedStripped) = .ok point (.fresh, later) ∧
      after.SameButTables later := by
  obtain ⟨twice, alike⟩ := Arises.decoration_reads_no_edits .standard .fresh ⟨0⟩
  have stripped : mixedDefined.SameButTables mixedStripped :=
    { types := rfl, program := rfl, log := rfl, point := rfl
      classes := fun id => match id with
        | ⟨0⟩ => .some ⟨rfl, rfl⟩
        | ⟨_ + 1⟩ => .none }
  constructor
  · obtain ⟨once, twice, first, second, ran, ranAgain, isFirst, isSecond, -, annotations, keys,
      -, -⟩ := twice mixedDefined _ arises_mixedDefined rfl (by decide)
    refine ⟨once, twice, first, second, ran, ranAgain, isFirst, isSecond, ?_, keys, annotations⟩
    have stored : ((stateAfter (Decorator.decorate ⟨0⟩) (.fresh, mixedDefined)).2.classes.get?
        ⟨0⟩).map (fun object => object.members.keys) = some ["seed", "size", "__init__"] := rfl
    rw [stateAfter_of_ok ran, isFirst] at stored
    exact Option.some.inj stored
  · have ends := alike mixedDefined mixedStripped stripped
    exact ⟨_, _, _, rfl, rfl, ends.2.2⟩

end Sample

end DataclassSynthesis
