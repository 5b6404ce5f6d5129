import DataclassSynthesis.Proofs.ReachedClasses
import DataclassSynthesis.Proofs.UnionLaws

/-!
# What operations do to the types

Whatever identifiers they are given, operations intern types one after the other, and a union among
them has several members, in increasing order (`DataclassSynthesis.Operation.interns_run`). So they
only add types at the end of the context, and never let a name denote another type. Class statements
are the only operations that do so (`DataclassSynthesis.Operation.enlarges_run`).
-/

namespace DataclassSynthesis

/-- A context that holds more types, under the same names. -/
structure TypeContext.Enlarges (before after : TypeContext) : Prop where
  grows : before.Grows after
  named : after.named = before.named

namespace TypeContext.Enlarges

theorem refl (context : TypeContext) : context.Enlarges context := ⟨.refl context, rfl⟩

theorem trans {first second third : TypeContext} (early : first.Enlarges second)
    (late : second.Enlarges third) : first.Enlarges third :=
  ⟨early.grows.trans late.grows, late.named.trans early.named⟩

/-- Names resolve as before in a context that holds more types. -/
theorem resolve {before after : TypeContext} (enlarges : before.Enlarges after) (name : String) :
    after.resolve name = before.resolve name := by
  rw [TypeContext.resolve, TypeContext.resolve, enlarges.named]

end TypeContext.Enlarges

/-- Interning a type leaves the names alone. -/
theorem TypeM.intern_enlarges (type : Ty) (context : TypeContext) :
    context.Enlarges (intern type context).2 := by
  refine ⟨intern_grows type context, ?_⟩
  rcases intern_cases type context with ⟨id, -, same⟩ | ⟨-, added⟩
  · rw [same]
  · rw [added]
    rfl

/-- A union has several members, in increasing order. Every other type is canonical as it is. -/
def Ty.Canonical : Ty → Prop
  | union members =>
    2 ≤ members.length ∧ members.Pairwise fun first second => first.index < second.index
  | scalar _ | nominal _ _ _ | container _ _ | callable _ _ _ | any | never => True

/-- Canonical types are interned one after the other. -/
inductive TypeContext.Interns (before : TypeContext) : TypeContext → Prop
  | refl : Interns before before
  | step {middle : TypeContext} {type : Ty} (earlier : Interns before middle)
      (canonical : type.Canonical) : Interns before (TypeM.intern type middle).2

namespace TypeContext.Interns

/-- Constructions can be made one after the other. -/
theorem trans {first second third : TypeContext} (early : first.Interns second)
    (late : second.Interns third) : first.Interns third := by
  induction late with
  | refl => exact early
  | step _ canonical ih => exact ih.step canonical

/-- A construction adds types and leaves the names alone. -/
theorem enlarges {before after : TypeContext} (interns : before.Interns after) :
    before.Enlarges after := by
  induction interns with
  | refl => exact .refl before
  | step _ _ ih => exact ih.trans (TypeM.intern_enlarges _ _)

end TypeContext.Interns

namespace TypeM

/-- Building a container interns canonical types. -/
theorem container_interns (qualified : String) (arguments : List TypeId) (context : TypeContext) :
    context.Interns (container qualified arguments context).2 := by
  have canonical : (Ty.container qualified arguments).Canonical := trivial
  exact .step .refl canonical

theorem callable_interns (parameters : List TypeId) (result : TypeId) (required : Nat)
    (context : TypeContext) :
    context.Interns (callable parameters result required context).2 := by
  have canonical : (Ty.callable parameters result required).Canonical := trivial
  exact .step .refl canonical

theorem union_interns (members : List TypeId) (context : TypeContext) :
    context.Interns (union members context).2 := by
  have increasing := pairwise_normalizeMembers (members.flatMap context.unionMembers)
  rw [union_eq]
  cases normal : normalizeMembers (members.flatMap context.unionMembers) with
  | nil => exact .refl
  | cons first rest =>
    cases rest with
    | nil => exact .refl
    | cons second others =>
      rw [normal] at increasing
      have canonical : (Ty.union (first :: second :: others)).Canonical :=
        ⟨Nat.le_add_left 2 others.length, increasing⟩
      exact .step .refl canonical

theorem parameterize_interns (name : String) (arguments : List TypeId) (context : TypeContext) :
    context.Interns (stateAfter (parameterize name arguments) context) := by
  unfold stateAfter parameterize
  cases Container.find? name with
  | none => exact .refl
  | some found =>
    by_cases fits : found.arity.all (· == arguments.length) = true
    · simp only [fits, ↓reduceIte]
      exact container_interns found.qualified arguments context
    · simp only [fits]
      exact .refl

end TypeM

namespace Value

/-- Typing a value interns canonical types. -/
theorem type_interns (value : Value) (context : TypeContext) :
    context.Interns (value.type context).2 := by
  cases value with
  | classObject instances => exact TypeM.container_interns _ _ context
  | function callee => exact TypeM.callable_interns _ _ _ context
  | constant _ | instanceOf _ | field _ | unknown => exact .refl

theorem types_interns (values : List Value) (context : TypeContext) :
    context.Interns (types values context).2 := by
  induction values generalizing context with
  | nil => exact .refl
  | cons value rest ih => exact (value.type_interns context).trans (ih _)

end Value

/-- Every operation but a class statement interns canonical types. -/
theorem Operation.interns_run {state : Analysis} (ordered : state.classes.BasesFirst)
    (operation : Operation) : (∃ definition, operation = .define definition) ∨
      state.types.Interns (operation.run state).types := by
  have decorates : ∀ options id, state.types.Interns
      (stateAfter (Decoration.decorate options id) state).types := by
    intro options id
    rcases Decoration.stateAfter_cases ordered options id with same | ⟨object, _, found, _, outcome⟩
    · rw [same]
      exact .refl
    · obtain ⟨typed, -, grown⟩ := outcome.types object found
      rw [grown]
      exact Value.types_interns typed state.types
  have unchanged : ∀ {α : Type} {action : AnalysisM α}, AnalysisM.DefinesNothing action →
      state.types.Interns (stateAfter action state).types := by
    intro α action nothing
    rw [(nothing state).1]
    exact .refl
  cases operation with
  | define definition => exact .inl ⟨definition, rfl⟩
  | container qualified arguments => exact .inr (TypeM.container_interns qualified arguments _)
  | parameterize name arguments => exact .inr (TypeM.parameterize_interns name arguments _)
  | union members => exact .inr (TypeM.union_interns members _)
  | optional type => exact .inr (TypeM.union_interns _ _)
  | callable parameters result required =>
    exact .inr (TypeM.callable_interns parameters result required _)
  | typeOf var =>
    exact .inr ((Value.types_interns var.values _).trans (TypeM.union_interns _ _))
  | badMatches var declared point =>
    right
    change state.types.Interns (DataclassSynthesis.badMatches _ _ _ _ state.types).2
    rw [badMatches_types]
    exact Value.types_interns _ _
  | describeField arguments => exact .inr (unchanged (Field.definesNothing_call arguments))
  | call callee arguments =>
    exact .inr (unchanged (AnalysisM.definesNothing_call callee arguments))
  | instantiate type => exact .inr (unchanged (AnalysisM.definesNothing_instantiate type))
  | advance label => exact .inr (unchanged (AnalysisM.definesNothing_advance label))
  | branch source label => exact .inr (unchanged (AnalysisM.definesNothing_branch source label))
  | warn warning => exact .inr (unchanged (AnalysisM.definesNothing_warn warning))
  | decorate decorator id =>
    rw [run, Decorator.stateAfter_decorate]
    exact .inr (decorates _ id)
  | apply decorator id =>
    rw [run, Decorator.stateAfter_apply]
    exact .inr (decorates _ id)
  | callDecorator decorator arguments =>
    rw [run, Decorator.stateAfter_call]
    right
    split
    · exact decorates _ _
    · exact .refl

/-- Every operation but a class statement only adds types. -/
theorem Operation.enlarges_run {state : Analysis} (ordered : state.classes.BasesFirst)
    (operation : Operation) : (∃ definition, operation = .define definition) ∨
      state.types.Enlarges (operation.run state).types :=
  (operation.interns_run ordered).imp_right TypeContext.Interns.enlarges

end DataclassSynthesis
