import DataclassSynthesis.Proofs.ArisenStates
import DataclassSynthesis.Proofs.MismatchTexts
import DataclassSynthesis.Proofs.ReachedTypes

/-!
# Matching a variable against a type

Matching asks for the type of one value after the other, and the context grows in between. Whether a
value is accepted does not depend on when its type is asked for, so the mismatches are the visible
bindings whose own values are not accepted, in order. When every binding is visible there are none
exactly when the union of the types of all values is accepted
(`DataclassSynthesis.Reaches.badMatches_eq_filter`).
-/

namespace DataclassSynthesis

open TypeContext

/-- Whether the type that a computation asks for may be stored where another one is declared. -/
def TypeContext.accepts (types : TypeContext) (declared : TypeId) (typing : TypeM TypeId) : Bool :=
  (typing types).2.isAssignable (typing types).1 declared

variable {base context after : TypeContext} {declared : TypeId}

/-- A type that was interned is found when it is interned again later. -/
theorem TypeM.intern_again {type : Ty} (inStep : context.InStep)
    (grows : (intern type context).2.Grows after) :
    intern type after = ((intern type context).1, after) := by
  have still := grows.lookup_eq ((intern_grows type context).inStep inStep)
    (lookup_intern type context)
  simp only [intern.eq_1 type after, still]

namespace Value

variable {value : Value}

/-- A value has the same type when it is asked for again later. -/
theorem type_again (inStep : context.InStep) (grows : (value.type context).2.Grows after) :
    value.type after = ((value.type context).1, after) := by
  cases value with
  | classObject instances => exact TypeM.intern_again inStep grows
  | function callee => exact TypeM.intern_again inStep grows
  | constant _ | instanceOf _ | field _ | unknown => rfl

/-- A value whose type is asked for among others has been typed in the end. -/
theorem type_after_types (inStep : context.InStep) {values : List Value}
    (listed : value ∈ values) :
    (value.type (types values context).2).2 = (types values context).2 := by
  induction values generalizing context with
  | nil => cases listed
  | cons first rest ih =>
    rw [types_cons]
    rcases List.mem_cons.mp listed with rfl | later
    · rw [type_again inStep (types_grows rest (value.type context).2)]
    · exact ih ((first.type_grows context).inStep inStep) later

/-- A value is accepted or not, whenever its type is asked for and whenever that type is judged. -/
theorem isAssignable_eq_accepts (builtins : initial.Grows base)
    (components : ∀ component ∈ value.components, base.Grounded component)
    (grounded : base.Grounded declared) (grows : base.Grows context)
    (later : (value.type context).2.Grows after) :
    after.isAssignable (value.type context).1 declared = base.accepts declared value.type := by
  have twins := type_twins grows (.refl base) builtins components
  have stays := twins.grows later (.refl (value.type base).2)
  exact stays.isAssignable_eq (grows.trans ((value.type_grows context).trans later))
    (value.type_grows base) grounded

/-- Whether a value is accepted does not change while the types grow. -/
theorem accepts_eq (builtins : initial.Grows base)
    (components : ∀ component ∈ value.components, base.Grounded component)
    (grounded : base.Grounded declared) (grows : base.Grows after) :
    after.accepts declared value.type = base.accepts declared value.type :=
  isAssignable_eq_accepts builtins components grounded grows (.refl _)

/-- The types of some values are all assignable exactly when each of the values is accepted. -/
theorem types_isAssignable_iff (builtins : initial.Grows base) {values : List Value}
    (components : ∀ value ∈ values, ∀ component ∈ value.components, base.Grounded component)
    (grounded : base.Grounded declared) (grows : base.Grows context)
    (later : (types values context).2.Grows after) :
    (∀ type ∈ (types values context).1, after.isAssignable type declared = true) ↔
      ∀ value ∈ values, base.accepts declared value.type = true := by
  induction values generalizing context with
  | nil => exact iff_of_true nofun nofun
  | cons value rest ih =>
    obtain ⟨isGrounded, othersGrounded⟩ := List.forall_mem_cons.mp components
    -- The types of the rest come after that of the first value and before they are all judged.
    have first := (types_grows rest (value.type context).2).trans later
    have listed : (types (value :: rest) context).1 =
        (value.type context).1 :: (types rest (value.type context).2).1 := rfl
    rw [listed, List.forall_mem_cons, List.forall_mem_cons,
      isAssignable_eq_accepts builtins isGrounded grounded grows first,
      ih othersGrounded (grows.trans (value.type_grows context)) later]

end Value

/-- The mismatches are the visible bindings whose own values are not accepted, in order, each with
the type of its value. -/
theorem badMatches_eq (program : Program) (point : PointId) (builtins : initial.Grows base)
    (grounded : base.Grounded declared) {bindings : List Binding}
    (components : ∀ binding ∈ bindings, ∀ component ∈ binding.value.components,
      base.Grounded component) (grows : base.Grows context) :
    let matched := badMatches program declared point bindings context
    matched.1 = (bindings.filter fun binding =>
        program.isReachable binding.point point && !base.accepts declared binding.value.type).map
      fun binding => ⟨binding, declared, (binding.value.type matched.2).1⟩ := by
  induction bindings generalizing context with
  | nil => rfl
  | cons binding rest ih =>
    obtain ⟨isGrounded, othersGrounded⟩ := List.forall_mem_cons.mp components
    dsimp only
    by_cases visible : program.isReachable binding.point point = true
    · have later := ih othersGrounded (grows.trans (binding.value.type_grows context))
      have judged := Value.isAssignable_eq_accepts builtins isGrounded grounded grows
        (.refl (binding.value.type context).2)
      -- The mismatch names the type found now; the statement asks for it again at the end.
      have again := Value.type_again ((builtins.trans grows).inStep inStep_initial)
        (badMatches_grows program declared point rest
        (binding.value.type context).2)
      rw [badMatches_cons_of_visible visible]
      dsimp only at later ⊢
      cases accepted : base.accepts declared binding.value.type with
      | true =>
        rw [if_pos (judged.trans accepted), List.filter_cons_of_neg (by simp [accepted]), later]
      | false =>
        rw [if_neg (by simp [judged, accepted]),
          List.filter_cons_of_pos (by simp [visible, accepted]), List.map_cons, again, ← later]
    · rw [badMatches_cons_of_hidden visible, List.filter_cons_of_neg (by simp [visible])]
      exact ih othersGrounded grows

/-- The union of the types of some values is accepted exactly when each of the values is. -/
theorem Variable.accepts_type_iff (formed : base.WellFormed) {var : Variable}
    (known : ∀ value ∈ var.values, ∀ component ∈ value.components, base.Knows component)
    (isKnown : base.Knows declared) :
    base.accepts declared var.type = true ↔
      ∀ value ∈ var.values, base.accepts declared value.type = true := by
  obtain ⟨typed, typesKnown⟩ := Value.types_extension formed known
  have extended := (typed.formed.union_spec typesKnown).1
  have join := typed.formed.isJoin_union typesKnown
  have union : base.accepts declared var.type =
      (TypeM.union (Value.types var.values base).1 (Value.types var.values base).2).2.isAssignable
        (TypeM.union (Value.types var.values base).1 (Value.types var.values base).2).1
        declared := rfl
  rw [union, join.least declared (extended.grows.knows (typed.grows.knows isKnown))]
  exact Value.types_isAssignable_iff formed.starts
    (fun value listed component mentioned =>
      formed.grounded (known value listed component mentioned))
    (formed.grounded isKnown) (.refl base) extended.grows

section

variable {config : WarningConfig} {state : Analysis} {var : Variable}

/-- In a reached state the mismatches of a variable are the visible bindings whose own values are
not accepted, each of them once and in order. If all bindings are visible, there are none exactly
when the union of the types of the values is accepted. Whatever follows, the answers stay the
same. -/
theorem Reaches.badMatches_eq_filter
    (reached : Reaches Operation.Known (Analysis.initial config) state)
    (isKnown : state.types.Knows declared)
    (known : ∀ value ∈ var.values, ∀ component ∈ value.components, state.types.Knows component)
    (point : PointId) :
    ∃ bad after, AnalysisM.badMatchesAt var declared point state = .ok bad after ∧
      ∀ later, Reaches Operation.Known state later →
        bad = (var.bindings.filter fun binding =>
            state.program.isReachable binding.point point &&
              !later.types.accepts declared binding.value.type).map
          (fun binding => ⟨binding, declared, (binding.value.type after.types).1⟩) ∧
        ((∀ binding ∈ var.bindings, state.program.isReachable binding.point point = true) →
          (bad = [] ↔ later.types.accepts declared var.type = true)) := by
  have formed := reached.coherent.formed
  have grounded := formed.grounded isKnown
  have components : ∀ value ∈ var.values, ∀ component ∈ value.components,
      state.types.Grounded component := fun value listed component mentioned =>
    formed.grounded (known value listed component mentioned)
  have matches_eq := badMatches_eq state.program point formed.starts grounded
    (fun binding listed => components binding.value (List.mem_map_of_mem listed))
    (.refl state.types)
  refine ⟨_, _, rfl, fun later rest => ?_⟩
  have grows := (rest.grows reached.basesFirst).1
  have stable : ∀ value ∈ var.values, later.types.accepts declared value.type =
      state.types.accepts declared value.type := fun value listed =>
    Value.accepts_eq formed.starts (components value listed) grounded grows
  have listed : var.bindings.filter (fun binding =>
        state.program.isReachable binding.point point &&
          !later.types.accepts declared binding.value.type) =
      var.bindings.filter fun binding => state.program.isReachable binding.point point &&
        !state.types.accepts declared binding.value.type :=
    List.filter_congr fun binding member => by rw [stable _ (List.mem_map_of_mem member)]
  refine ⟨matches_eq.trans (by rw [listed]), fun visible => ?_⟩
  have laterKnown : ∀ value ∈ var.values, ∀ component ∈ value.components,
      later.types.Knows component := fun value listed component mentioned =>
    grows.knows (known value listed component mentioned)
  rw [matches_eq, List.map_eq_nil_iff, ← listed, List.filter_eq_nil_iff,
    Variable.accepts_type_iff (reached.trans rest).coherent.formed laterKnown (grows.knows isKnown)]
  constructor
  · intro none value isValue
    obtain ⟨binding, member, rfl⟩ := List.mem_map.mp isValue
    simpa [visible binding member] using none binding member
  · intro all binding member
    simp [all binding.value (List.mem_map_of_mem member)]

end

namespace Sample

/-- Two instances of a derived class, a value of unknown type, a member of `Optional[Base]`, a
field, a class object and a function. -/
def assorted : Variable where
  bindings := [.instanceOf ⟨18⟩, .instanceOf ⟨18⟩, .unknown, .instanceOf ⟨19⟩,
    .field ⟨none, true, none⟩, .classObject ⟨17⟩,
    .function (.declare "make" [] ⟨17⟩)].map fun value => ⟨value, Program.entry⟩

/-- Of the values only the class object and the function do not belong to `Optional[Base]`, and so
the union of all of their types does not either. -/
theorem assorted_badMatches :
    ∃ bad after, AnalysisM.badMatchesAt assorted ⟨19⟩ Program.entry optionalBase = .ok bad after ∧
      bad.map BadMatch.binding = assorted.bindings.drop 5 ∧
      ¬ optionalBase.types.accepts ⟨19⟩ assorted.type = true := by
  obtain ⟨bad, after, ran, always⟩ := @Reaches.badMatches_eq_filter ⟨19⟩ _ _ assorted
    reaches_optionalBase (by decide) (by decide) Program.entry
  obtain ⟨isFilter, agrees⟩ := always optionalBase .refl
  have listed : bad.map BadMatch.binding = assorted.bindings.drop 5 := by
    rw [isFilter, List.map_map]
    rfl
  refine ⟨bad, after, ran, listed, fun accepted => ?_⟩
  rw [(agrees (by decide)).mpr accepted] at listed
  cases listed

end Sample

end DataclassSynthesis
