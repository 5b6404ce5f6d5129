import DataclassSynthesis.Proofs.ArgumentChecks
import DataclassSynthesis.Proofs.FunctionSubstitution
import DataclassSynthesis.Proofs.WarningRouting

/-!
# Calls of `field`

The arguments of a call of `field` decide what it does. It is refused for positional arguments,
then for unknown keywords, then for two defaults, and then for a factory that cannot be called
without arguments. A call that is refused changes nothing. Every other call describes a field: it
moves on by one point if it calls a factory, and raises one warning for an `init` that is no literal
truth value, and none otherwise
(`DataclassSynthesis.Field.call_decided`).
-/

namespace DataclassSynthesis

/-- Literals, instances and field descriptions cannot be called. -/
def Value.Inert : Value → Prop
  | constant _ | instanceOf _ | field _ => True
  | classObject _ | function _ | unknown => False

/-- Why a call without arguments has no result: there is nothing to call, the first value cannot be
called, or it is a function that requires an argument. -/
inductive Variable.RefusesCall (types : TypeContext) (callee : Variable) (span : Span) :
    DecorateError → Prop
  | nothing (empty : callee.bindings = []) :
    RefusesCall types callee span (.notCallable "<empty>" span)
  | inert {value : Value} (first : callee.first? = some value) (inert : value.Inert) :
    RefusesCall types callee span (.notCallable (value.describe types) span)
  | required {function : Function} {parameter : Parameter}
    (first : callee.first? = some (.function function))
    (among : parameter ∈ function.signature.parameters) (required : parameter.default = none) :
    RefusesCall types callee span
      (.argumentCount function.name function.signature.requiredCount 0 span)

/-- The variable holds nothing but `None`. -/
def Variable.OnlyNone (var : Variable) : Prop :=
  var.bindings ≠ [] ∧ ∀ binding ∈ var.bindings, binding.value = .constant .none

/-- The variable is a single literal truth value. -/
def Variable.IsLiteral (var : Variable) (value : Bool) : Prop :=
  ∃ point, var = .single (.constant (.bool value)) point

/-- A call without arguments fits unless a parameter is required. -/
theorem Signature.not_accepts_zero_iff {signature : Signature} :
    ¬ signature.accepts 0 = true ↔
      ∃ parameter ∈ signature.parameters, parameter.default = none := by
  simp [accepts_iff, requiredCount, List.length_eq_zero_iff]

/-- A call without arguments gives an error exactly when the callee refuses it. -/
theorem Analysis.callResult_eq_error_iff {state : Analysis} {callee : Variable} {span : Span}
    {error : DecorateError} :
    state.callResult callee (CallArguments.none span) = .error error ↔
      callee.RefusesCall state.types span error := by
  constructor
  · intro failed
    unfold callResult at failed
    split at failed
    · cases failed
    · next function first =>
      split at failed
      · cases failed
      · next tooFew =>
        cases failed
        obtain ⟨parameter, among, required⟩ := Signature.not_accepts_zero_iff.mp tooFew
        exact .required first among required
    · cases failed
    · next value notClass notFunction notUnknown first =>
      cases failed
      cases value with
      | classObject instances => exact (notClass instances rfl).elim
      | function function => exact (notFunction function rfl).elim
      | unknown => exact (notUnknown rfl).elim
      | constant _ | instanceOf _ | field _ => exact .inert first trivial
    · next first =>
      cases failed
      exact .nothing (by simpa [Variable.first?] using first)
  · intro refuses
    cases refuses with
    | nothing empty => simp only [callResult, Variable.first?, empty]; rfl
    | @inert value first inert =>
      simp only [callResult, first]
      cases value with
      | classObject _ | function _ | unknown => exact inert.elim
      | constant _ | instanceOf _ | field _ => rfl
    | required first among required =>
      have tooFew := Signature.not_accepts_zero_iff.mpr ⟨_, among, required⟩
      simp only [callResult, first]
      exact if_neg tooFew

/-- A variable is taken for `None` exactly if it has the one value `None`. -/
theorem Variable.isNoneConstant_iff {var : Variable} :
    var.isNoneConstant = true ↔ var.OnlyNone := by
  have isNone : ∀ value : Value, value.isNoneConstant = true ↔ value = .constant .none := by
    intro value
    unfold Value.isNoneConstant
    split <;> simp_all
  simp [isNoneConstant, OnlyNone, values, isNone]

/-- A truth value is read from a variable exactly if the variable is that literal. -/
theorem Variable.constantBool?_eq_some_iff {var : Variable} {value : Bool} :
    var.constantBool? = some value ↔ var.IsLiteral value := by
  constructor
  · intro known
    unfold constantBool? at known
    split at known
    · next literal point held =>
      cases known
      obtain ⟨bindings⟩ := var
      exact ⟨point, congrArg Variable.mk held⟩
    · cases known
  · rintro ⟨point, rfl⟩
    rfl

/-- The state after a call: there is a new point, and the analysis stands there. -/
def Analysis.called (state : Analysis) : Analysis :=
  { state with
    program := (state.program.extend state.point "call").2
    point := (state.program.extend state.point "call").1 }

namespace AnalysisM

variable {state : Analysis} {callee : Variable} {arguments : CallArguments}

/-- A refused call leaves the state alone. -/
theorem call_of_error {error : DecorateError}
    (refused : state.callResult callee arguments = .error error) :
    call callee arguments state = .error error state := by
  rw [call, get_bind, refused]
  rfl

/-- A call gives its result at the new point. -/
theorem call_of_ok {value : Value} (made : state.callResult callee arguments = .ok value) :
    call callee arguments state = .ok (.single value state.called.point) state.called := by
  rw [call, get_bind, made]
  rfl

end AnalysisM

namespace Field

/-- The call has no positional arguments and known keywords only. -/
structure Fits (arguments : CallArguments) : Prop where
  positional : arguments.positional = []
  keywords : ∀ name ∈ arguments.keywords.keys, name ∈ Field.keywords

/-- Why a call of `field` has no result. -/
inductive Refuses (state : Analysis) (arguments : CallArguments) : DecorateError → Prop
  | positional (given : arguments.positional ≠ []) :
    Refuses state arguments
      (.argumentCount qualifiedName 0 arguments.positional.length arguments.span)
  | keywords (positional : arguments.positional = []) {names : List String}
    (listed : names = arguments.keywords.keys.filter (· ∉ Field.keywords))
    (unknown : names ≠ []) :
    Refuses state arguments (.unknownKeywords qualifiedName names arguments.span)
  | defaults (fits : Fits arguments) {default factory : Variable}
    (given : arguments.keyword? "default" = some default)
    (alsoGiven : arguments.keyword? "default_factory" = some factory) :
    Refuses state arguments (.duplicateKeyword qualifiedName "default" arguments.span)
  | factory (fits : Fits arguments) {factory : Variable}
    (alone : arguments.keyword? "default" = none)
    (given : arguments.keyword? "default_factory" = some factory) {error : DecorateError}
    (refuses : factory.RefusesCall state.types arguments.span error) :
    Refuses state arguments error

/-- The default is what is given, or what the given factory makes. Calling the factory moves on by
one point. -/
structure Defaults (state : Analysis) (arguments : CallArguments) (default : Option Variable)
    (after : Analysis) : Prop where
  given : default.isSome = true ↔ (arguments.keyword? "default").isSome = true ∨
    (arguments.keyword? "default_factory").isSome = true
  explicit : ∀ value, arguments.keyword? "default" = some value → default = some value
  made : ∀ factory, arguments.keyword? "default_factory" = some factory → ∃ result called,
    AnalysisM.call factory (CallArguments.none arguments.span) state = .ok result called ∧
      default = some result
  advances : (arguments.keyword? "default_factory").isSome = true →
    after.program.points = state.program.points ++ [⟨"call", some state.point⟩] ∧
      after.point = ⟨state.program.size⟩
  stays : arguments.keyword? "default_factory" = none →
    after.program = state.program ∧ after.point = state.point

/-- The default that an attribute takes is the given one, unless that is `None`. -/
structure TakesDefault (default effective : Option Variable) (point : PointId) : Prop where
  present : effective.isSome = true ↔ default.isSome = true
  unsaid : ∀ value, default = some value → value.OnlyNone →
    effective = some (.single .unknown point)
  same : ∀ value, default = some value → ¬ value.OnlyNone → effective = some value

/-- The attribute is a constructor parameter unless a literal says otherwise. One warning is raised
for anything but a literal, and else the log stays as it is. -/
structure Initializes (before : Log) (arguments : CallArguments) (init : Bool) (after : Log) :
    Prop where
  literal : ∀ given, arguments.keyword? "init" = some given → ∀ value, given.IsLiteral value →
    init = value
  otherwise : (∀ given, arguments.keyword? "init" = some given → ∀ value, ¬ given.IsLiteral value) →
    init = true
  reported : ∀ given, arguments.keyword? "init" = some given → (∀ value, ¬ given.IsLiteral value) →
    before.Raises (.nonConstantKeyword "init" true arguments.span) after
  silent : (∀ given, arguments.keyword? "init" = some given → ∃ value, given.IsLiteral value) →
    after = before

/-- What a call describes, and the state that it leaves. -/
structure Describes (state : Analysis) (arguments : CallArguments) (descriptor : FieldDescriptor)
    (after : Analysis) : Prop where
  default : Defaults state arguments descriptor.default after
  effective : TakesDefault descriptor.default descriptor.effective after.point
  init : Initializes state.log arguments descriptor.init after.log
  types : after.types = state.types
  classes : after.classes = state.classes

variable {state : Analysis} {arguments : CallArguments}

/-- The default that takes effect is the described one, unless that is just `None`. -/
theorem takesDefault (default : Option Variable) (point : PointId) :
    TakesDefault default (default.map (effectiveDefault point)) point where
  present := by rw [Option.isSome_map]
  unsaid value given only := by
    rw [given, Option.map_some, effectiveDefault, if_pos (Variable.isNoneConstant_iff.mpr only)]
  same value given useful := by
    rw [given, Option.map_some, effectiveDefault,
      if_neg fun none => useful (Variable.isNoneConstant_iff.mp none)]

/-- Arguments fit if none is positional and every keyword is known. -/
theorem fits_iff : Fits arguments ↔
    arguments.positional = [] ∧ arguments.unknownKeywords keywords = [] := by
  rw [CallArguments.unknownKeywords_eq_nil_iff]
  exact ⟨fun fits => ⟨fits.positional, fits.keywords⟩, fun both => ⟨both.1, both.2⟩⟩

theorem length_positional_le (positional : arguments.positional = []) :
    arguments.positional.length ≤ 0 := by
  rw [positional, List.length_nil]

theorem check_of_fits (fits : Fits arguments) :
    arguments.check qualifiedName 0 keywords = .ok () :=
  CallArguments.check_of_known _ (length_positional_le fits.positional) (fits_iff.mp fits).2

/-- Either the arguments are refused at once, or they fit. -/
theorem fits_or_refuses (state : Analysis) (arguments : CallArguments) :
    Fits arguments ∨ ∃ error, Refuses state arguments error := by
  by_cases positional : arguments.positional = []
  · by_cases known : arguments.unknownKeywords keywords = []
    · exact .inl (fits_iff.mpr ⟨positional, known⟩)
    · exact .inr ⟨_, .keywords positional (arguments.unknownKeywords_eq _) known⟩
  · exact .inr ⟨_, .positional positional⟩

/-- With arguments that fit, the default and the participation in the constructor are read in
turn. -/
theorem call_eq (fits : Fits arguments) :
    call arguments state = (do
      let default ← default? arguments
      let init ← init arguments
      let now ← get
      pure (.single (.field ⟨default.map (effectiveDefault now.point), init, default⟩) now.point)
        : AnalysisM Variable) state := by
  rw [call, check_of_fits fits]
  rfl

/-- A call that is refused has no effect. -/
theorem Refuses.call_eq {error : DecorateError} (refused : Refuses state arguments error) :
    call arguments state = .error error state := by
  have checked : ∀ {error : DecorateError},
      arguments.check qualifiedName 0 Field.keywords = .error error →
        call arguments state = .error error state := fun failed => by
    rw [call, failed]
    rfl
  cases refused with
  | positional given =>
    exact checked (CallArguments.check_of_many _ (List.length_pos_iff.mpr given))
  | keywords positional listed unknown =>
    rw [← CallArguments.unknownKeywords_eq] at listed
    subst listed
    exact checked (CallArguments.check_of_unknown _ (length_positional_le positional) unknown)
  | defaults fits given alsoGiven =>
    have failed : default? arguments state =
        .error (.duplicateKeyword qualifiedName "default" arguments.span) state := by
      rw [default?, given, alsoGiven]
      rfl
    rw [Field.call_eq fits, bind_of_error failed]
  | factory fits alone given refuses =>
    have failed : default? arguments state = .error error state := by
      rw [default?, alone, given]
      exact bind_of_error (AnalysisM.call_of_error (Analysis.callResult_eq_error_iff.mpr refuses))
    rw [Field.call_eq fits, bind_of_error failed]

/-- Either the arguments are refused, or there is a default to go on with. -/
theorem default?_spec (state : Analysis) (fits : Fits arguments) :
    (∃ error, Refuses state arguments error) ∨
      ∃ default middle, default? arguments state = .ok default middle ∧
        Defaults state arguments default middle ∧ middle.types = state.types ∧
        middle.classes = state.classes ∧ middle.log = state.log := by
  cases given : arguments.keyword? "default" with
  | none =>
    cases alsoGiven : arguments.keyword? "default_factory" with
    | none =>
      refine .inr ⟨none, state, ?_, ?_, rfl, rfl, rfl⟩
      · rw [default?, given, alsoGiven]
        rfl
      · constructor <;> simp [given, alsoGiven]
    | some factory =>
      cases made : state.callResult factory (CallArguments.none arguments.span) with
      | error error =>
        exact .inl ⟨error, .factory fits given alsoGiven
          (Analysis.callResult_eq_error_iff.mp made)⟩
      | ok value =>
        have called := AnalysisM.call_of_ok made
        refine .inr ⟨some (.single value state.called.point), state.called, ?_, ?_, rfl, rfl, rfl⟩
        · rw [default?, given, alsoGiven]
          exact bind_of_ok called
        · constructor <;> simp [given, alsoGiven, called, Analysis.called, Program.extend]
  | some default =>
    cases alsoGiven : arguments.keyword? "default_factory" with
    | some factory => exact .inl ⟨_, .defaults fits given alsoGiven⟩
    | none =>
      refine .inr ⟨some default, state, ?_, ?_, rfl, rfl, rfl⟩
      · rw [default?, given, alsoGiven]
        rfl
      · constructor <;> simp [given, alsoGiven]

/-- Reading the participation in the constructor adds to the log at most. -/
theorem init_spec (state : Analysis) (arguments : CallArguments) :
    ∃ value log, init arguments state = .ok value { state with log := log } ∧
      Initializes state.log arguments value log := by
  cases given : arguments.keyword? "init" with
  | none =>
    refine ⟨true, state.log, ?_, ?_⟩
    · rw [init, given]
      rfl
    · constructor <;> simp [given]
  | some flag =>
    have isFlag : ∀ other, arguments.keyword? "init" = some other → flag = other :=
      fun other same => Option.some.inj (given.symm.trans same)
    cases known : flag.constantBool? with
    | some value =>
      have literal := Variable.constantBool?_eq_some_iff.mp known
      refine ⟨value, state.log, ?_,
        { literal := fun other same read isLiteral => ?_
          otherwise := fun never => (never flag given value literal).elim
          reported := fun other same never => ?_
          silent := fun _ => rfl }⟩
      · simp only [init, given, known]
        rfl
      · obtain rfl := isFlag other same
        rw [← Variable.constantBool?_eq_some_iff, known] at isLiteral
        exact Option.some.inj isLiteral
      · obtain rfl := isFlag other same
        exact (never value literal).elim
    | none =>
      have noLiteral : ∀ value, ¬ flag.IsLiteral value := fun value literal => by
        rw [← Variable.constantBool?_eq_some_iff, known] at literal
        cases literal
      refine ⟨true, state.log.warn (.nonConstantKeyword "init" true arguments.span), ?_,
        { literal := fun other same read isLiteral => ?_
          otherwise := fun _ => rfl
          reported := fun _ _ _ => state.log.raises_warn _
          silent := fun always => ?_ }⟩
      · simp only [init, given, known]
        rfl
      · obtain rfl := isFlag other same
        exact (noLiteral read isLiteral).elim
      · obtain ⟨value, literal⟩ := always flag given
        exact (noLiteral value literal).elim

/-- Every call that is not refused describes a field. -/
theorem call_cases (state : Analysis) (arguments : CallArguments) :
    (∃ error, Refuses state arguments error) ∨
      ∃ descriptor after, call arguments state =
          .ok (.single (.field descriptor) after.point) after ∧
        Describes state arguments descriptor after := by
  rcases fits_or_refuses state arguments with fits | refused
  · rcases default?_spec state fits with
      refused | ⟨default, middle, ran, defaults, types, classes, log⟩
    · exact .inl refused
    · obtain ⟨init, after, initialized, initializes⟩ := init_spec middle arguments
      refine .inr ⟨⟨default.map (effectiveDefault middle.point), init, default⟩,
        { middle with log := after }, ?_, ?_⟩
      · rw [call_eq fits, bind_of_ok ran, bind_of_ok initialized]
        rfl
      · exact
          { default := { defaults with }
            effective := takesDefault default middle.point
            init := log ▸ initializes
            types := types
            classes := classes }
  · exact .inl refused

/-- A call of `field` fails exactly with the errors that its arguments are refused with, and changes
nothing then. Every other call describes a field. Calling a factory without arguments fails exactly
with the errors that the factory refuses such a call with. -/
theorem call_decided (state : Analysis) (arguments : CallArguments) :
    (∀ error after, call arguments state = .error error after ↔
      Refuses state arguments error ∧ after = state) ∧
      ((∃ error, Refuses state arguments error) ∨
        ∃ descriptor after, call arguments state =
            .ok (.single (.field descriptor) after.point) after ∧
          Describes state arguments descriptor after) ∧
      ∀ (factory : Variable) error after,
        AnalysisM.call factory (CallArguments.none arguments.span) state = .error error after ↔
          factory.RefusesCall state.types arguments.span error ∧ after = state := by
  refine ⟨fun error after => ⟨fun failed => ?_, ?_⟩, call_cases state arguments,
    fun factory error after => ⟨fun failed => ?_, ?_⟩⟩
  · rcases call_cases state arguments with ⟨other, refused⟩ | ⟨descriptor, later, ran, -⟩
    · have same := refused.call_eq.symm.trans failed
      cases same
      exact ⟨refused, rfl⟩
    · rw [ran] at failed
      cases failed
  · rintro ⟨refused, rfl⟩
    exact refused.call_eq
  · cases made : state.callResult factory (CallArguments.none arguments.span) with
    | error other =>
      rw [AnalysisM.call_of_error made] at failed
      cases failed
      exact ⟨Analysis.callResult_eq_error_iff.mp made, rfl⟩
    | ok value =>
      rw [AnalysisM.call_of_ok made] at failed
      cases failed
  · rintro ⟨refuses, rfl⟩
    exact AnalysisM.call_of_error (Analysis.callResult_eq_error_iff.mpr refuses)

end Field

namespace Sample

/-- The call `field(init=flag, default_factory=int)` with a flag that is not known. -/
def counted : CallArguments :=
  ⟨[], NameTable.ofList [("init", .single .unknown Program.entry),
    ("default_factory", .single (.classObject .int) Program.entry)], Span.unknown⟩

/-- The call describes a field with a new integer for a default. It moves on to the point where the
integer is made, and reports the flag. With a positional argument it is refused for that. -/
theorem counted_described :
    (∃ descriptor after, Field.call counted (.initial .standard) =
          .ok (.single (.field descriptor) ⟨1⟩) after ∧
        descriptor.default = some (.single (.instanceOf .int) ⟨1⟩) ∧
        descriptor.effective = descriptor.default ∧ descriptor.init = true ∧
        after.log.warnings = [.nonConstantKeyword "init" true Span.unknown] ∧
        after.log.errors = []) ∧
      Field.call { counted with positional := [.empty] } (.initial .standard) =
        .error (.argumentCount "dataclasses.field" 0 1 Span.unknown) (.initial .standard) := by
  have noLiteral : ∀ value, ¬ (Variable.single .unknown Program.entry).IsLiteral value := by
    rintro value ⟨point, same⟩
    cases same
  obtain ⟨-, ⟨error, refused⟩ | ⟨descriptor, after, ran, describes⟩, -⟩ :=
    Field.call_decided (.initial .standard) counted
  · cases refused with
    | positional given => exact (given rfl).elim
    | keywords _ listed unknown => exact (unknown (listed.trans (by decide))).elim
    | defaults _ given _ => cases given
    | factory _ _ given refuses =>
      cases given
      cases refuses with
      | nothing empty => cases empty
      | inert first inert =>
        cases first
        exact inert.elim
      | required first _ _ => cases first
  · obtain ⟨result, called, makes, default⟩ := describes.default.made _ rfl
    cases makes
    have moved : after.point = ⟨1⟩ := (describes.default.advances rfl).2
    have useful : ¬ (Variable.single (.instanceOf .int) ⟨1⟩).OnlyNone := fun only =>
      nomatch only.2 _ (List.mem_singleton_self _)
    refine ⟨⟨descriptor, after, moved ▸ ran, default, ?_, ?_, ?_⟩, ?_⟩
    · exact (describes.effective.same _ default useful).trans default.symm
    · refine describes.init.otherwise fun given isGiven => ?_
      cases isGiven
      exact noLiteral
    · exact (describes.init.reported _ rfl noLiteral).recorded rfl rfl
    · refine ((Field.call_decided _ _).1 _ _).mpr ⟨.positional ?_, rfl⟩
      exact List.cons_ne_nil _ _

end Sample

end DataclassSynthesis
