import DataclassSynthesis.Proofs.ParameterOrder

/-!
# Blocks of parameters

A list of attributes gives a constructor whose parameters are a block of required ones, the receiver
among them, followed by a block of optional ones, unless a constructor attribute without a default
comes after one with a default. The first attribute that does so is the one that is reported, and
attributes that are no parameters have no say in it
(`DataclassSynthesis.Attribute.requiredAfterDefault_decided`).
-/

namespace DataclassSynthesis

/-- The parameters are a block of required ones followed by a block of optional ones. -/
structure Signature.InBlocks (signature : Signature) (required optional : List Parameter) :
    Prop where
  split : signature.parameters = required ++ optional
  required : ∀ parameter ∈ required, parameter.default = none
  optional : ∀ parameter ∈ optional, parameter.default ≠ none

/-- A parameter must be supplied when it has no default. -/
theorem Parameter.isRequired_iff {parameter : Parameter} :
    parameter.isRequired = true ↔ parameter.default = none := Option.isNone_iff_eq_none

namespace Signature

variable {signature : Signature} {required optional : List Parameter}

/-- The required parameters are those of the first block. -/
theorem InBlocks.requiredCount_eq (blocks : signature.InBlocks required optional) :
    signature.requiredCount = required.length := by
  have kept : required.filter (fun parameter => parameter.default.isNone) = required :=
    List.filter_eq_self.mpr fun parameter among =>
      Parameter.isRequired_iff.mpr (blocks.required parameter among)
  have dropped : optional.filter (fun parameter => parameter.default.isNone) = [] :=
    List.filter_eq_nil_iff.mpr fun parameter among isNone =>
      blocks.optional parameter among (Parameter.isRequired_iff.mp isNone)
  rw [requiredCount, blocks.split, List.filter_append, kept, dropped, List.append_nil]

/-- A receiver belongs to the first block. -/
theorem InBlocks.head?_required (blocks : signature.InBlocks required optional)
    {receiver : Parameter} (first : signature.parameters.head? = some receiver)
    (mandatory : receiver.default = none) : required.head? = some receiver := by
  rw [blocks.split] at first
  cases required with
  | nil =>
    have among : receiver ∈ optional := List.mem_of_head? first
    exact (blocks.optional receiver among mandatory).elim
  | cons leading rest => exact first

/-- Parameters stand in blocks when nothing required is left after the leading required ones. -/
theorem find?_dropWhile_eq_none_iff :
    (signature.parameters.dropWhile Parameter.isRequired).find? Parameter.isRequired = none ↔
      ∃ required optional, signature.InBlocks required optional := by
  refine ⟨fun missing => ?_, ?_⟩
  · refine ⟨signature.parameters.takeWhile Parameter.isRequired,
      signature.parameters.dropWhile Parameter.isRequired, List.takeWhile_append_dropWhile.symm,
      fun parameter among => ?_, fun parameter among absent => ?_⟩
    · exact Parameter.isRequired_iff.mp (List.mem_takeWhile_imp among)
    · exact List.find?_eq_none.mp missing parameter among (Parameter.isRequired_iff.mpr absent)
  · intro ⟨required, optional, blocks⟩
    have skipped : required.dropWhile Parameter.isRequired = [] :=
      List.dropWhile_eq_nil_iff.mpr fun parameter among =>
        Parameter.isRequired_iff.mpr (blocks.required parameter among)
    rw [blocks.split, List.dropWhile_append, skipped, List.isEmpty_nil, if_pos rfl]
    apply List.find?_eq_none.mpr
    intro parameter left isRequired
    exact blocks.optional parameter ((List.dropWhile_sublist _).subset left)
      (Parameter.isRequired_iff.mp isRequired)

end Signature

namespace Attribute

/-- The attribute is a required parameter, and one of the attributes before it an optional one. -/
structure Misplaced (attr : Attribute) (before : List Attribute) : Prop where
  init : attr.init = true
  default : attr.default = none
  follows : ∃ earlier ∈ before, earlier.init = true ∧ earlier.default ≠ none

/-- The attribute is the first one of the list that is misplaced. -/
def FirstMisplacedIn (attrs : List Attribute) (attr : Attribute) : Prop :=
  ∃ before after, attrs = before ++ attr :: after ∧ attr.Misplaced before ∧
    ∀ front earlier back, before = front ++ earlier :: back → ¬ earlier.Misplaced front

/-- An attribute is required if it is passed to the constructor and has no default. -/
theorem isRequired_iff {attr : Attribute} :
    attr.isRequired = true ↔ attr.init = true ∧ attr.default = none := by
  rw [isRequired, Bool.and_eq_true, Option.isNone_iff_eq_none]

theorem isOptional_iff {attr : Attribute} :
    attr.isOptional = true ↔ attr.init = true ∧ attr.default ≠ none := by
  rw [isOptional, Bool.and_eq_true, Option.isSome_iff_ne_none]

/-- An attribute is misplaced after others if it is required and one of them is optional. -/
theorem misplaced_iff {attr : Attribute} {before : List Attribute} :
    attr.Misplaced before ↔
      attr.isRequired = true ∧ ∃ earlier ∈ before, earlier.isOptional = true := by
  simp only [isRequired_iff, isOptional_iff]
  exact ⟨fun misplaced => ⟨⟨misplaced.init, misplaced.default⟩, misplaced.follows⟩,
    fun ⟨⟨init, default⟩, follows⟩ => ⟨init, default, follows⟩⟩

/-- No attribute is both required and optional. -/
theorem isRequired_eq_false_of_isOptional {attr : Attribute} (optional : attr.isOptional = true) :
    attr.isRequired = false :=
  Bool.eq_false_iff.mpr fun required =>
    (isOptional_iff.mp optional).2 (isRequired_iff.mp required).2

/-- After the first optional parameter, the first required one is reported. -/
theorem requiredAfterDefault_append_cons {skipped : List Attribute} {optional : Attribute}
    (rest : List Attribute) (before : ∀ earlier ∈ skipped, earlier.isOptional = false)
    (isOptional : optional.isOptional = true) :
    requiredAfterDefault (skipped ++ optional :: rest) = rest.find? isRequired := by
  have passed : ∀ earlier ∈ skipped, (!earlier.isOptional) = true := fun earlier among => by
    rw [before earlier among, Bool.not_false]
  have stops : ¬ (!optional.isOptional) = true := by
    rw [isOptional, Bool.not_true]
    exact Bool.false_ne_true
  have unrequired := Bool.eq_false_iff.mp (isRequired_eq_false_of_isOptional isOptional)
  calc requiredAfterDefault (skipped ++ optional :: rest)
      = ((optional :: rest).dropWhile fun attr => !attr.isOptional).find? isRequired := by
        rw [requiredAfterDefault, List.dropWhile_append_of_pos passed]
    _ = (optional :: rest).find? isRequired := by
        rw [List.dropWhile_cons, if_neg stops]
    _ = rest.find? isRequired := List.find?_cons_of_neg unrequired

/-- Without an optional parameter there is nothing to report. -/
theorem requiredAfterDefault_eq_none {attrs : List Attribute}
    (without : ∀ attr ∈ attrs, attr.isOptional = false) : requiredAfterDefault attrs = none := by
  have skipped : attrs.dropWhile (fun attr => !attr.isOptional) = [] :=
    List.dropWhile_eq_nil_iff.mpr fun attr among => by rw [without attr among, Bool.not_false]
  rw [requiredAfterDefault, skipped, List.find?_nil]

/-- A list of attributes has no optional parameter, or a first one. -/
theorem optional_cases (attrs : List Attribute) :
    (∀ attr ∈ attrs, attr.isOptional = false) ∨
      ∃ skipped optional rest, attrs = skipped ++ optional :: rest ∧
        (∀ earlier ∈ skipped, earlier.isOptional = false) ∧ optional.isOptional = true := by
  cases first : attrs.find? isOptional with
  | none => exact .inl fun attr among => by simpa using List.find?_eq_none.mp first attr among
  | some optional =>
    obtain ⟨isOptional, skipped, rest, split, before⟩ := List.find?_eq_some_iff_append.mp first
    exact .inr ⟨skipped, optional, rest, split, by simpa using before, isOptional⟩

/-- What is reported is misplaced, and nothing before it is. -/
theorem firstMisplacedIn_of_requiredAfterDefault {attrs : List Attribute} {attr : Attribute}
    (reported : requiredAfterDefault attrs = some attr) : FirstMisplacedIn attrs attr := by
  rcases optional_cases attrs with without | ⟨skipped, optional, rest, split, before, isOptional⟩
  · rw [requiredAfterDefault_eq_none without] at reported
    cases reported
  rw [split, requiredAfterDefault_append_cons rest before isOptional] at reported
  obtain ⟨required, between, after, rfl, passed⟩ := List.find?_eq_some_iff_append.mp reported
  refine ⟨skipped ++ optional :: between, after, ?_,
    misplaced_iff.mpr ⟨required, optional, by simp, isOptional⟩, ?_⟩
  · rw [split, List.append_assoc, List.cons_append]
  intro front earlier back cut also
  obtain ⟨alsoRequired, other, among, otherOptional⟩ := misplaced_iff.mp also
  -- Nothing before the first optional parameter follows one, and nothing after it is required.
  rcases List.append_eq_append_iff.mp cut with ⟨further, rfl, same⟩ | ⟨further, rfl, same⟩
  · cases further with
    | nil =>
      obtain ⟨rfl, -⟩ := List.cons.inj same
      rw [isRequired_eq_false_of_isOptional isOptional] at alsoRequired
      cases alsoRequired
    | cons head tail =>
      obtain ⟨-, rfl⟩ := List.cons.inj same
      have unrequired := passed earlier (by simp)
      rw [alsoRequired] at unrequired
      cases unrequired
  · have unlisted := before other (List.mem_append_left _ among)
    rw [otherOptional] at unlisted
    cases unlisted

/-- The first misplaced attribute is reported. -/
theorem FirstMisplacedIn.requiredAfterDefault_eq {attrs : List Attribute} {attr : Attribute}
    (first : FirstMisplacedIn attrs attr) : requiredAfterDefault attrs = some attr := by
  obtain ⟨before, after, rfl, misplaced, earliest⟩ := first
  obtain ⟨required, other, among, otherOptional⟩ := misplaced_iff.mp misplaced
  rcases optional_cases before with without | ⟨skipped, optional, between, rfl, none, isOptional⟩
  · rw [without other among] at otherOptional
    cases otherOptional
  -- What is required after the first optional parameter would be misplaced before the attribute.
  have passed : between.find? isRequired = Option.none := by
    refine List.find?_eq_none.mpr fun later listed alsoRequired => ?_
    obtain ⟨front, back, rfl⟩ := List.append_of_mem listed
    apply earliest (skipped ++ optional :: front) later back
    · rw [List.append_assoc, List.cons_append]
    · exact misplaced_iff.mpr ⟨alsoRequired, optional, by simp, isOptional⟩
  rw [List.append_assoc, List.cons_append, requiredAfterDefault_append_cons _ none isOptional,
    List.find?_append, passed, Option.none_or, List.find?_cons_of_pos required]

/-- Attributes that are no parameters have no say in what is reported. -/
theorem requiredAfterDefault_filter_init (attrs : List Attribute) :
    requiredAfterDefault (attrs.filter init) = requiredAfterDefault attrs := by
  have kept (rest : List Attribute) :
      (rest.filter init).find? isRequired = rest.find? isRequired := by
    have sameTest : (fun attr : Attribute => decide (attr.init ∧ attr.isRequired)) =
        isRequired := by
      funext attr
      rw [isRequired, Bool.decide_and, Bool.decide_eq_true, Bool.decide_eq_true, ← Bool.and_assoc,
        Bool.and_self]
    rw [List.find?_filter, sameTest]
  rcases optional_cases attrs with without | ⟨skipped, optional, rest, rfl, before, isOptional⟩
  · rw [requiredAfterDefault_eq_none without, requiredAfterDefault_eq_none fun attr among =>
      without attr (List.mem_of_mem_filter among)]
  · rw [List.filter_append, List.filter_cons_of_pos (isOptional_iff.mp isOptional).1,
      requiredAfterDefault_append_cons _ before isOptional,
      requiredAfterDefault_append_cons _ (fun attr among =>
        before attr (List.mem_of_mem_filter among)) isOptional, kept]

/-- Nothing is reported when the parameters of the constructor stand in blocks. -/
theorem requiredAfterDefault_eq_none_iff (receiver : TypeId) (attrs : List Attribute) :
    requiredAfterDefault attrs = none ↔ ∃ required optional,
      (constructorFor receiver attrs).signature.InBlocks required optional := by
  rw [← Option.map_eq_none_iff (f := parameter), map_parameter_requiredAfterDefault receiver,
    Signature.find?_dropWhile_eq_none_iff]

/-- For every list of attributes, what is reported is the first constructor attribute without a
default that comes after one with a default, and nothing when there is none. Attributes that are no
parameters have no say in it. The constructor that a class gets from the list has its required
parameters in front of its optional ones exactly when nothing is reported; its required parameters
are then the first block, which begins with the receiver. -/
theorem requiredAfterDefault_decided (attrs : List Attribute) :
    (∀ attr, requiredAfterDefault attrs = some attr ↔ FirstMisplacedIn attrs attr) ∧
      (∀ others : List Attribute, others.filter init = attrs.filter init →
        requiredAfterDefault others = requiredAfterDefault attrs) ∧
      ∀ (state : Analysis) (id : ClassId) (object : ClassObject),
        state.classes.get? id = some object →
        ∃ constructor,
          state.constructor? id attrs = .ok (.single (.function constructor) state.point) ∧
          (requiredAfterDefault attrs = none ↔
            ∃ required optional, constructor.signature.InBlocks required optional) ∧
          ∀ required optional, constructor.signature.InBlocks required optional →
            constructor.signature.requiredCount = required.length ∧
              required.head? = some ⟨"self", object.type, none⟩ := by
  refine ⟨fun attr => ⟨firstMisplacedIn_of_requiredAfterDefault,
    FirstMisplacedIn.requiredAfterDefault_eq⟩, fun others same => ?_,
    fun state id object found => ?_⟩
  · rw [← requiredAfterDefault_filter_init others, same, requiredAfterDefault_filter_init]
  · refine ⟨constructorFor object.type attrs, ?_, requiredAfterDefault_eq_none_iff _ attrs,
      fun required optional blocks => ⟨blocks.requiredCount_eq, blocks.head?_required rfl rfl⟩⟩
    rw [Analysis.constructor?, Analysis.class?, found]
    rfl

end Attribute

namespace Sample

/-- The attributes `x: int = 1`, `size: int`, which is no parameter, and `y: str`. -/
def interleaved : List Attribute :=
  [⟨"x", .int, true, some (.single (.constant (.int 1)) Program.entry)⟩,
    ⟨"size", .int, false, none⟩, ⟨"y", .str, true, none⟩]

/-- The last attribute is reported, with or without the one that is no parameter. In the opposite
order nothing is reported, and the constructor requires the receiver and one argument. -/
theorem interleaved_decided :
    Attribute.FirstMisplacedIn interleaved ⟨"y", .str, true, none⟩ ∧
      Attribute.requiredAfterDefault (interleaved.filter Attribute.init) =
        some ⟨"y", .str, true, none⟩ ∧
      Attribute.requiredAfterDefault interleaved.reverse = none ∧
      ∃ constructor, definedEarly.constructor? ⟨0⟩ interleaved.reverse =
          .ok (.single (.function constructor) definedEarly.point) ∧
        constructor.signature.requiredCount = 2 := by
  obtain ⟨first, same, -⟩ := Attribute.requiredAfterDefault_decided interleaved
  obtain ⟨-, -, built⟩ := Attribute.requiredAfterDefault_decided interleaved.reverse
  obtain ⟨constructor, builds, unreported, counts⟩ := built definedEarly ⟨0⟩ _ rfl
  have blocks : constructor.signature.InBlocks [⟨"self", ⟨17⟩, none⟩, ⟨"y", .str, none⟩]
      [⟨"x", .int, some (.single (.constant (.int 1)) Program.entry)⟩] := by
    cases builds
    exact ⟨rfl, by simp, by simp⟩
  exact ⟨(first _).mp rfl, same _ rfl, unreported.mpr ⟨_, _, blocks⟩, constructor, builds,
    (counts _ _ blocks).1⟩

end Sample

end DataclassSynthesis
