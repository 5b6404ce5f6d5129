import DataclassSynthesis.Proofs.FieldCalls

/-!
# Options of a decorator call

The arguments of a call of the decorator decide its options. The call is refused for a second
positional argument, then for unknown keywords, and then for the first keyword whose value is not a
single literal truth value. Otherwise each option is the literal that is given for it, or its
default, in whatever order the keywords come (`DataclassSynthesis.Options.ofArguments_decided`).
-/

namespace DataclassSynthesis

namespace Options

/-- An option is the literal that is given for its keyword, or its default. -/
structure Settled (arguments : CallArguments) (keyword : String) (default value : Bool) : Prop where
  given : ∀ var, arguments.keyword? keyword = some var → var.IsLiteral value
  otherwise : arguments.keyword? keyword = none → value = default

/-- The options are those that the arguments ask for. -/
structure TakenFrom (options : Options) (arguments : CallArguments) : Prop where
  init : Settled arguments "init" true options.init
  repr : Settled arguments "repr" true options.repr
  eq : Settled arguments "eq" true options.eq
  order : Settled arguments "order" false options.order
  unsafeHash : Settled arguments "unsafe_hash" false options.unsafeHash
  frozen : Settled arguments "frozen" false options.frozen

/-- There is at most one positional argument, and every keyword names an option and gives a literal
for it. -/
structure Accepts (arguments : CallArguments) : Prop where
  positional : arguments.positional.length ≤ 1
  known : ∀ name ∈ arguments.keywords.keys, name ∈ keywords
  literal : ∀ entry ∈ arguments.keywords.entries, ∃ value, entry.2.IsLiteral value

/-- Why the arguments of a call are refused. -/
inductive Refuses (arguments : CallArguments) : DecorateError → Prop
  | positional (many : 1 < arguments.positional.length) :
    Refuses arguments
      (.argumentCount decoratorName 1 arguments.positional.length arguments.span)
  | keywords (few : arguments.positional.length ≤ 1) {names : List String}
    (listed : names = arguments.keywords.keys.filter (· ∉ Options.keywords))
    (unknown : names ≠ []) :
    Refuses arguments (.unknownKeywords decoratorName names arguments.span)
  | value (few : arguments.positional.length ≤ 1)
    (known : ∀ name ∈ arguments.keywords.keys, name ∈ Options.keywords)
    {front back : List (String × Variable)} {name : String} {value : Variable}
    (split : arguments.keywords.entries = front ++ (name, value) :: back)
    (before : ∀ entry ∈ front, ∃ literal, entry.2.IsLiteral literal)
    (noLiteral : ∀ literal, ¬ value.IsLiteral literal) :
    Refuses arguments (.nonConstantKeyword decoratorName name "bool" arguments.span)

/-- A keyword names the option that a projection reads. -/
def Names (keyword : String) (read : Options → Bool) : Prop :=
  ∀ (options : Options) (other : String) (value : Bool),
    read (options.set other value) = if other = keyword then value else read options

/-- The six keywords name the six options. -/
theorem names_options : Names "init" init ∧ Names "repr" repr ∧ Names "eq" Options.eq ∧
    Names "order" order ∧ Names "unsafe_hash" unsafeHash ∧ Names "frozen" frozen := by
  refine ⟨?_, ?_, ?_, ?_, ?_, ?_⟩ <;>
  · intro options other value
    unfold set
    split <;> simp_all

/-- An option is the literal that is listed for its keyword, or what it was before. -/
theorem Names.setAll {keyword : String} {read : Options → Bool} (names : Names keyword read)
    {span : Span} {entries : List (String × Variable)} {options result : Options}
    (distinct : (entries.map Prod.fst).Nodup)
    (ran : Options.setAll span options entries = .ok result) :
    (∀ var, (keyword, var) ∈ entries → var.IsLiteral (read result)) ∧
      (keyword ∉ entries.map Prod.fst → read result = read options) := by
  induction entries generalizing options with
  | nil =>
    cases ran
    exact ⟨nofun, fun _ => rfl⟩
  | cons entry rest ih =>
    obtain ⟨name, value⟩ := entry
    obtain ⟨fresh, others⟩ := List.nodup_cons.mp distinct
    rw [Options.setAll] at ran
    cases known : value.constantBool? with
    | none =>
      rw [known] at ran
      cases ran
    | some literal =>
      rw [known] at ran
      obtain ⟨given, otherwise⟩ := ih others ran
      refine ⟨fun var listed => ?_, fun absent => ?_⟩
      · rcases List.mem_cons.mp listed with same | later
        · obtain ⟨rfl, rfl⟩ := Prod.mk.inj same
          rw [otherwise fresh, names, if_pos rfl]
          exact Variable.constantBool?_eq_some_iff.mp known
        · exact given var later
      · obtain ⟨differ, missing⟩ := not_or.mp (List.mem_cons.not.mp absent)
        rw [otherwise missing, names, if_neg fun same => differ same.symm]

variable {arguments : CallArguments} {options : Options}

/-- Reading all keywords settles an option: it has the given literal, or its default. -/
theorem Names.settled {keyword : String} {read : Options → Bool} (names : Names keyword read)
    (ran : Options.setAll arguments.span {} arguments.keywords.entries = .ok options) :
    Settled arguments keyword (read {}) (read options) := by
  obtain ⟨given, otherwise⟩ := names.setAll arguments.keywords.distinct ran
  refine ⟨fun var found => given var (NameTable.find?_eq_some_iff_mem.mp found),
    fun missing => otherwise fun listed => ?_⟩
  obtain ⟨⟨name, var⟩, among, rfl⟩ := List.mem_map.mp listed
  rw [CallArguments.keyword?, NameTable.find?_eq_some_iff_mem.mpr among] at missing
  cases missing

theorem takenFrom_of_setAll
    (ran : setAll arguments.span {} arguments.keywords.entries = .ok options) :
    options.TakenFrom arguments := by
  obtain ⟨init, repr, eq, order, unsafeHash, frozen⟩ := names_options
  exact ⟨init.settled ran, repr.settled ran, eq.settled ran, order.settled ran,
    unsafeHash.settled ran, frozen.settled ran⟩

/-- The arguments leave no choice about an option. -/
theorem Settled.eq {keyword : String} {default value other : Bool}
    (settled : Settled arguments keyword default value)
    (also : Settled arguments keyword default other) : value = other := by
  cases found : arguments.keyword? keyword with
  | none => rw [settled.otherwise found, also.otherwise found]
  | some var =>
    have known := Variable.constantBool?_eq_some_iff.mpr (settled.given var found)
    rw [Variable.constantBool?_eq_some_iff.mpr (also.given var found)] at known
    exact (Option.some.inj known).symm

/-- The arguments leave no choice about the options. -/
theorem TakenFrom.unique {other : Options} (taken : options.TakenFrom arguments)
    (also : other.TakenFrom arguments) : options = other := by
  obtain ⟨init, repr, eq, order, unsafeHash, frozen⟩ := options
  cases other
  rw [mk.injEq]
  exact ⟨taken.init.eq also.init, taken.repr.eq also.repr, taken.eq.eq also.eq,
    taken.order.eq also.order, taken.unsafeHash.eq also.unsafeHash, taken.frozen.eq also.frozen⟩

section

variable {span : Span} {entries : List (String × Variable)}

/-- Literals are all taken. -/
theorem setAll_append (options : Options) (further : List (String × Variable))
    (literal : ∀ entry ∈ entries, ∃ value, entry.2.IsLiteral value) :
    ∃ middle, setAll span options (entries ++ further) = setAll span middle further := by
  induction entries generalizing options with
  | nil => exact ⟨options, rfl⟩
  | cons entry rest ih =>
    obtain ⟨value, isLiteral⟩ := literal entry List.mem_cons_self
    have known := Variable.constantBool?_eq_some_iff.mpr isLiteral
    obtain ⟨middle, same⟩ := ih (options.set entry.1 value) fun other among =>
      literal other (List.mem_cons_of_mem _ among)
    refine ⟨middle, ?_⟩
    rw [List.cons_append, setAll, known]
    exact same

/-- The first keyword without a literal is the one that is reported. -/
theorem setAll_of_noLiteral (options : Options) {front back : List (String × Variable)}
    {name : String} {value : Variable} (split : entries = front ++ (name, value) :: back)
    (before : ∀ entry ∈ front, ∃ literal, entry.2.IsLiteral literal)
    (noLiteral : ∀ literal, ¬ value.IsLiteral literal) :
    setAll span options entries = .error (.nonConstantKeyword decoratorName name "bool" span) := by
  obtain ⟨middle, same⟩ := setAll_append options ((name, value) :: back) before
  have unknown : value.constantBool? = none :=
    Option.eq_none_iff_forall_ne_some.mpr fun literal known =>
      noLiteral literal (Variable.constantBool?_eq_some_iff.mp known)
  rw [split, same, setAll, unknown]

/-- All the values are literals, or there is a first one that is not. -/
theorem literal_cases (entries : List (String × Variable)) :
    (∀ entry ∈ entries, ∃ value, entry.2.IsLiteral value) ∨
      ∃ front name value back, entries = front ++ (name, value) :: back ∧
        (∀ entry ∈ front, ∃ literal, entry.2.IsLiteral literal) ∧
          ∀ literal, ¬ value.IsLiteral literal := by
  induction entries with
  | nil => exact .inl nofun
  | cons entry rest ih =>
    by_cases isLiteral : ∃ value, entry.2.IsLiteral value
    · rcases ih with all | ⟨front, name, value, back, rfl, before, noLiteral⟩
      · exact .inl (List.forall_mem_cons.mpr ⟨isLiteral, all⟩)
      · exact .inr ⟨entry :: front, name, value, back, rfl,
          List.forall_mem_cons.mpr ⟨isLiteral, before⟩, noLiteral⟩
    · exact .inr ⟨[], entry.1, entry.2, rest, rfl, nofun, not_exists.mp isLiteral⟩

end

/-- A call that is refused gets the error that it is refused with. -/
theorem Refuses.ofArguments_eq {error : DecorateError} (refused : Refuses arguments error) :
    ofArguments arguments = .error error := by
  cases refused with
  | positional many =>
    rw [ofArguments, CallArguments.check_of_many _ many]
    rfl
  | keywords few listed unknown =>
    rw [← CallArguments.unknownKeywords_eq] at listed
    subst listed
    rw [ofArguments, CallArguments.check_of_unknown _ few unknown]
    rfl
  | value few known split before noLiteral =>
    rw [ofArguments, CallArguments.check_of_known _ few
      (CallArguments.unknownKeywords_eq_nil_iff.mpr known)]
    exact setAll_of_noLiteral {} split before noLiteral

/-- A call that is accepted gets the options that it asks for. -/
theorem Accepts.exists_ofArguments_eq (accepted : Accepts arguments) :
    ∃ options, ofArguments arguments = .ok options ∧ options.TakenFrom arguments := by
  obtain ⟨options, all⟩ : ∃ options, setAll arguments.span {} (arguments.keywords.entries ++ []) =
      .ok options := setAll_append {} [] accepted.literal
  rw [List.append_nil] at all
  refine ⟨options, ?_, takenFrom_of_setAll all⟩
  rw [ofArguments, CallArguments.check_of_known _ accepted.positional
    (CallArguments.unknownKeywords_eq_nil_iff.mpr accepted.known)]
  exact all

/-- Arguments that are not accepted are refused for a reason. -/
theorem accepts_or_refuses (arguments : CallArguments) :
    Accepts arguments ∨ ∃ error, Refuses arguments error := by
  by_cases few : arguments.positional.length ≤ 1
  · by_cases known : ∀ name ∈ arguments.keywords.keys, name ∈ keywords
    · rcases literal_cases arguments.keywords.entries with
        literal | ⟨front, name, value, back, split, before, noLiteral⟩
      · exact .inl ⟨few, known, literal⟩
      · exact .inr ⟨_, .value few known split before noLiteral⟩
    · rw [← CallArguments.unknownKeywords_eq_nil_iff, CallArguments.unknownKeywords_eq] at known
      exact .inr ⟨_, .keywords few rfl known⟩
  · exact .inr ⟨_, .positional (Nat.lt_of_not_le few)⟩

/-- Options are given exactly for accepted arguments, and taken from them. -/
theorem ofArguments_eq_ok_iff :
    ofArguments arguments = .ok options ↔ Accepts arguments ∧ options.TakenFrom arguments := by
  constructor
  · intro ran
    rcases accepts_or_refuses arguments with accepted | ⟨error, refused⟩
    · obtain ⟨taken, same, isTaken⟩ := accepted.exists_ofArguments_eq
      rw [ran] at same
      cases same
      exact ⟨accepted, isTaken⟩
    · rw [refused.ofArguments_eq] at ran
      cases ran
  · intro ⟨accepted, isTaken⟩
    obtain ⟨taken, ran, alsoTaken⟩ := accepted.exists_ofArguments_eq
    rw [ran, isTaken.unique alsoTaken]

theorem ofArguments_eq_error_iff {error : DecorateError} :
    ofArguments arguments = .error error ↔ Refuses arguments error := by
  refine ⟨fun failed => ?_, Refuses.ofArguments_eq⟩
  rcases accepts_or_refuses arguments with accepted | ⟨other, refused⟩
  · obtain ⟨taken, ran, -⟩ := accepted.exists_ofArguments_eq
    rw [failed] at ran
    cases ran
  · have same := refused.ofArguments_eq
    rw [failed] at same
    cases same
    exact refused

/-- The order of the keywords decides nothing about the options of a call that is accepted. -/
theorem ofArguments_perm {other : CallArguments}
    (positional : other.positional.length = arguments.positional.length)
    (reordered : other.keywords.entries.Perm arguments.keywords.entries)
    (ran : ofArguments arguments = .ok options) : ofArguments other = .ok options := by
  obtain ⟨accepted, taken⟩ := ofArguments_eq_ok_iff.mp ran
  have sameNames : other.keywords.keys.Perm arguments.keywords.keys := reordered.map Prod.fst
  have sameKeywords : other.keyword? = arguments.keyword? :=
    funext (NameTable.find?_eq_of_perm reordered)
  have settled {keyword : String} {default value : Bool}
      (settled : Settled arguments keyword default value) : Settled other keyword default value :=
    ⟨sameKeywords ▸ settled.given, sameKeywords ▸ settled.otherwise⟩
  refine ofArguments_eq_ok_iff.mpr ⟨⟨positional ▸ accepted.positional, fun name listed =>
    accepted.known name (sameNames.subset listed), fun entry listed =>
    accepted.literal entry (reordered.subset listed)⟩, ?_⟩
  exact ⟨settled taken.init, settled taken.repr, settled taken.eq, settled taken.order,
    settled taken.unsafeHash, settled taken.frozen⟩

/-- A call of the decorator has options exactly when it is accepted. They are then the ones that it
asks for, in whatever order it gives them. Every other call gets the error that it is refused
with. -/
theorem ofArguments_decided (arguments : CallArguments) :
    ((∃ options, ofArguments arguments = .ok options) ↔ Accepts arguments) ∧
      (∀ options, ofArguments arguments = .ok options → options.TakenFrom arguments ∧
        ∀ other : CallArguments, other.positional.length = arguments.positional.length →
          other.keywords.entries.Perm arguments.keywords.entries →
            ofArguments other = .ok options) ∧
      ∀ error, ofArguments arguments = .error error ↔ Refuses arguments error := by
  refine ⟨⟨fun ⟨options, ran⟩ => (ofArguments_eq_ok_iff.mp ran).1, fun accepted => ?_⟩,
    fun options ran => ⟨(ofArguments_eq_ok_iff.mp ran).2, fun other positional reordered =>
      ofArguments_perm positional reordered ran⟩, fun error => ofArguments_eq_error_iff⟩
  obtain ⟨options, ran, -⟩ := accepted.exists_ofArguments_eq
  exact ⟨options, ran⟩

end Options

namespace Sample

/-- The call `dataclass(frozen=True, init=False)`. -/
def frozenCall : CallArguments :=
  ⟨[], NameTable.ofList [("frozen", .single (.constant (.bool true)) Program.entry),
    ("init", .single (.constant (.bool false)) Program.entry)], Span.unknown⟩

/-- The call `dataclass(init=False, frozen=True)`. -/
def swappedCall : CallArguments :=
  { frozenCall with
    keywords := NameTable.ofList [("init", .single (.constant (.bool false)) Program.entry),
      ("frozen", .single (.constant (.bool true)) Program.entry)] }

/-- The call `dataclass(eq=flag, slots=True)` with a flag that is not known. -/
def slottedCall : CallArguments :=
  { frozenCall with
    keywords := NameTable.ofList [("eq", .single .unknown Program.entry),
      ("slots", .single (.constant (.bool true)) Program.entry)] }

/-- The two orders of the keywords ask for the same options. A call with an unknown keyword is
refused for that, even if the flag before it is no literal. -/
theorem frozenCall_decided :
    (Options.ofArguments frozenCall = .ok { init := false, frozen := true } ∧
      Options.Accepts frozenCall ∧
      Options.ofArguments swappedCall = .ok { init := false, frozen := true }) ∧
      Options.Refuses slottedCall (.unknownKeywords decoratorName ["slots"] Span.unknown) := by
  obtain ⟨accepts, taken, -⟩ := Options.ofArguments_decided frozenCall
  have ran : Options.ofArguments frozenCall = .ok { init := false, frozen := true } := rfl
  have reordered : swappedCall.keywords.entries.Perm frozenCall.keywords.entries :=
    List.Perm.swap _ _ _
  obtain ⟨-, anyOrder⟩ := taken _ ran
  obtain ⟨-, -, refuses⟩ := Options.ofArguments_decided slottedCall
  exact ⟨⟨ran, accepts.mp ⟨_, ran⟩, anyOrder swappedCall rfl reordered⟩, (refuses _).mp rfl⟩

end Sample

end DataclassSynthesis
