import DataclassSynthesis.Proofs.DecorationFootprint

/-!
# The attributes of a class body

A class body gives one attribute for each name that it annotates, dunder names and class variables
apart, in the order of the first annotations. The last annotation of the name and its last value
decide what the attribute is. This is what collecting reads off the ordered view of a body
(`DataclassSynthesis.Body.filterMap_locals`).
-/

namespace DataclassSynthesis

namespace Body

/-- The annotated names of a body that do not belong to the language, each once, where it is
annotated first. -/
def attributeNames (body : Body) : List String :=
  ((body.annotations.map Prod.fst).filter fun name => !isDunder name).eraseDups

/-- The type with which a body annotates a name last. -/
def lastType? (body : Body) (name : String) : Option TypeId :=
  ((body.annotations.filter fun entry => entry.1 == name).map Prod.snd).getLast?

/-- The value that a body assigns to a name last. -/
def lastValue? (body : Body) (name : String) : Option Variable :=
  ((body.assignments.filter fun entry => entry.1 == name).map Prod.snd).getLast?

/-- The attribute of a name that is stored on instances. A described field gives what the
description says, and every other name its type and its value. -/
def storedAttribute (name : String) (type : TypeId) (value : Option Variable) : Attribute :=
  match value.bind Variable.first? with
  | some (.field descriptor) =>
    ⟨name, type, descriptor.init, if descriptor.default.isSome then descriptor.effective else none⟩
  | _ => ⟨name, type, true, value⟩

/-- The attribute of a name with the given last type and last value. A class variable gives none.
A constructor variable gives one of the type that it is applied to, with its value for a default. -/
def attributeOf? (types : TypeContext) (name : String) (type : TypeId) (value : Option Variable) :
    Option Attribute :=
  match types.get? type with
  | some (.container marker arguments) =>
    if marker = Container.classVariable.qualified then none
    else if marker = Container.initVariable.qualified then
      some ⟨name, arguments.headD .any, true, value⟩
    else some (storedAttribute name type value)
  | _ => some (storedAttribute name type value)

/-- The attributes that a body gives. -/
def ownAttributes (types : TypeContext) (body : Body) : List Attribute :=
  body.attributeNames.filterMap fun name =>
    (body.lastType? name).bind fun type => attributeOf? types name type (body.lastValue? name)

/-- The type in a summary is that of the last annotation. -/
theorem summary_type (body : Body) (name : String) :
    (body.summary name).type = body.lastType? name := by
  simp only [summary, lastType?, about, annotations]
  congr 1
  induction body with
  | nil => rfl
  | cons statement rest ih =>
    by_cases same : statement.name = name <;>
      cases effect : statement.annotated? <;>
      simp_all

theorem summary_value (body : Body) (name : String) :
    (body.summary name).value = body.lastValue? name := by
  simp only [summary, lastValue?, about, assignments]
  congr 1
  induction body with
  | nil => rfl
  | cons statement rest ih =>
    by_cases same : statement.name = name <;>
      cases effect : statement.assigned? <;>
      simp_all

/-- The ordered view from which attributes are collected lists the attribute names with their
summaries. -/
theorem locals_entries (body : Body) :
    (body.locals true .firstAnnotated).entries =
      body.attributeNames.map fun name => (name, body.summary name) := by
  simp only [locals, attributeNames, namesIn, Bool.true_or, Bool.and_true]
  exact NameTable.entries_foldl_insert_described body.summary _

/-- Unless a marker decides, a field description does. -/
theorem attribute?_of_unmarked {name : String} {type : TypeId} {value : Option Variable}
    {kind : MemberKind}
    (unmarked : kind = ((value.bind Variable.field?).map MemberKind.field).getD .plain) :
    kind.attribute? name type value = some (storedAttribute name type value) := by
  subst unmarked
  cases value with
  | none => rfl
  | some var =>
    simp only [Option.bind_some, Variable.field?, storedAttribute]
    cases var.first? with
    | none => rfl
    | some first => cases first <;> rfl

/-- The kind of a name gives the attribute of its type and value. -/
theorem attribute?_of (types : TypeContext) (name : String) (type : TypeId)
    (value : Option Variable) :
    (MemberKind.of types type value).attribute? name type value =
      attributeOf? types name type value := by
  simp only [MemberKind.of, TypeContext.argumentOf?, attributeOf?]
  cases types.get? type with
  | none =>
    apply attribute?_of_unmarked
    cases value.bind Variable.field? <;> rfl
  | some denoted =>
    cases denoted with
    | container marker arguments =>
      by_cases classOnly : marker = Container.classVariable.qualified
      · simp only [classOnly, ↓reduceIte]
        rfl
      · by_cases unstored : marker = Container.initVariable.qualified
        · simp only [unstored, ↓reduceIte]
          rw [List.headD_eq_head?_getD]
          rfl
        · simp only [classOnly, unstored, ↓reduceIte]
          apply attribute?_of_unmarked
          cases value.bind Variable.field? <;> rfl
    | _ =>
      apply attribute?_of_unmarked
      cases value.bind Variable.field? <;> rfl

/-- The attribute of a summarized name is that of its last type and last value. -/
theorem attribute?_summary (types : TypeContext) (body : Body) (name : String) :
    (body.summary name).attribute? types name =
      (body.lastType? name).bind fun type =>
        attributeOf? types name type (body.lastValue? name) := by
  simp only [LocalSummary.attribute?, summary_type, summary_value, attribute?_of]

/-- Collecting reads the attributes of a body off its ordered view. -/
theorem filterMap_locals (types : TypeContext) (body : Body) :
    ((body.locals true .firstAnnotated).entries.filterMap fun entry =>
      entry.2.attribute? types entry.1) = body.ownAttributes types := by
  rw [locals_entries, List.filterMap_map]
  exact List.filterMap_congr fun name _ => attribute?_summary types body name

end Body

end DataclassSynthesis
