import DataclassSynthesis.Proofs.AttributeOrigins
import DataclassSynthesis.Proofs.BodiesReadAlike
import DataclassSynthesis.Proofs.ConstructorVariables

/-!
# Defaults that a field describes

A name that is declared with a described default is decorated like one that is declared with the
default itself, and a description without a default leaves the name required, unless the name is a
constructor variable. Only a constructor variable keeps the description for a default
(`DataclassSynthesis.Reaches.described_default`).
-/

namespace DataclassSynthesis

namespace Body

variable {types : TypeContext} {name : String} {type : TypeId}

/-- The last annotation of a name is the one of the later body, if that has one. -/
theorem lastType?_append (first second : Body) (name : String) :
    (first ++ second).lastType? name = (second.lastType? name).or (first.lastType? name) := by
  simp [lastType?, annotations]

theorem lastValue?_append (first second : Body) (name : String) :
    (first ++ second).lastValue? name = (second.lastValue? name).or (first.lastValue? name) := by
  simp [lastValue?, assignments]

/-- Unless its last type is a constructor variable, a name has the attribute that is stored on
instances, or none. -/
theorem attributeOf?_of_stored
    (stored : types.argumentOf? type Container.initVariable.qualified = none)
    (value : Option Variable) :
    attributeOf? types name type value =
      if (types.argumentOf? type Container.classVariable.qualified).isSome then none
      else some (storedAttribute name type value) := by
  unfold attributeOf?
  unfold TypeContext.argumentOf? at stored ⊢
  cases denoted : types.get? type with
  | none => rfl
  | some denotation =>
    rw [denoted] at stored
    cases denotation with
    | container marker arguments =>
      by_cases isClass : marker = Container.classVariable.qualified
      · simp [isClass]
      · by_cases isInit : marker = Container.initVariable.qualified
        · simp [isInit] at stored
        · simp [isClass, isInit]
    | _ => rfl

/-- A constructor variable has the attribute of the type that it is applied to, with its value for a
default. -/
theorem attributeOf?_of_initVariable {inner : TypeId}
    (marked : types.argumentOf? type Container.initVariable.qualified = some inner)
    (value : Option Variable) :
    attributeOf? types name type value = some ⟨name, inner, true, value⟩ := by
  obtain ⟨arguments, found, first⟩ := TypeContext.argumentOf?_eq_some_iff.mp marked
  have differ : Container.initVariable.qualified ≠ Container.classVariable.qualified := nofun
  rw [← List.headD_eq_head?_getD] at first
  simp only [attributeOf?, found, if_neg differ, ↓reduceIte, first]

/-- A value that is no description is stored as it is. -/
theorem storedAttribute_of_plain {value : Variable} (plain : value.field? = none) (name : String)
    (type : TypeId) : storedAttribute name type (some value) = ⟨name, type, true, some value⟩ := by
  unfold storedAttribute
  unfold Variable.field? at plain
  rw [Option.bind_some]
  split
  · next first =>
    rw [first] at plain
    cases plain
  · rfl

end Body

/-- A class statement in which a name is declared with some type, with the statements before the
declaration and those after it. -/
structure DeclarationSite where
  start : ClassDefinition
  name : String
  type : TypeId
  later : Body

namespace DeclarationSite

/-- The class statement in which the name is declared with the given default. -/
def fill (site : DeclarationSite) (value : Variable) : ClassDefinition :=
  let declared := site.start.declare site.name site.type value
  { declared with body := declared.body ++ site.later }

/-- The type with which the class statement annotates the name last. -/
def lastType (site : DeclarationSite) : TypeId := (site.later.lastType? site.name).getD site.type

/-- A class statement with the same bases, annotations and assignments, except that it assigns
nothing to the name. -/
structure LeftOpen (site : DeclarationSite) (value : Variable) (bare : ClassDefinition) : Prop where
  bases : bare.bases = site.start.bases
  annotations : bare.body.annotations = (site.fill value).body.annotations
  assignments : bare.body.assignments =
    (site.fill value).body.assignments.filter fun entry => entry.1 != site.name

variable (site : DeclarationSite) (value other : Variable)

theorem fill_body : (site.fill value).body = site.start.body ++
    ([⟨site.name, .annotate site.type, site.start.nextSpan⟩,
      ⟨site.name, .assign value, site.start.nextSpan⟩] ++ site.later) := by
  simp [fill, ClassDefinition.declare, ClassDefinition.add]

/-- The last type of the name does not depend on its default. -/
theorem lastType?_fill : (site.fill value).body.lastType? site.name = some site.lastType := by
  rw [fill_body, Body.lastType?_append, Body.lastType?_append, lastType]
  cases site.later.lastType? site.name <;>
    simp [Body.lastType?, Body.annotations, Statement.annotated?]

/-- The name has the default unless it is assigned again. -/
theorem lastValue?_fill : (site.fill value).body.lastValue? site.name =
    (site.later.lastValue? site.name).or (some value) := by
  rw [fill_body, Body.lastValue?_append, Body.lastValue?_append]
  cases site.later.lastValue? site.name <;>
    simp [Body.lastValue?, Body.assignments, Statement.assigned?]

/-- The declaration decides about the attribute of the name if nothing is assigned to it later. -/
theorem attribute?_fill (last : site.later.lastValue? site.name = none) (types : TypeContext) :
    ((site.fill value).body.summary site.name).attribute? types site.name =
      Body.attributeOf? types site.name site.lastType (some value) := by
  rw [Body.attribute?_summary, lastType?_fill, Option.bind_some, lastValue?_fill, last,
    Option.none_or]

/-- Other names have the same last values whatever fills the site. -/
theorem lastValue?_fill_of_ne {name : String} (differ : site.name ≠ name) :
    (site.fill other).body.lastValue? name = (site.fill value).body.lastValue? name := by
  have unaffected : ∀ value, Body.lastValue? [⟨site.name, .annotate site.type, site.start.nextSpan⟩,
      ⟨site.name, .assign value, site.start.nextSpan⟩] name = none := by
    simp [Body.lastValue?, Body.assignments, Statement.assigned?, differ]
  simp only [fill_body, Body.lastValue?_append, unaffected]

/-- The annotations and their places are the same whatever fills the site. -/
theorem annotating_fill :
    (site.fill other).body.annotating = (site.fill value).body.annotating := by
  simp [fill_body, Body.annotating, Statement.annotated?]

/-- The assigned names are the same whatever fills the site. -/
theorem assignedNames_fill : (site.fill other).body.assignments.map Prod.fst =
    (site.fill value).body.assignments.map Prod.fst := by
  simp [fill_body, Body.assignments, Statement.assigned?]

variable {site value other}

/-- Defaults that give the same stored attribute are read alike. -/
theorem readsAlike {types : TypeContext}
    (stored : types.argumentOf? site.lastType Container.initVariable.qualified = none)
    (same : Body.storedAttribute site.name site.lastType (some other) =
      Body.storedAttribute site.name site.lastType (some value)) :
    (site.fill value).body.ReadsAlike types (site.fill other).body := by
  have annotating := site.annotating_fill value other
  refine ⟨annotating, fun name _ => ?_⟩
  have typed : (site.fill other).body.lastType? name = (site.fill value).body.lastType? name := by
    rw [Body.lastType?, ← Body.annotations_annotating, annotating, Body.annotations_annotating,
      Body.lastType?]
  rw [Body.attribute?_summary, Body.attribute?_summary, typed]
  by_cases declared : site.name = name
  · subst declared
    rw [lastType?_fill, lastValue?_fill, lastValue?_fill, Option.bind_some, Option.bind_some]
    cases site.later.lastValue? site.name with
    | some _ => rfl
    | none =>
      rw [Option.none_or, Option.none_or, Body.attributeOf?_of_stored stored,
        Body.attributeOf?_of_stored stored, same]
  · rw [lastValue?_fill_of_ne site value other declared]

/-- A class statement that assigns nothing to the name gives the same attributes if the default
gives the same stored attribute as none. -/
theorem ownAttributes_leftOpen {types : TypeContext} {bare : ClassDefinition}
    (leftOpen : site.LeftOpen value bare) (last : site.later.lastValue? site.name = none)
    (stored : types.argumentOf? site.lastType Container.initVariable.qualified = none)
    (same : Body.storedAttribute site.name site.lastType (some value) =
      ⟨site.name, site.lastType, true, none⟩) :
    bare.body.ownAttributes types = (site.fill value).body.ownAttributes types := by
  refine Body.ownAttributes_congr leftOpen.annotations fun name type typed => ?_
  rw [Body.lastValue?, leftOpen.assignments, List.filter_filter]
  by_cases declared : site.name = name
  · subst declared
    obtain rfl := Option.some.inj ((site.lastType?_fill value).symm.trans typed)
    have unassigned : ((site.fill value).body.assignments.filter fun entry =>
        entry.1 == site.name && entry.1 != site.name) = [] := by
      simp
    rw [unassigned, lastValue?_fill, last, Option.none_or, Body.attributeOf?_of_stored stored,
      Body.attributeOf?_of_stored stored, same]
    rfl
  · refine congrArg (Body.attributeOf? types name type) ?_
    have kept : (fun entry : String × Variable => entry.1 == name && entry.1 != site.name) =
        fun entry => entry.1 == name := by
      funext entry
      by_cases about : entry.1 = name <;> simp [about, Ne.symm declared]
    rw [kept, Body.lastValue?]

end DeclarationSite

/-- Describing a default that is not just `None` keeps it. -/
theorem Field.call_default {value : Variable} (useful : value.isNoneConstant = false) (span : Span)
    (calling : Analysis) :
    call ⟨[], NameTable.ofList [("default", value)], span⟩ calling =
      .ok (.single (.field ⟨some value, true, some value⟩) calling.point) calling := by
  have kept : effectiveDefault calling.point value = value := by
    rw [effectiveDefault, useful]
    rfl
  have described : call ⟨[], NameTable.ofList [("default", value)], span⟩ calling =
      .ok (.single (.field ⟨some (effectiveDefault calling.point value), true, some value⟩)
        calling.point) calling := rfl
  rw [described, kept]

theorem Field.call_nothing (span : Span) (calling : Analysis) :
    call (CallArguments.none span) calling =
      .ok (.single (.field ⟨none, true, none⟩) calling.point) calling := rfl

namespace DeclarationSite

/-- The class statement is decorated alike with either default: the same attributes are stored, the
same constructor is added, and the log is the same. -/
def DecoratedAlike (site : DeclarationSite) (options : Options) (state : Analysis)
    (value other : Variable) : Prop :=
  ∃ view after another, (site.fill value).decorated options state = .ok view after ∧
    (site.fill other).decorated options state = .ok view another

/-- When the class statement has been decorated, the name has the given attribute and no other. -/
def Gives (site : DeclarationSite) (options : Options) (state : Analysis) (value : Variable)
    (attr : Attribute) : Prop :=
  ∃ view after attrs, (site.fill value).decorated options state = .ok view after ∧
    view.fields = some attrs ∧ Attribute.named site.name attrs = [attr]

variable {config : WarningConfig} {state : Analysis} {site : DeclarationSite}
  {value other : Variable} {types : List TypeId}

/-- If the stored attribute of the name is the same for two defaults, a class is decorated alike
with either of them. -/
theorem decoratedAlike (reached : Reaches Operation.Any (Analysis.initial config) state)
    (based : state.baseTypes site.start.bases = .ok types)
    (stored : state.types.argumentOf? site.lastType Container.initVariable.qualified = none)
    (same : Body.storedAttribute site.name site.lastType (some other) =
      Body.storedAttribute site.name site.lastType (some value)) (options : Options) :
    site.DecoratedAlike options state value other := by
  obtain ⟨view, another, after, later, ran, alsoRan, fields, log, added⟩ :=
    @ClassDefinition.decorated_alike _ _ reached (site.fill value) types based _
      (readsAlike stored same) options
  have sameView := ClassDefinition.View.ext fields (added (by rw [assignedNames_fill])) log
  exact ⟨view, after, later, ran, sameView ▸ alsoRan⟩

/-- A class statement that assigns nothing to the name is decorated with the same attributes if the
default gives the same stored attribute as none. -/
theorem sameFields_leftOpen (reached : Reaches Operation.Any (Analysis.initial config) state)
    (based : state.baseTypes site.start.bases = .ok types) {bare : ClassDefinition}
    (leftOpen : site.LeftOpen value bare) (last : site.later.lastValue? site.name = none)
    (stored : state.types.argumentOf? site.lastType Container.initVariable.qualified = none)
    (same : Body.storedAttribute site.name site.lastType (some value) =
      ⟨site.name, site.lastType, true, none⟩) (options : Options) :
    ∃ view another after other, (site.fill value).decorated options state = .ok view after ∧
      bare.decorated options state = .ok another other ∧ another.fields = view.fields := by
  have bareBased : state.baseTypes bare.bases = .ok types := by rw [leftOpen.bases, based]
  obtain ⟨view, after, ran, fields⟩ :=
    @ClassDefinition.decorated_fields state (site.fill value) types _ reached based options
  obtain ⟨another, other, alsoRan, otherFields⟩ :=
    @ClassDefinition.decorated_fields state bare types _ reached bareBased options
  have inherits := @ClassTable.inheritedParts_push_congr state.classes
    (state.definedObject (site.fill value) types) (state.definedObject bare types) leftOpen.bases
    rfl state.classes.nextId
  refine ⟨view, another, after, other, ran, alsoRan, ?_⟩
  rw [otherFields, fields, ownAttributes_leftOpen leftOpen last stored same]
  exact congrArg (fun inherited => some (Attribute.mergeAll [] (inherited ++ _))) inherits

/-- The attribute that the body gives for the name is the one that is stored. -/
theorem gives (reached : Reaches Operation.Any (Analysis.initial config) state)
    (based : state.baseTypes site.start.bases = .ok types) (ordinary : isDunder site.name = false)
    {attr : Attribute} (given :
      ((site.fill value).body.summary site.name).attribute? state.types site.name = some attr)
    (options : Options) : site.Gives options state value attr := by
  obtain ⟨view, after, ran, fields⟩ :=
    @ClassDefinition.decorated_fields state (site.fill value) types _ reached based options
  have listed := Body.mem_attributeNames (site.lastType?_fill value) ordinary
  exact ⟨view, after, _, ran, fields, Attribute.named_merged listed given _⟩

end DeclarationSite

/-- Unless the name that is declared is a constructor variable, describing its default makes no
difference, and a description without a default leaves it required, like no default at all. A
constructor variable keeps what is assigned to it for a default, also a description. No other stored
attribute has a default that holds a description, if class bodies assign descriptions only to
describe fields. -/
theorem Reaches.described_default {config : WarningConfig} {state : Analysis}
    (reached : Reaches Operation.Any (Analysis.initial config) state) (options : Options) :
    (∀ (site : DeclarationSite) (types : List TypeId) (span : Span) (calling : Analysis),
      state.baseTypes site.start.bases = .ok types →
      (state.types.argumentOf? site.lastType Container.initVariable.qualified = none →
        (∀ value : Variable, value.field? = none → value.isNoneConstant = false → ∃ described,
          Field.call ⟨[], NameTable.ofList [("default", value)], span⟩ calling =
            .ok described calling ∧
          site.DecoratedAlike options state value described) ∧
        (site.later.lastValue? site.name = none → ∃ described,
          Field.call (CallArguments.none span) calling = .ok described calling ∧
          (∀ bare, site.LeftOpen described bare → ∃ view another after other,
            (site.fill described).decorated options state = .ok view after ∧
            bare.decorated options state = .ok another other ∧ another.fields = view.fields) ∧
          (isDunder site.name = false →
            state.types.argumentOf? site.lastType Container.classVariable.qualified = none →
            site.Gives options state described ⟨site.name, site.lastType, true, none⟩))) ∧
      (∀ inner,
        state.types.argumentOf? site.lastType Container.initVariable.qualified = some inner →
        isDunder site.name = false → site.later.lastValue? site.name = none →
        ∀ value, site.Gives options state value ⟨site.name, inner, true, some value⟩)) ∧
    ((∀ id object, state.classes.get? id = some object →
        ∀ name, ∀ var ∈ object.body.lastValue? name, var.Plain) →
      ∀ id object attrs attr default, state.classes.get? id = some object →
        object.fields = some attrs → attr ∈ attrs → attr.default = some default →
        default.HoldsDescriptor →
        ∃ origin source, state.classes.get? origin = some source ∧
          (source.body.marked? state.types .initVariable attr.name).isSome = true ∧
          source.body.lastValue? attr.name = some default) := by
  refine ⟨fun site types span calling based => ⟨fun stored => ⟨?described, ?required⟩, ?unstored⟩,
    fun plain id object attrs attr default found fields listed isDefault holds =>
      reached.descriptor_origin plain found fields listed isDefault holds⟩
  case described =>
    intro value plain useful
    refine ⟨_, Field.call_default useful span calling, ?_⟩
    refine DeclarationSite.decoratedAlike reached based stored ?_ options
    rw [Body.storedAttribute_of_plain plain]
    rfl
  case required =>
    intro last
    refine ⟨_, Field.call_nothing span calling, fun bare leftOpen => ?_,
      fun ordinary instanceOnly => ?_⟩
    · exact DeclarationSite.sameFields_leftOpen reached based leftOpen last stored rfl options
    · refine DeclarationSite.gives reached based ordinary ?_ options
      rw [site.attribute?_fill _ last, Body.attributeOf?_of_stored stored, instanceOnly]
      rfl
  case unstored =>
    intro inner marked ordinary last value
    refine DeclarationSite.gives reached based ordinary ?_ options
    rw [site.attribute?_fill _ last, Body.attributeOf?_of_initVariable marked]

namespace Sample

/-- The variable that holds one. -/
def one : Variable := .single (.constant (.int 1)) Program.entry

/-- What describing one as a default gives. -/
def describedOne : Variable := .single (.field ⟨some one, true, some one⟩) Program.entry

/-- The statement `class Scaled: scale: InitVar[int] = ...`. -/
def scaled : DeclarationSite := ⟨.start "Scaled" [] none, "scale", ⟨17⟩, []⟩

/-- The statement `class Sized: size: int = ...`. -/
def sized : DeclarationSite := ⟨.start "Sized" [] none, "size", .int, []⟩

/-- The state after `InitVar[int]` and a class with a constructor variable whose default is
described, decorated. -/
def decoratedScaled : Analysis :=
  Operation.run (Operation.run initVariable (.define (scaled.fill describedOne)))
    (.decorate .fresh ⟨0⟩)

theorem reaches_decoratedScaled : Reaches Operation.Any (.initial .standard) decoratedScaled :=
  .step (.step (.step .refl (.container Container.initVariable.qualified [.int]) trivial)
    (.define (scaled.fill describedOne)) trivial) (.decorate .fresh ⟨0⟩) trivial

/-- The class describes a field where it assigns a description. -/
theorem scaled_plain {id : ClassId} {object : ClassObject}
    (found : decoratedScaled.classes.get? id = some object) (name : String) :
    ∀ var ∈ object.body.lastValue? name, var.Plain := by
  have bodies : decoratedScaled.classes.classes.map ClassObject.body =
      [(scaled.fill describedOne).body] := rfl
  have listed : object.body ∈ decoratedScaled.classes.classes.map ClassObject.body :=
    List.mem_map_of_mem (List.mem_of_getElem? found)
  rw [bodies] at listed
  rw [List.mem_singleton.mp listed]
  intro var assigned
  have only : ∀ entry ∈ (scaled.fill describedOne).body.assignments, entry.2 = describedOne := by
    intro entry among
    rw [List.mem_singleton.mp among]
  obtain ⟨entry, about, rfl⟩ := List.mem_map.mp (List.mem_of_getLast? assigned)
  rw [only entry (List.mem_filter.mp about).1]
  rintro default ⟨⟩ ⟨descriptor, held⟩
  cases List.mem_singleton.mp held

/-- Describing one as the default of a size is the same as assigning it, and a description without a
default is like none. The description of a scale is found where the class assigns it. -/
theorem described_is_default :
    ∃ described nothing,
      Field.call ⟨[], NameTable.ofList [("default", one)], Span.unknown⟩ decoratedScaled =
        .ok described decoratedScaled ∧
      sized.DecoratedAlike {} decoratedScaled one described ∧
      Field.call (CallArguments.none Span.unknown) decoratedScaled = .ok nothing decoratedScaled ∧
      sized.Gives {} decoratedScaled nothing ⟨"size", .int, true, none⟩ ∧
      (∃ view another after other,
        (sized.fill nothing).decorated {} decoratedScaled = .ok view after ∧
        (sized.start.annotate "size" .int none).decorated {} decoratedScaled = .ok another other ∧
        another.fields = view.fields) ∧
      scaled.Gives {} decoratedScaled describedOne ⟨"scale", .int, true, some describedOne⟩ ∧
      ∃ origin source, decoratedScaled.classes.get? origin = some source ∧
        (source.body.marked? decoratedScaled.types .initVariable "scale").isSome = true ∧
        source.body.lastValue? "scale" = some describedOne := by
  obtain ⟨sites, origins⟩ := @Reaches.described_default _ _ reaches_decoratedScaled {}
  obtain ⟨ordinary, -⟩ := sites sized [] Span.unknown decoratedScaled rfl
  obtain ⟨defaults, nothings⟩ := ordinary rfl
  obtain ⟨described, describes, alike⟩ := defaults one rfl rfl
  obtain ⟨nothing, saysNothing, fields, required⟩ := nothings rfl
  obtain ⟨-, unstored⟩ := sites scaled [] Span.unknown decoratedScaled rfl
  refine ⟨described, nothing, describes, alike, saysNothing, required rfl rfl,
    fields _ ⟨rfl, rfl, rfl⟩, unstored .int rfl rfl rfl describedOne, ?_⟩
  exact origins (fun _ _ => scaled_plain) ⟨0⟩ _ _ ⟨"scale", .int, true, some describedOne⟩
    describedOne rfl rfl List.mem_cons_self rfl ⟨_, List.mem_cons_self⟩

/-- A constructor variable that is declared with a described default has the description for its
default, and not what is described. -/
theorem described_initVariable_differs :
    ∃ (state : Analysis) (site : DeclarationSite) (value described : Variable)
      (view : ClassDefinition.View) (after : Analysis) (another : ClassDefinition.View)
      (other : Analysis),
      Reaches Operation.Any (.initial .standard) state ∧
      state.types.argumentOf? site.type Container.classVariable.qualified = none ∧
      (∀ descriptor, .field descriptor ∉ value.values) ∧ value.isNoneConstant = false ∧
      Field.call ⟨[], NameTable.ofList [("default", value)], Span.unknown⟩ state =
        .ok described state ∧
      (site.fill value).decorated {} state = .ok view after ∧
      (site.fill described).decorated {} state = .ok another other ∧
      view.fields = some [⟨"scale", .int, true, some value⟩] ∧
      another.fields = some [⟨"scale", .int, true, some described⟩] ∧
      another.fields ≠ view.fields ∧ described.HoldsDescriptor := by
  refine ⟨initVariable, scaled, one, describedOne, _, _, _, _,
    .step .refl (.container Container.initVariable.qualified [.int]) trivial, rfl,
    fun descriptor listed => ?_, rfl, rfl, rfl, rfl, rfl, rfl, ?_, _, List.mem_cons_self⟩
  · cases List.mem_singleton.mp listed
  · rintro ⟨⟩

end Sample

end DataclassSynthesis
