import DataclassSynthesis.Proofs.MemberStamps
import Mathlib.Tactic.Set

/-!
# The edits of a decoration

What collecting one name does to the tables of its class is a function of the kind of the name, of
the types and of the current program point. Up to program points, a decoration makes one edit after
the other for the names of the class body, stores the attributes and adds the constructor
(`DataclassSynthesis.Decoration.decorate_edits`).
-/

namespace DataclassSynthesis

/-- What collecting a name of a class body does to the tables of its class. -/
def LocalSummary.edit (types : TypeContext) (point : PointId) (name : String)
    (summary : LocalSummary) (object : ClassObject) : ClassObject :=
  match summary.type with
  | none => object
  | some type =>
    (MemberKind.of types type summary.value).edit types point name type summary.value.isSome object

/-- What collecting some names of a class body does to the tables of its class, up to program
points. -/
def ClassObject.editedBy (types : TypeContext) (locals : List (String × LocalSummary))
    (object : ClassObject) : ClassObject :=
  locals.foldl (fun object entry => entry.2.edit types Program.entry entry.1 object) object

/-- The edit that a member asks for is the same up to the points of its values. -/
theorem MemberKind.unstamped_edit (kind : MemberKind) (types : TypeContext) (point : PointId)
    (name : String) (type : TypeId) (assigned : Bool) (object : ClassObject) :
    (kind.edit types point name type assigned object).unstamped =
      kind.edit types Program.entry name type assigned object.unstamped := by
  cases kind with
  | classVariable => rfl
  | initVariable inner =>
    simp only [edit]
    split
    · rfl
    · exact object.unstamped_forget name
  | field _ | plain => exact object.unstamped_setMember name _

/-- An edit has the same effect whatever the program points of the members are. -/
theorem LocalSummary.unstamped_edit (summary : LocalSummary) (types : TypeContext) (point : PointId)
    (name : String) (object : ClassObject) :
    (summary.edit types point name object).unstamped =
      summary.edit types Program.entry name object.unstamped := by
  unfold edit
  split
  · rfl
  · exact MemberKind.unstamped_edit ..

/-- The kind of a name stays the same while the types grow, if its type is known. -/
theorem MemberKind.of_grows {before after : TypeContext} (grows : before.Grows after)
    {type : TypeId} (known : before.Knows type) (value : Option Variable) :
    MemberKind.of after type value = MemberKind.of before type value := by
  simp only [MemberKind.of, grows.argumentOf?_eq known]

/-- An edit stays the same while the types grow, if the type of its name is known. -/
theorem LocalSummary.edit_of_grows {before after : TypeContext} (grows : before.Grows after)
    {summary : LocalSummary} (known : ∀ type ∈ summary.type, before.Knows type) (point : PointId)
    (name : String) : summary.edit after point name = summary.edit before point name := by
  funext object
  unfold edit
  cases typed : summary.type with
  | none => rfl
  | some type =>
    have isKnown := known type typed
    have sameInstance : after.instanceValue type = before.instanceValue type := by
      rw [TypeContext.instanceValue, TypeContext.instanceValue, TypeContext.isAny,
        TypeContext.isAny, grows.get?_eq isKnown]
    dsimp only
    rw [MemberKind.of_grows grows isKnown]
    cases MemberKind.of before type summary.value with
    | classVariable | initVariable _ => rfl
    | field _ | plain => simp only [MemberKind.edit, sameInstance]

/-- Where the markers are the same, an edit is. -/
theorem TypeContext.SameMarkers.edit_eq {first second : TypeContext}
    (same : first.SameMarkers second) (summary : LocalSummary) (point : PointId) (name : String) :
    summary.edit second point name = summary.edit first point name := by
  funext object
  unfold LocalSummary.edit
  cases summary.type with
  | none => rfl
  | some type =>
    have sameInstance : second.instanceValue type = first.instanceValue type := by
      rw [TypeContext.instanceValue, TypeContext.instanceValue, same.isAny]
    dsimp only
    rw [same.kind_eq]
    cases MemberKind.of first type summary.value with
    | classVariable | initVariable _ => rfl
    | field _ | plain => simp only [MemberKind.edit, sameInstance]

namespace Decoration

/-- Checking a default concerns no class. -/
theorem classes_checkDefault (name : String) (type : TypeId) (default : Option Variable)
    (span : Span) (state : Analysis) :
    (stateAfter (checkDefault name type default span) state).classes = state.classes := by
  cases default with
  | none => rfl
  | some value =>
    simp only [checkDefault]
    rw [stateAfter_get_bind]
    have matched : AnalysisM.badMatchesAt value type state.point state =
        .ok (badMatches state.program type state.point value.bindings state.types).1
          { state with
            types := (badMatches state.program type state.point value.bindings state.types).2 } :=
      rfl
    rw [stateAfter_bind_of_ok matched]
    split <;> rfl

/-- Collecting a name makes its edit. -/
theorem classes_collectLocal {id : ClassId} {state : Analysis} {object : ClassObject}
    (found : state.classes.get? id = some object) (name : String) (summary : LocalSummary) :
    (stateAfter (collectLocal id name summary) state).classes =
      state.classes.modify id (summary.edit state.types state.point name) := by
  obtain ⟨type, value, span⟩ := summary
  cases type with
  | none => exact (state.classes.modify_id id).symm
  | some type =>
    simp only [collectLocal]
    rw [stateAfter_get_bind,
      stateAfter_bind_of_ok (collectKind_eq found name type value (.of state.types type value))]
    unfold LocalSummary.edit
    dsimp only
    have moves : ∀ (kind : MemberKind) (after : Analysis),
        (kind.moveOn after).classes = after.classes := fun kind _ => by cases kind <;> rfl
    cases (MemberKind.of state.types type value).attribute? name type value with
    | none => exact moves ..
    | some attr =>
      dsimp only
      rw [stateAfter_bind_pure, classes_checkDefault, moves]

/-- Collecting some names makes their edits one after the other, up to program points. -/
theorem collect_edits {id : ClassId} {locals : List (String × LocalSummary)}
    (ordinary : ∀ entry ∈ locals, constructorName ≠ entry.1) {base : TypeContext}
    (known : ∀ entry ∈ locals, ∀ type ∈ entry.2.type, base.Knows type) {state : Analysis}
    (grows : base.Grows state.types) {object : ClassObject}
    (found : state.classes.get? id = some object) :
    ∃ edit, (stateAfter (collect id locals) state).classes = state.classes.modify id edit ∧
      ∀ object, (edit object).unstamped = object.unstamped.editedBy base locals := by
  induction locals generalizing state object with
  | nil => exact ⟨fun object => object, (state.classes.modify_id id).symm, fun _ => rfl⟩
  | cons entry rest ih =>
    obtain ⟨name, summary⟩ := entry
    obtain ⟨isOrdinary, othersOrdinary⟩ := List.forall_mem_cons.mp ordinary
    obtain ⟨typeKnown, othersKnown⟩ := List.forall_mem_cons.mp known
    obtain ⟨middle, first, step⟩ := collectLocal_spec found isOrdinary summary
    obtain ⟨_, stillFound⟩ := step.found found
    obtain ⟨edit, edited, effect⟩ :=
      ih othersOrdinary othersKnown (grows.trans step.grows) stillFound
    have editedFirst := classes_collectLocal found name summary
    rw [stateAfter_of_ok first, LocalSummary.edit_of_grows grows typeKnown] at editedFirst
    refine ⟨edit ∘ summary.edit base state.point name, ?_, fun object => ?_⟩
    · simp only [collect]
      rw [stateAfter_bind_of_ok first, stateAfter_bind_pure, edited, editedFirst,
        ClassTable.modify_modify]
    · rw [Function.comp_apply, effect, LocalSummary.unstamped_edit]
      rfl

/-- The part of a decoration that stores nothing in the class but edits of its tables: reporting
repeated annotations, collecting attributes, and reporting the order of the given ones. -/
def report (id : ClassId) (object : ClassObject) (attrs : List Attribute) : AnalysisM Unit := do
  reportRepetitions object.body.repetitions
  let _ ← collect id (object.body.locals true .firstAnnotated).entries
  reportOrder object attrs

/-- How a decoration runs: it reports repeated annotations, collects attributes, merges them into
the inherited ones, reports their order, and stores them with the constructor. -/
theorem decorate_run {state collected : Analysis} {id : ClassId} {object : ClassObject}
    (found : state.classes.get? id = some object) (options : Options)
    {own inherited : List Attribute}
    (collects : collect id (object.body.locals true .firstAnnotated).entries
      (stateAfter (reportRepetitions object.body.repetitions) state) = .ok own collected)
    (inherits : collected.classes.inherited id = .ok inherited) :
    let attrs := Attribute.mergeAll inherited own
    let warned := stateAfter (reportOrder object attrs) collected
    decorate options id state = .ok warned.point { warned with
      classes := collected.classes.modify id fun current =>
        (current.setFields (some attrs)).withConstructor options attrs warned.point } := by
  have got := AnalysisM.getClass_of_found found
  obtain ⟨reported, repeats⟩ := reportRepetitions_succeeds object.body.repetitions state
  rw [stateAfter_of_ok repeats] at collects
  have merges : AnalysisM.ofExcept (collected.classes.inherited id) collected =
      .ok inherited collected := by
    rw [inherits]
    rfl
  obtain ⟨current, stillFound⟩ : ∃ current, collected.classes.get? id = some current := by
    cases missing : collected.classes.get? id with
    | some current => exact ⟨current, rfl⟩
    | none =>
      rw [ClassTable.inherited, missing] at inherits
      cases inherits
  intro attrs warned
  obtain ⟨after, orders⟩ := reportOrder_succeeds object attrs collected
  have isWarned : warned = after := stateAfter_of_ok orders
  have sameClasses : warned.classes = collected.classes :=
    (definesNothing_reportOrder object attrs collected).2
  rw [← isWarned] at orders
  rw [decorate, bind_of_ok got, bind_of_ok repeats, bind_of_ok collects, get_bind,
    bind_of_ok merges, bind_of_ok orders, store_eq options attrs (sameClasses ▸ stillFound),
    sameClasses]

end Decoration

/-- After an edit of its tables, a class has the constructor that is added to it, or the one that it
had before. -/
theorem ClassObject.IsTableEdit.find?_constructor {edit : ClassObject → ClassObject}
    (tables : IsTableEdit edit) (options : Options) (fields : Option (List Attribute))
    (attrs : List Attribute) (point : PointId) (object : ClassObject) :
    (((edit object).setFields fields).withConstructor options attrs point).members.find?
        constructorName =
      if options.init && !object.members.contains constructorName then
        some (.single (.function (constructorFor object.type attrs)) point)
      else object.members.find? constructorName := by
  have kept := tables.constructor object
  have type : (edit object).type = object.type := by rw [tables.tables object]
  have present : ((edit object).setFields fields).members.contains constructorName =
      object.members.contains constructorName := by
    rw [NameTable.contains_eq_isSome_find?, NameTable.contains_eq_isSome_find?, ← kept]
    rfl
  rw [withConstructor, present]
  split
  · simp only [setMember, NameTable.find?_insert_self, setFields, type]
  · exact kept

namespace Decoration

/-- Decorating an existing class goes on from what it collects: it stores the collected attributes
merged into the inherited ones, adds their constructor unless it is not wanted or the class has one,
and reports their order. -/
theorem decorate_collected {state collected : Analysis} (ordered : state.classes.BasesFirst)
    {id : ClassId} {object : ClassObject} (found : state.classes.get? id = some object)
    (options : Options) {own : List Attribute}
    (collects : collect id (object.body.locals true .firstAnnotated).entries
      (stateAfter (reportRepetitions object.body.repetitions) state) = .ok own collected) :
    let attrs := Attribute.mergeAll [] (state.classes.inheritedParts id ++ own)
    let warned := stateAfter (reportOrder object attrs) collected
    ∃ after stored, decorate options id state = .ok after.point after ∧
      after.classes.get? id = some stored ∧ stored.fields = some attrs ∧
      stored.members.find? constructorName =
        (if options.init && !object.members.contains constructorName then
          some (.single (.function (constructorFor object.type attrs)) after.point)
        else object.members.find? constructorName) ∧
      after.log = warned.log ∧ after.point = warned.point := by
  have sameClasses := (definesNothing_reportRepetitions object.body.repetitions state).2
  set reported := stateAfter (reportRepetitions object.body.repetitions) state
  obtain ⟨_, alsoCollects, footprint⟩ := collect_body object.body (sameClasses.symm ▸ found)
  obtain ⟨rfl, rfl⟩ := EStateM.Result.ok.inj (collects.symm.trans alsoCollects)
  have inherits := footprint.inherited_eq (sameClasses ▸ ordered) (sameClasses ▸ found)
  obtain ⟨edit, tables, edited⟩ := footprint.classes
  rw [sameClasses] at edited inherits
  have ran := decorate_run found options collects inherits
  intro attrs warned
  dsimp only at ran
  rw [← Attribute.mergeAll_append] at ran
  refine ⟨{ warned with
    classes := collected.classes.modify id fun current =>
      (current.setFields (some attrs)).withConstructor options attrs warned.point },
    ((edit object).setFields (some attrs)).withConstructor options attrs warned.point, ran, ?_, ?_,
    tables.find?_constructor .., rfl, rfl⟩
  · dsimp only
    rw [edited, ClassTable.modify_modify, ClassTable.get?_modify_self found]
    rfl
  · rw [ClassObject.withConstructor]
    split <;> rfl

end Decoration

/-- What decorating does to a class, up to program points, when it stores the given attributes. -/
def ClassObject.decoratedBy (types : TypeContext) (options : Options) (attrs : List Attribute)
    (object : ClassObject) : ClassObject :=
  ((object.editedBy types (object.body.locals true .firstAnnotated).entries).setFields
    (some attrs)).withConstructor options attrs Program.entry

/-- The attributes that decorating a class stores: what it inherits, and then its own. -/
def Analysis.prescribed (state : Analysis) (types : TypeContext) (id : ClassId) (body : Body) :
    List Attribute :=
  Attribute.mergeAll [] (state.classes.inheritedParts id ++ body.ownAttributes types)

/-- The attributes of a body stay the same while the types grow, if its annotations are known. -/
theorem Body.ownAttributes_of_grows {before after : TypeContext} (grows : before.Grows after)
    {body : Body} (known : ∀ entry ∈ body.annotations, before.Knows entry.2) :
    body.ownAttributes after = body.ownAttributes before := by
  rw [← filterMap_locals, ← filterMap_locals]
  exact List.filterMap_congr fun entry listed =>
    LocalSummary.attribute?_of_grows grows (Decoration.locals_known known entry listed) entry.1

/-- Decorating an existing class stores the attributes that its ancestors and its body prescribe.
What it does to the class is settled by any earlier types that know the annotations. -/
theorem Decoration.decorate_edits {state : Analysis} (ordered : state.classes.BasesFirst)
    {id : ClassId} {object : ClassObject} (found : state.classes.get? id = some object)
    (options : Options) {base : TypeContext} (grows : base.Grows state.types)
    (known : ∀ entry ∈ object.body.annotations, base.Knows entry.2) :
    ∃ after stored, decorate options id state = .ok after.point after ∧
      Outcome options id (object.body.ownAttributes base) state after ∧
      after = { stateAfter (report id object (state.prescribed base id object.body)) state with
        classes := state.classes.modify id fun _ => stored } ∧
      stored.unstamped = object.unstamped.decoratedBy base options
        (state.prescribed base id object.body) := by
  obtain ⟨after, ran, outcome⟩ := decorate_spec ordered found options
  rw [Body.ownAttributes_of_grows grows known] at outcome
  obtain ⟨sameTypes, sameClasses⟩ :=
    definesNothing_reportRepetitions object.body.repetitions state
  set reported := stateAfter (reportRepetitions object.body.repetitions) state
  have stillFound : reported.classes.get? id = some object := sameClasses.symm ▸ found
  obtain ⟨collected, collects, footprint⟩ := collect_body object.body stillFound
  obtain ⟨edit, edited, effect⟩ := collect_edits (locals_ordinary object.body)
    (locals_known known) (sameTypes.symm ▸ grows : base.Grows reported.types) stillFound
  have inherits := footprint.inherited_eq (sameClasses.symm ▸ ordered) (sameClasses.symm ▸ found)
  rw [stateAfter_of_ok collects] at edited
  rw [sameClasses] at edited inherits
  rw [sameTypes, Body.ownAttributes_of_grows grows known] at collects
  have merged : Attribute.mergeAll (Attribute.mergeAll [] (state.classes.inheritedParts id))
      (object.body.ownAttributes base) = state.prescribed base id object.body := by
    rw [Analysis.prescribed, Attribute.mergeAll_append]
  have alsoRan := decorate_run found options collects inherits
  obtain ⟨_, repeats⟩ := reportRepetitions_succeeds object.body.repetitions state
  have reports : ∀ attrs, stateAfter (report id object attrs) state =
      stateAfter (reportOrder object attrs) collected := by
    intro attrs
    rw [report, stateAfter_bind_of_ok repeats, ← stateAfter_of_ok repeats,
      stateAfter_bind_of_ok collects]
  rw [merged] at alsoRan
  rw [reports]
  generalize state.prescribed base id object.body = attrs at alsoRan
  set warned := stateAfter (reportOrder object attrs) collected
  obtain ⟨-, rfl⟩ := EStateM.Result.ok.inj (ran.symm.trans alsoRan)
  refine ⟨_, ((edit object).setFields (some attrs)).withConstructor options attrs warned.point,
    ran, outcome, ?_, ?_⟩
  · simp only [edited, ClassTable.modify_modify]
    congr 1
    exact ClassTable.modify_congr found rfl
  · rw [ClassObject.unstamped_withConstructor, ClassObject.unstamped_setFields, effect]
    rfl

end DataclassSynthesis
