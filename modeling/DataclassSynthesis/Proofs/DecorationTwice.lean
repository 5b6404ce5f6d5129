import DataclassSynthesis.Proofs.ConstructorHistory
import DataclassSynthesis.Proofs.DecorationEdits

/-!
# Decorating a class twice

The edits that collecting makes concern one name each, and each of them leaves the tables in a state
in which it changes nothing more. So a second decoration, which collects the same attributes from
the same body, finds every name settled (`DataclassSynthesis.ClassObject.decoratedBy_idem`).
-/

namespace DataclassSynthesis

/-- What the tables of a class hold under a name, as a member and as an annotated name. -/
def ClassObject.entryOf (object : ClassObject) (name : String) : Option Variable × Option TypeId :=
  (object.members.find? name, object.annotations.find? name)

/-- The tables of a class hold under a name what collecting it puts there. -/
def MemberKind.Settled (types : TypeContext) (name : String) (type : TypeId) (assigned : Bool)
    (object : ClassObject) : MemberKind → Prop
  | classVariable => True
  | initVariable inner =>
    if assigned then (object.entryOf name).2 = some inner else object.entryOf name = (none, none)
  | field _ | plain =>
    (object.entryOf name).1 = some (.single (types.instanceValue type) Program.entry)

/-- The tables of a class hold under a name of its body what collecting the name puts there. -/
def LocalSummary.Settled (types : TypeContext) (name : String) (object : ClassObject)
    (summary : LocalSummary) : Prop :=
  ∀ type ∈ summary.type,
    (MemberKind.of types type summary.value).Settled types name type summary.value.isSome object

namespace LocalSummary

variable {types : TypeContext} {name : String} {summary : LocalSummary}

/-- Collecting a name settles it. -/
theorem settled_edit (types : TypeContext) (name : String) (summary : LocalSummary)
    (object : ClassObject) :
    summary.Settled types name (summary.edit types Program.entry name object) := by
  intro type typed
  have isTyped : summary.type = some type := typed
  simp only [edit, isTyped]
  cases MemberKind.of types type summary.value with
  | classVariable => trivial
  | initVariable inner =>
    cases assigned : summary.value.isSome with
    | true => exact NameTable.find?_insert_self ..
    | false =>
      exact Prod.ext (NameTable.find?_erase_self ..) (NameTable.find?_erase_self ..)
  | field _ | plain => exact NameTable.find?_insert_self ..

/-- Collecting a settled name changes nothing. -/
theorem Settled.edit_eq {object : ClassObject} (settled : summary.Settled types name object) :
    summary.edit types Program.entry name object = object := by
  unfold edit
  cases typed : summary.type with
  | none => rfl
  | some type =>
    have held := settled type typed
    dsimp only
    cases kind : MemberKind.of types type summary.value with
    | classVariable => rfl
    | initVariable inner =>
      rw [kind] at held
      cases assigned : summary.value.isSome with
      | true =>
        rw [assigned] at held
        simp only [MemberKind.edit, ↓reduceIte, ClassObject.setAnnotated]
        rw [NameTable.insert_of_find? held]
      | false =>
        rw [assigned] at held
        obtain ⟨noMember, noType⟩ := Prod.ext_iff.mp held
        simp only [MemberKind.edit, Bool.false_eq_true, ↓reduceIte, ClassObject.forget]
        rw [NameTable.erase_of_find?_eq_none noMember, NameTable.erase_of_find?_eq_none noType]
    | field _ | plain =>
      rw [kind] at held
      simp only [MemberKind.edit, ClassObject.setMember]
      rw [NameTable.insert_of_find? held]

/-- Whether a name is settled depends on what the tables hold under it. -/
theorem Settled.of_entryOf {first second : ClassObject} (settled : summary.Settled types name first)
    (same : second.entryOf name = first.entryOf name) : summary.Settled types name second := by
  have alike : ∀ (kind : MemberKind) (type : TypeId) (assigned : Bool),
      kind.Settled types name type assigned second =
        kind.Settled types name type assigned first := by
    intro kind type assigned
    cases kind <;> simp only [MemberKind.Settled, same]
  intro type typed
  rw [alike]
  exact settled type typed

/-- Collecting a name concerns no other name. -/
theorem entryOf_edit_of_ne {other : String} (differ : other ≠ name) (point : PointId)
    (object : ClassObject) :
    (summary.edit types point name object).entryOf other = object.entryOf other := by
  unfold edit
  cases summary.type with
  | none => rfl
  | some type =>
    dsimp only
    cases MemberKind.of types type summary.value with
    | classVariable => rfl
    | initVariable inner =>
      cases summary.value.isSome with
      | true => exact Prod.ext rfl (NameTable.find?_insert_of_ne _ _ differ)
      | false =>
        exact Prod.ext (NameTable.find?_erase_of_ne _ differ) (NameTable.find?_erase_of_ne _ differ)
    | field _ | plain => exact Prod.ext (NameTable.find?_insert_of_ne _ _ differ) rfl

end LocalSummary

namespace ClassObject

variable {types : TypeContext}

/-- Collecting some names concerns no other name. -/
theorem entryOf_editedBy {name : String} {locals : List (String × LocalSummary)}
    (other : name ∉ locals.map Prod.fst) (object : ClassObject) :
    (object.editedBy types locals).entryOf name = object.entryOf name := by
  induction locals generalizing object with
  | nil => rfl
  | cons entry rest ih =>
    obtain ⟨differ, later⟩ := List.ne_and_not_mem_of_not_mem_cons other
    have kept := ih later (entry.2.edit types Program.entry entry.1 object)
    exact kept.trans (LocalSummary.entryOf_edit_of_ne differ Program.entry object)

/-- Collecting distinct names settles all of them. -/
theorem settled_editedBy {locals : List (String × LocalSummary)}
    (distinct : (locals.map Prod.fst).Nodup) (object : ClassObject) :
    ∀ entry ∈ locals, entry.2.Settled types entry.1 (object.editedBy types locals) := by
  induction locals generalizing object with
  | nil => nofun
  | cons entry rest ih =>
    obtain ⟨fresh, others⟩ := List.nodup_cons.mp distinct
    refine List.forall_mem_cons.mpr ⟨?_, ih others _⟩
    -- The names that are collected later do not unsettle the first one.
    exact (entry.2.settled_edit types entry.1 object).of_entryOf (entryOf_editedBy fresh _)

/-- Collecting settled names changes nothing. -/
theorem editedBy_of_settled {locals : List (String × LocalSummary)} {object : ClassObject}
    (settled : ∀ entry ∈ locals, entry.2.Settled types entry.1 object) :
    object.editedBy types locals = object := by
  induction locals with
  | nil => rfl
  | cons entry rest ih =>
    obtain ⟨first, others⟩ := List.forall_mem_cons.mp settled
    have unchanged := first.edit_eq
    rw [editedBy, List.foldl_cons, unchanged]
    exact ih others

/-- The constructor concerns no other name. -/
theorem entryOf_withConstructor {name : String} (ordinary : constructorName ≠ name)
    (options : Options) (attrs : List Attribute) (point : PointId) (object : ClassObject) :
    (object.withConstructor options attrs point).entryOf name = object.entryOf name := by
  rw [withConstructor]
  split
  · exact Prod.ext (NameTable.find?_insert_of_ne _ _ ordinary.symm) rfl
  · rfl

/-- A class that has the constructor keeps it. -/
theorem withConstructor_idem (options : Options) (attrs : List Attribute) (point : PointId)
    (object : ClassObject) :
    (object.withConstructor options attrs point).withConstructor options attrs point =
      object.withConstructor options attrs point := by
  by_cases wanted : options.init && !object.members.contains constructorName
  · rw [withConstructor, if_neg]
    have present : (object.withConstructor options attrs point).members.contains constructorName =
        true := by
      rw [withConstructor, if_pos wanted, NameTable.contains_eq_isSome_find?]
      simp only [setMember, NameTable.find?_insert_self, Option.isSome_some]
    simp only [present, Bool.not_true, Bool.and_false, Bool.false_eq_true, not_false_eq_true]
  · have kept : object.withConstructor options attrs point = object := by
      rw [withConstructor, if_neg wanted]
    rw [kept, kept]

/-- Collecting some names changes the tables of the class only. -/
theorem editedBy_tables (types : TypeContext) (locals : List (String × LocalSummary))
    (object : ClassObject) :
    ∃ members annotations, object.editedBy types locals =
      { object with members := members, annotations := annotations } := by
  induction locals generalizing object with
  | nil => exact ⟨object.members, object.annotations, rfl⟩
  | cons entry rest ih =>
    have first : ∃ members annotations, entry.2.edit types Program.entry entry.1 object =
        { object with members := members, annotations := annotations } := by
      unfold LocalSummary.edit MemberKind.edit
      split
      · exact ⟨_, _, rfl⟩
      · split
        · exact ⟨_, _, rfl⟩
        · split <;> exact ⟨_, _, rfl⟩
        · exact ⟨_, _, rfl⟩
        · exact ⟨_, _, rfl⟩
    obtain ⟨_, _, edited⟩ := first
    obtain ⟨members, annotations, others⟩ := ih (entry.2.edit types Program.entry entry.1 object)
    refine ⟨members, annotations, others.trans ?_⟩
    rw [edited]

/-- Decorating changes the tables of the class and its attributes only. -/
theorem decoratedBy_tables (types : TypeContext) (options : Options) (attrs : List Attribute)
    (object : ClassObject) :
    ∃ members annotations, object.decoratedBy types options attrs =
      { object with members := members, annotations := annotations, fields := some attrs } := by
  obtain ⟨members, annotations, edited⟩ :=
    object.editedBy_tables types (object.body.locals true .firstAnnotated).entries
  rw [decoratedBy, edited, withConstructor]
  split <;> exact ⟨_, annotations, rfl⟩

/-- Up to program points, decorating a class again with the same attributes changes nothing. -/
theorem decoratedBy_idem (types : TypeContext) (options : Options) (attrs : List Attribute)
    (object : ClassObject) :
    (object.decoratedBy types options attrs).decoratedBy types options attrs =
      object.decoratedBy types options attrs := by
  obtain ⟨members, annotations, tables⟩ := object.decoratedBy_tables types options attrs
  set locals := object.body.locals true .firstAnnotated
  have settled : ∀ entry ∈ locals.entries, entry.2.Settled types entry.1
      (object.decoratedBy types options attrs) := by
    intro entry listed
    have ordinary := Decoration.locals_ordinary object.body entry listed
    exact (settled_editedBy locals.distinct object entry listed).of_entryOf
      (entryOf_withConstructor ordinary options attrs Program.entry _)
  have unedited := editedBy_of_settled settled
  have stored : (object.decoratedBy types options attrs).setFields (some attrs) =
      object.decoratedBy types options attrs := by
    rw [tables]
    rfl
  have sameBody : (object.decoratedBy types options attrs).body = object.body := by rw [tables]
  rw [decoratedBy, sameBody, unedited, stored]
  exact withConstructor_idem ..

end ClassObject

/-- A decorated class has the body and the bases that it had. -/
theorem ClassObject.body_and_bases_of_decorated {types : TypeContext} {options : Options}
    {attrs : List Attribute} {object stored : ClassObject}
    (effect : stored.unstamped = object.unstamped.decoratedBy types options attrs) :
    stored.body = object.body ∧ stored.bases = object.bases := by
  obtain ⟨members, annotations, tables⟩ := object.unstamped.decoratedBy_tables types options attrs
  have body := congrArg ClassObject.body (effect.trans tables)
  have bases := congrArg ClassObject.bases (effect.trans tables)
  exact ⟨body, bases⟩

namespace Decoration

/-- Decorating a class does not concern what is prescribed for a class that is not below it. -/
theorem prescribed_of_apart {before after : Analysis} {id other : ClassId}
    {object stored : ClassObject} (found : before.classes.get? id = some object)
    (edited : after.classes = before.classes.modify id fun _ => stored)
    (sameBases : stored.bases = object.bases)
    (apart : ¬ Relation.TransGen before.classes.DerivesFrom other id) (base : TypeContext)
    (body : Body) : after.prescribed base other body = before.prescribed base other body := by
  have inherits : after.classes.inheritedParts other = before.classes.inheritedParts other := by
    rw [edited]
    refine ClassTable.inheritedParts_modify_of_apart ?_ apart
    intro current present
    rw [sameBases, Option.some.inj (found.symm.trans present)]
  rw [Analysis.prescribed, Analysis.prescribed, inherits]

/-- A decoration that changes a class at most in program points keeps its constructor as it is. -/
theorem Outcome.find?_constructor_eq {options : Options} {id : ClassId} {own : List Attribute}
    {before after : Analysis} (outcome : Outcome options id own before after)
    {first second : ClassObject} (found : before.classes.get? id = some first)
    (nowFound : after.classes.get? id = some second) (alike : second.unstamped = first.unstamped) :
    second.members.find? constructorName = first.members.find? constructorName := by
  have samePresence : second.members.contains constructorName =
      first.members.contains constructorName := by
    have present := congrArg (fun object => object.members.contains constructorName) alike
    simpa only [ClassObject.unstamped, NameTable.contains_map] using present
  cases present : first.members.contains constructorName with
  | true =>
    obtain ⟨later, alsoFound, kept⟩ := outcome.keepsConstructor found present
    obtain rfl := Option.some.inj (nowFound.symm.trans alsoFound)
    exact kept.constructor
  | false =>
    rw [present] at samePresence
    rw [NameTable.contains_eq_false_iff.mp present, NameTable.contains_eq_false_iff.mp samePresence]

/-- Decorating a class twice in a row succeeds. Up to program points the class is the same after
both decorations, and so is its constructor, points included. -/
theorem decorate_twice {state : Analysis} (ordered : state.classes.BasesFirst)
    {id : ClassId} {object : ClassObject} (found : state.classes.get? id = some object)
    (options : Options) (known : ∀ entry ∈ object.body.annotations, state.types.Knows entry.2) :
    ∃ once twice first second,
      decorate options id state = .ok once.point once ∧
      decorate options id once = .ok twice.point twice ∧
      once.classes.get? id = some first ∧ twice.classes.get? id = some second ∧
      second.unstamped = first.unstamped ∧
      second.members.find? constructorName = first.members.find? constructorName := by
  obtain ⟨once, first, ran, outcome, edited, effect⟩ :=
    decorate_edits ordered found options (.refl state.types) known
  have classes : once.classes = state.classes.modify id fun _ => first :=
    congrArg Analysis.classes edited
  have nowFound : once.classes.get? id = some first := by
    rw [classes, ClassTable.get?_modify_self found]
  obtain ⟨sameBody, sameBases⟩ := ClassObject.body_and_bases_of_decorated effect
  have apart : ¬ Relation.TransGen state.classes.DerivesFrom id id := fun above =>
    Nat.lt_irrefl _ (ordered.lt_of_derives above)
  have samePrescribed : once.prescribed state.types id first.body =
      state.prescribed state.types id object.body := by
    rw [prescribed_of_apart found classes sameBases apart, sameBody]
  obtain ⟨twice, second, ranAgain, outcomeAgain, editedAgain, effectAgain⟩ :=
    decorate_edits (outcome.basesFirst ordered) nowFound options (outcome.grows found)
      (sameBody ▸ known)
  have lastFound : twice.classes.get? id = some second := by
    have classesAgain := congrArg Analysis.classes editedAgain
    rw [classesAgain]
    exact ClassTable.get?_modify_self nowFound _
  have alike : second.unstamped = first.unstamped := by
    rw [effectAgain, samePrescribed, effect, ClassObject.decoratedBy_idem]
  exact ⟨once, twice, first, second, ran, ranAgain, nowFound, lastFound, alike,
    outcomeAgain.find?_constructor_eq nowFound lastFound alike⟩

end Decoration

end DataclassSynthesis
