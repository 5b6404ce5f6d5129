import DataclassSynthesis.Dataclass.Inheritance
import DataclassSynthesis.Proofs.AttributeMerge
import DataclassSynthesis.Proofs.ClassEdits
import Mathlib.Data.List.Basic
import Mathlib.Logic.Relation

/-!
# The search for inherited attributes

When every base is older than the classes derived from it, the search for inherited attributes
ends before its bound, meets no unknown class, and merges one flat list: the lists stored on the
nearest decorated ancestors, in the order in which the search meets them
(`DataclassSynthesis.ClassTable.inherited_eq`).
-/

namespace DataclassSynthesis

namespace ClassTable

/-- Every base is older than the classes derived from it. -/
def BasesFirst (table : ClassTable) : Prop :=
  ∀ id object, table.get? id = some object → ∀ base ∈ object.bases, base.index < id.index

/-- A class names another one as a direct base. -/
def DerivesFrom (table : ClassTable) (child parent : ClassId) : Prop :=
  ∃ object, table.get? child = some object ∧ parent ∈ object.bases

/-- A class derives from another one through one of its bases. -/
theorem derives_iff_exists_base {table : ClassTable} {child parent : ClassId}
    {object : ClassObject} (found : table.get? child = some object) (differ : child ≠ parent) :
    Relation.ReflTransGen table.DerivesFrom child parent ↔
      ∃ base ∈ object.bases, Relation.ReflTransGen table.DerivesFrom base parent := by
  rw [Relation.ReflTransGen.cases_head_iff, or_iff_right differ]
  constructor
  · rintro ⟨base, ⟨other, alsoFound, member⟩, rest⟩
    obtain rfl := Option.some.inj (found.symm.trans alsoFound)
    exact ⟨base, member, rest⟩
  · rintro ⟨base, member, rest⟩
    exact ⟨base, ⟨object, found, member⟩, rest⟩

/-- Every ancestor is older than the classes below it. -/
theorem BasesFirst.lt_of_derives {table : ClassTable} (ordered : table.BasesFirst)
    {child ancestor : ClassId} (above : Relation.TransGen table.DerivesFrom child ancestor) :
    ancestor.index < child.index := by
  induction above with
  | single derives =>
    obtain ⟨object, found, member⟩ := derives
    exact ordered _ object found _ member
  | tail _ derives ih =>
    obtain ⟨object, found, member⟩ := derives
    exact Nat.lt_trans (ordered _ object found _ member) ih

/-- The stored lists of the nearest decorated ancestors of a class, one after the other: for each
base in declaration order its stored list, or what the base inherits when it has none. Bases that
are not older than the class, which no class statement can name, are left out. -/
def inheritedParts (table : ClassTable) (id : ClassId) : List Attribute :=
  match table.get? id with
  | none => []
  | some object => object.bases.flatMap fun base =>
    if base.index < id.index then
      ((table.get? base).bind ClassObject.fields).getD (inheritedParts table base)
    else []
termination_by id.index

/-- What a class passes on to the classes derived from it: its stored list, or what it inherits
when it has none. -/
def passedOnParts (table : ClassTable) (id : ClassId) : List Attribute :=
  ((table.get? id).bind ClassObject.fields).getD (table.inheritedParts id)

/-- A class inherits what its bases pass on, in declaration order. -/
theorem inheritedParts_eq {table : ClassTable} (ordered : table.BasesFirst) {id : ClassId}
    {object : ClassObject} (found : table.get? id = some object) :
    table.inheritedParts id = object.bases.flatMap table.passedOnParts := by
  rw [inheritedParts, found]
  refine List.flatMap_congr fun base member => ?_
  rw [if_pos (ordered id object found base member), passedOnParts]

/-- Every identifier before a known class is that of a class. -/
theorem exists_get?_of_lt {table : ClassTable} {id older : ClassId} {object : ClassObject}
    (found : table.get? id = some object) (before : older.index < id.index) :
    ∃ ancestor, table.get? older = some ancestor := by
  obtain ⟨inside, -⟩ := List.getElem?_eq_some_iff.mp found
  exact ⟨_, List.getElem?_eq_getElem (Nat.lt_trans before inside)⟩

/-- Merging what each base passes on is merging the parts it consists of. -/
theorem mergeBases_eq {passedOn : ClassId → Except DecorateError (List Attribute)}
    {parts : ClassId → List Attribute} {bases : List ClassId}
    (passes : ∀ base ∈ bases, ∃ added, passedOn base = .ok added ∧
      ∀ attrs, Attribute.mergeAll attrs added = Attribute.mergeAll attrs (parts base))
    (attrs : List Attribute) :
    mergeBases passedOn attrs bases = .ok (Attribute.mergeAll attrs (bases.flatMap parts)) := by
  induction bases generalizing attrs with
  | nil => rfl
  | cons base rest ih =>
    obtain ⟨⟨added, passed, same⟩, others⟩ := List.forall_mem_cons.mp passes
    rw [mergeBases, passed]
    change mergeBases passedOn (Attribute.mergeAll attrs added) rest = _
    rw [ih others, same, List.flatMap_cons, Attribute.mergeAll_append]

/-- Below its bound the search succeeds. What it finds has, for every merge, the effect of the
stored lists it consists of. -/
theorem passedOnWithin_spec {table : ClassTable} (ordered : table.BasesFirst) (depth : Nat)
    {id : ClassId} {object : ClassObject} (found : table.get? id = some object)
    (deep : id.index < depth) :
    ∃ added, table.passedOnWithin depth id = .ok added ∧
      ∀ attrs, Attribute.mergeAll attrs added =
        Attribute.mergeAll attrs (table.passedOnParts id) := by
  induction depth generalizing id object with
  | zero => exact (Nat.not_lt_zero _ deep).elim
  | succ depth ih =>
    rw [passedOnWithin, passedOnParts, found]
    cases stored : object.fields with
    | some fields => exact ⟨fields, by simp only [stored], by simp [stored]⟩
    | none =>
      have passes : ∀ base ∈ object.bases, ∃ added, table.passedOnWithin depth base = .ok added ∧
          ∀ attrs, Attribute.mergeAll attrs added =
            Attribute.mergeAll attrs (table.passedOnParts base) := by
        intro base member
        have older := ordered id object found base member
        obtain ⟨ancestor, present⟩ := exists_get?_of_lt found older
        exact ih present (by omega)
      refine ⟨Attribute.mergeAll [] (object.bases.flatMap table.passedOnParts), ?_, fun attrs => ?_⟩
      · simp only [stored]
        exact mergeBases_eq passes []
      · rw [Attribute.mergeAll_mergeAll, ← inheritedParts_eq ordered found]
        simp [stored]

/-- The search for inherited attributes succeeds for every class, and merges the stored lists of
its nearest decorated ancestors. -/
theorem inherited_eq {table : ClassTable} (ordered : table.BasesFirst) {id : ClassId}
    {object : ClassObject} (found : table.get? id = some object) :
    table.inherited id = .ok (Attribute.mergeAll [] (table.inheritedParts id)) := by
  rw [inherited, found, inheritedParts_eq ordered found]
  refine mergeBases_eq (fun base member => ?_) []
  have older := ordered id object found base member
  obtain ⟨ancestor, present⟩ := exists_get?_of_lt found older
  exact passedOnWithin_spec ordered table.size present
    (List.getElem?_eq_some_iff.mp present).1

/-- What a class inherits depends on the bases and the stored lists of the classes only. -/
theorem inheritedParts_congr {left right : ClassTable}
    (bases : ∀ id, (left.get? id).map ClassObject.bases = (right.get? id).map ClassObject.bases)
    (fields : ∀ id, (left.get? id).bind ClassObject.fields =
      (right.get? id).bind ClassObject.fields) (id : ClassId) :
    left.inheritedParts id = right.inheritedParts id := by
  -- Only what older classes inherit is asked for.
  induction age : id.index using Nat.strongRecOn generalizing id with
  | ind position ih =>
    have sameBases := bases id
    rw [inheritedParts, inheritedParts]
    cases inLeft : left.get? id with
    | none =>
      rw [inLeft, Option.map_none] at sameBases
      rw [Option.map_eq_none_iff.mp sameBases.symm]
    | some object =>
      rw [inLeft, Option.map_some] at sameBases
      obtain ⟨other, inRight, equal⟩ := Option.map_eq_some_iff.mp sameBases.symm
      rw [inRight]
      dsimp only
      rw [equal]
      refine List.flatMap_congr fun base _ => ?_
      by_cases older : base.index < id.index
      · rw [if_pos older, if_pos older, fields base, ih base.index (age ▸ older) base rfl]
      · rw [if_neg older, if_neg older]

/-- Edits of the tables of a class do not concern what classes inherit. -/
theorem inheritedParts_modify {edit : ClassObject → ClassObject}
    (tables : ClassObject.IsTableEdit edit) (table : ClassTable) (id other : ClassId) :
    (table.modify id edit).inheritedParts other = table.inheritedParts other := by
  refine inheritedParts_congr (fun queried => ?_) (fun queried => ?_) other <;>
    · rw [get?_modify]
      split
      · next same =>
        subst same
        cases table.get? queried with
        | none => rfl
        | some object =>
          simp only [Option.map_some, Option.bind_some]
          rw [tables.tables object]
      · rfl

/-- An edit of a class that keeps its bases does not concern what a class inherits that is not below
it. -/
theorem inheritedParts_modify_of_apart {table : ClassTable} {id other : ClassId}
    {edit : ClassObject → ClassObject}
    (keeps : ∀ object, table.get? id = some object → (edit object).bases = object.bases)
    (apart : ¬ Relation.TransGen table.DerivesFrom other id) :
    (table.modify id edit).inheritedParts other = table.inheritedParts other := by
  -- A base of a class that is not below the edited class is another class that is not below it.
  induction age : other.index using Nat.strongRecOn generalizing other with
  | ind position ih =>
    rw [inheritedParts, inheritedParts]
    cases found : table.get? other with
    | none =>
      have missing : (table.modify id edit).get? other = none := by
        rw [get?_modify]
        split
        · next same => rw [← same, found, Option.map_none]
        · exact found
      rw [missing]
    | some object =>
      obtain ⟨current, nowFound, sameBases⟩ :
          ∃ current, (table.modify id edit).get? other = some current ∧
            current.bases = object.bases := by
        rw [get?_modify]
        split
        · next same =>
          rw [← same, found]
          exact ⟨edit object, rfl, keeps object (same ▸ found)⟩
        · exact ⟨object, found, rfl⟩
      rw [nowFound]
      dsimp only
      rw [sameBases]
      refine List.flatMap_congr fun base member => ?_
      have derives : table.DerivesFrom other base := ⟨object, found, member⟩
      have differ : base ≠ id := by
        rintro rfl
        exact apart (.single derives)
      by_cases older : base.index < other.index
      · rw [if_pos older, if_pos older, get?_modify_of_ne table differ,
          ih base.index (age ▸ older) (fun above => apart (above.head derives)) rfl]
      · rw [if_neg older, if_neg older]

/-- Edits that keep the bases of a class keep bases older. -/
theorem BasesFirst.modify {table : ClassTable} (ordered : table.BasesFirst) (id : ClassId)
    {edit : ClassObject → ClassObject} (keeps : ∀ object, (edit object).bases = object.bases) :
    (table.modify id edit).BasesFirst := by
  intro other object found base member
  rw [get?_modify] at found
  split at found
  · next same =>
    obtain ⟨before, present, rfl⟩ := Option.map_eq_some_iff.mp found
    rw [keeps] at member
    exact same ▸ ordered id before present base member
  · exact ordered other object found base member

/-- A class whose bases exist may be added. -/
theorem BasesFirst.push {table : ClassTable} (ordered : table.BasesFirst) {object : ClassObject}
    (exist : ∀ base ∈ object.bases, ∃ found, table.get? base = some found) :
    (table.push object).BasesFirst := by
  intro id found present base member
  rcases get?_of_push present with before | ⟨rfl, rfl⟩
  · exact ordered id found before base member
  · obtain ⟨ancestor, older⟩ := exist base member
    exact (List.getElem?_eq_some_iff.mp older).1

/-- Tables with the same identities have the same size. -/
theorem size_eq_of_rel {left right : ClassTable} {alike : ClassObject → ClassObject → Prop}
    (related : ∀ id, Option.Rel alike (left.get? id) (right.get? id)) : left.size = right.size := by
  have absent : ∀ index, left.size ≤ index ↔ right.size ≤ index := by
    intro index
    rw [size, size, ← List.getElem?_eq_none_iff, ← List.getElem?_eq_none_iff]
    change left.get? ⟨index⟩ = none ↔ right.get? ⟨index⟩ = none
    rcases get?_cases_of_rel (related ⟨index⟩) with
      ⟨isNone, alsoNone⟩ | ⟨object, other, found, alsoFound, -⟩
    · exact iff_of_true isNone alsoNone
    · rw [found, alsoFound]
      exact iff_of_false (Option.some_ne_none object) (Option.some_ne_none other)
  have upper := absent left.size
  have lower := absent right.size
  omega

/-- What a class inherits is found in bases and stored attributes alone. -/
theorem inherited_congr {left right : ClassTable} {alike : ClassObject → ClassObject → Prop}
    (agrees : ∀ object other, alike object other →
      other.bases = object.bases ∧ other.fields = object.fields)
    (related : ∀ id, Option.Rel alike (left.get? id) (right.get? id))
    (id : ClassId) : left.inherited id = right.inherited id := by
  have passes : ∀ depth, left.passedOnWithin depth = right.passedOnWithin depth := by
    intro depth
    induction depth with
    | zero =>
      funext id
      rw [passedOnWithin, passedOnWithin]
      rcases get?_cases_of_rel (related id) with
        ⟨isNone, alsoNone⟩ | ⟨object, other, found, alsoFound, same⟩
      · rw [isNone, alsoNone]
      · rw [found, alsoFound]
        dsimp only
        rw [(agrees object other same).2]
        cases object.fields <;> rfl
    | succ depth ih =>
      funext id
      rw [passedOnWithin, passedOnWithin]
      rcases get?_cases_of_rel (related id) with
        ⟨isNone, alsoNone⟩ | ⟨object, other, found, alsoFound, same⟩
      · rw [isNone, alsoNone]
      · obtain ⟨sameBases, sameFields⟩ := agrees object other same
        rw [found, alsoFound]
        dsimp only
        rw [sameBases, sameFields]
        cases object.fields with
        | some fields => rfl
        | none => exact congrArg (mergeBases · [] object.bases) ih
  rw [inherited, inherited, size_eq_of_rel related]
  rcases get?_cases_of_rel (related id) with
    ⟨isNone, alsoNone⟩ | ⟨object, other, found, alsoFound, same⟩
  · rw [isNone, alsoNone]
  · rw [found, alsoFound]
    dsimp only
    rw [(agrees object other same).1, passes]

end ClassTable

end DataclassSynthesis
