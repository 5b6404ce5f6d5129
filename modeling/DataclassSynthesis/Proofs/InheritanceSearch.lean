import DataclassSynthesis.Proofs.ReachedClasses

/-!
# The search for inherited attributes as one merge

Whatever lists the classes of a reached state store, the depth-first search above a class ends at
its nearest decorated ancestors, and what it merges level by level is one merge of their lists, in
the order in which the search meets them (`DataclassSynthesis.Reaches.inherited_is_one_merge`).
A merged list has each name where it occurs first, with the attribute that has it last
(`DataclassSynthesis.Attribute.exists_last_of_mem_mergeAll`).
-/

namespace DataclassSynthesis

namespace Attribute

/-- Merging lists each name once, where it occurs first. -/
theorem map_name_mergeAll (added : List Attribute) :
    (mergeAll [] added).map name = (added.map name).eraseDups := by
  induction added using List.reverseRecOn with
  | nil => rfl
  | append_singleton init last ih =>
    have merged : mergeAll [] (init ++ [last]) = merge (mergeAll [] init) last :=
      mergeAll_append [] init [last]
    rw [merged, map_name_merge, ih, List.map_append, List.map_singleton, List.eraseDups_append]
    generalize init.map name = names
    by_cases present : last.name ∈ names
    · simp [present, List.removeAll]
    · simp [present, List.removeAll, List.eraseDups_cons]

/-- After a merge the merged attribute is the only one with its name. -/
theorem mem_merge {attrs : List Attribute} (distinct : (attrs.map name).Nodup)
    {attr found : Attribute} (member : found ∈ merge attrs attr) :
    found = attr ∨ found ∈ attrs ∧ found.name ≠ attr.name := by
  induction attrs with
  | nil => exact .inl (List.mem_singleton.mp member)
  | cons head tail ih =>
    obtain ⟨fresh, distinctTail⟩ := List.nodup_cons.mp distinct
    by_cases same : head.name = attr.name
    · have replaced : merge (head :: tail) attr = attr :: tail := by
        simp [merge, replaceOrAppend, same]
      rw [replaced] at member
      rcases List.mem_cons.mp member with here | later
      · exact .inl here
      · refine .inr ⟨List.mem_cons_of_mem _ later, fun equal => fresh ?_⟩
        rw [same, ← equal]
        exact List.mem_map_of_mem later
    · have kept : merge (head :: tail) attr = head :: merge tail attr := by
        simp [merge, replaceOrAppend, same]
      rw [kept] at member
      rcases List.mem_cons.mp member with rfl | later
      · exact .inr ⟨List.mem_cons_self, same⟩
      · exact (ih distinctTail later).imp_right fun other =>
          ⟨List.mem_cons_of_mem _ other.1, other.2⟩

/-- A merged list has for each name the attribute that has it last. -/
theorem exists_last_of_mem_mergeAll {added : List Attribute} {attr : Attribute}
    (member : attr ∈ mergeAll [] added) :
    ∃ before after, added = before ++ attr :: after ∧ ∀ later ∈ after, later.name ≠ attr.name := by
  induction added using List.reverseRecOn with
  | nil => cases member
  | append_singleton init last ih =>
    have merged : mergeAll [] (init ++ [last]) = merge (mergeAll [] init) last :=
      mergeAll_append [] init [last]
    have distinct : ((mergeAll [] init).map name).Nodup := nodup_mergeAll init (by simp)
    rw [merged] at member
    rcases mem_merge distinct member with rfl | ⟨earlier, differ⟩
    · exact ⟨init, [], rfl, nofun⟩
    · obtain ⟨before, after, rfl, absent⟩ := ih earlier
      refine ⟨before, after ++ [last], by simp, ?_⟩
      intro later listed
      rcases List.mem_append.mp listed with among | single
      · exact absent later among
      · rw [List.mem_singleton.mp single]
        exact differ.symm

end Attribute

namespace ClassTable

/-- A depth-first search from left to right through some classes and the classes above them meets
these decorated ones. It does not look above a class that is decorated. -/
inductive Searches (table : ClassTable) : List ClassId → List ClassId → Prop
  | nil : Searches table [] []
  | stop {id : ClassId} {object : ClassObject} {rest met : List ClassId}
      (found : table.get? id = some object) (decorated : object.fields.isSome)
      (others : Searches table rest met) : Searches table (id :: rest) (id :: met)
  | climb {id : ClassId} {object : ClassObject} {rest higher met : List ClassId}
      (found : table.get? id = some object) (undecorated : object.fields = none)
      (above : Searches table object.bases higher)
      (others : Searches table rest met) : Searches table (id :: rest) (higher ++ met)

/-- A search meets the same classes whenever it is made. -/
theorem Searches.deterministic {table : ClassTable} {ids met others : List ClassId}
    (first : table.Searches ids met) (second : table.Searches ids others) : met = others := by
  induction first generalizing others with
  | nil =>
    cases second
    rfl
  | stop found decorated _ ih =>
    cases second with
    | stop _ _ rest => rw [ih rest]
    | climb alsoFound undecorated _ _ =>
      obtain rfl := Option.some.inj (found.symm.trans alsoFound)
      rw [undecorated] at decorated
      cases decorated
  | climb found undecorated _ _ ihAbove ih =>
    cases second with
    | stop alsoFound decorated _ =>
      obtain rfl := Option.some.inj (found.symm.trans alsoFound)
      rw [undecorated] at decorated
      cases decorated
    | climb alsoFound _ above rest =>
      obtain rfl := Option.some.inj (found.symm.trans alsoFound)
      rw [ihAbove above, ih rest]

/-- A search meets decorated classes only. -/
theorem Searches.decorated {table : ClassTable} {ids met : List ClassId}
    (searched : table.Searches ids met) :
    ∀ ancestor ∈ met, ∃ object, table.get? ancestor = some object ∧ object.fields.isSome := by
  induction searched with
  | nil => nofun
  | stop found decorated _ ih => exact List.forall_mem_cons.mpr ⟨⟨_, found, decorated⟩, ih⟩
  | climb _ _ _ _ ihAbove ih =>
    intro ancestor member
    exact (List.mem_append.mp member).elim (ihAbove ancestor) (ih ancestor)

/-- The list that a class stores; empty when it stores none. -/
def storedAttributes (table : ClassTable) (id : ClassId) : List Attribute :=
  ((table.get? id).bind ClassObject.fields).getD []

/-- When bases are older, a search ends, and finds the lists of which inherited attributes
consist. -/
theorem exists_searches {table : ClassTable} (ordered : table.BasesFirst) (bound : Nat)
    {ids : List ClassId}
    (exist : ∀ id ∈ ids, id.index < bound ∧ ∃ object, table.get? id = some object) :
    ∃ met, table.Searches ids met ∧
      met.flatMap table.storedAttributes = ids.flatMap table.passedOnParts := by
  -- The searches above the listed classes are about older classes.
  induction bound generalizing ids with
  | zero =>
    cases ids with
    | nil => exact ⟨[], .nil, rfl⟩
    | cons id rest => exact (Nat.not_lt_zero _ (exist id List.mem_cons_self).1).elim
  | succ bound ihBound =>
    induction ids with
    | nil => exact ⟨[], .nil, rfl⟩
    | cons id rest ih =>
      obtain ⟨⟨inside, object, found⟩, others⟩ := List.forall_mem_cons.mp exist
      obtain ⟨met, searched, same⟩ := ih others
      cases stored : object.fields with
      | some fields =>
        refine ⟨id :: met, .stop found (by rw [stored]; rfl) searched, ?_⟩
        rw [List.flatMap_cons, List.flatMap_cons, same, storedAttributes, passedOnParts, found,
          Option.bind_some, stored, Option.getD_some, Option.getD_some]
      | none =>
        have above : ∀ base ∈ object.bases,
            base.index < bound ∧ ∃ ancestor, table.get? base = some ancestor := by
          intro base member
          have older := ordered id object found base member
          exact ⟨by omega, exists_get?_of_lt found older⟩
        obtain ⟨higher, climbed, alsoSame⟩ := ihBound above
        refine ⟨higher ++ met, .climb found stored climbed searched, ?_⟩
        rw [List.flatMap_append, List.flatMap_cons, same, alsoSame, passedOnParts, found,
          Option.bind_some, stored, Option.getD_none, inheritedParts_eq ordered found]

/-- The table in which each class stores the given list, or none. -/
def storing (table : ClassTable) (stored : ClassId → Option (List Attribute)) : ClassTable :=
  ⟨table.classes.mapIdx fun index object => object.setFields (stored ⟨index⟩)⟩

/-- Storing other lists changes nothing but the lists. -/
theorem get?_storing (table : ClassTable) (stored : ClassId → Option (List Attribute))
    (id : ClassId) :
    (table.storing stored).get? id =
      (table.get? id).map fun object => object.setFields (stored id) := by
  rw [get?, storing, List.getElem?_mapIdx]
  rfl

/-- Storing other lists keeps the bases older. -/
theorem BasesFirst.storing {table : ClassTable} (ordered : table.BasesFirst)
    (stored : ClassId → Option (List Attribute)) : (table.storing stored).BasesFirst := by
  intro id object found base member
  rw [get?_storing] at found
  obtain ⟨before, present, rfl⟩ := Option.map_eq_some_iff.mp found
  exact ordered id before present base member

end ClassTable

/-- Whatever lists the classes of a reached state store, the search for what a class inherits
succeeds. It ends at the nearest decorated ancestors, and gives one merge of their lists: each name
once, where it occurs first, with the attribute that has it last. -/
theorem Reaches.inherited_is_one_merge {config : WarningConfig} {state : Analysis}
    (reached : Reaches Operation.Any (Analysis.initial config) state)
    (stored : ClassId → Option (List Attribute)) {id : ClassId} {object : ClassObject}
    (found : state.classes.get? id = some object) :
    ∃ met attrs,
      (∀ others, (state.classes.storing stored).Searches object.bases others ↔ others = met) ∧
      (state.classes.storing stored).inherited id = .ok attrs ∧
      let listed := met.flatMap fun ancestor => (stored ancestor).getD []
      attrs = listed.foldl Attribute.merge [] ∧
      (attrs.map Attribute.name).Nodup ∧
      attrs.map Attribute.name = (listed.map Attribute.name).eraseDups ∧
      ∀ attr ∈ attrs, ∃ before after, listed = before ++ attr :: after ∧
        ∀ later ∈ after, later.name ≠ attr.name := by
  have ordered := reached.basesFirst.storing stored
  have nowFound : (state.classes.storing stored).get? id = some (object.setFields (stored id)) := by
    rw [ClassTable.get?_storing, found, Option.map_some]
  have exist : ∀ base ∈ object.bases, base.index < id.index ∧
      ∃ ancestor, (state.classes.storing stored).get? base = some ancestor := by
    intro base member
    have older := reached.basesFirst id object found base member
    exact ⟨older, ClassTable.exists_get?_of_lt nowFound older⟩
  obtain ⟨met, searched, same⟩ := ClassTable.exists_searches ordered id.index exist
  have parts : (state.classes.storing stored).inheritedParts id =
      met.flatMap fun ancestor => (stored ancestor).getD [] := by
    rw [ClassTable.inheritedParts_eq ordered nowFound]
    refine same.symm.trans (List.flatMap_congr fun ancestor member => ?_)
    obtain ⟨object, present, -⟩ := searched.decorated ancestor member
    rw [ClassTable.get?_storing] at present
    obtain ⟨before, there, -⟩ := Option.map_eq_some_iff.mp present
    rw [ClassTable.storedAttributes, ClassTable.get?_storing, there]
    rfl
  refine ⟨met, _, fun others => ⟨fun other => other.deterministic searched, ?_⟩,
    ClassTable.inherited_eq ordered nowFound, ?_⟩
  · rintro rfl
    exact searched
  · rw [parts]
    exact ⟨rfl, Attribute.nodup_mergeAll _ (by simp), Attribute.map_name_mergeAll _,
      fun attr member => Attribute.exists_last_of_mem_mergeAll member⟩

namespace Sample

/-- The statement `class Join(Derived, Base): pass`. -/
def join : ClassDefinition := ClassDefinition.start "Join" [⟨1⟩, ⟨0⟩] none

/-- The base class stores a list that repeats a name, and the other classes store none. -/
def repeating (id : ClassId) : Option (List Attribute) :=
  if id = ⟨0⟩ then
    some [⟨"x", .int, true, none⟩, ⟨"y", .str, true, none⟩, ⟨"x", .float, true, none⟩]
  else none

/-- The base class is met twice, once above the undecorated class, and each name is inherited
once. -/
theorem join_inherits_each_name_once :
    ∃ attrs, ((Operation.run defined (.define join)).classes.storing repeating).inherited ⟨2⟩ =
        .ok attrs ∧ attrs.map Attribute.name = ["x", "y"] := by
  have reached := reaches_defined.step (.define join) trivial
  have found : (Operation.run defined (.define join)).classes.get? ⟨2⟩ = some _ := rfl
  obtain ⟨met, attrs, meets, inherits, -, -, names, -⟩ :=
    reached.inherited_is_one_merge repeating found
  have searched : ((Operation.run defined (.define join)).classes.storing repeating).Searches
      [⟨1⟩, ⟨0⟩] ([⟨0⟩] ++ [⟨0⟩]) :=
    .climb rfl rfl (.stop rfl rfl .nil) (.stop rfl rfl .nil)
  obtain rfl := (meets _).mp searched
  exact ⟨attrs, inherits, names.trans (by decide)⟩

end Sample

end DataclassSynthesis
