import DataclassSynthesis.Proofs.DecorationSteps

/-!
# What collecting does to the tables of a class

Collecting rewrites the type of a constructor variable with a default where it stands, drops a
constructor variable without one, and replaces the members of the other attributes. Each name is
edited once, so the annotated names after collecting are those before it, each rewritten or dropped
by its own summary (`DataclassSynthesis.Decoration.annotations_collectedBy`), and the members of all
names that are not replaced stay as they are (`DataclassSynthesis.Decoration.restrict_collectedBy`).
-/

namespace DataclassSynthesis

namespace NameTable

variable {α : Type}

/-- The entries under some of the names. -/
def restrict (keep : String → Bool) (table : NameTable α) : NameTable α where
  entries := table.entries.filter fun entry => keep entry.1
  distinct := List.Nodup.sublist (List.filter_sublist.map _) table.distinct

/-- Rewriting and dropping entries keeps the order of the names that are left. -/
theorem map_fst_filterMap_sublist (change : String → α → Option α) (entries : List (String × α)) :
    ((entries.filterMap fun entry =>
      (change entry.1 entry.2).map fun value => (entry.1, value)).map Prod.fst).Sublist
        (entries.map Prod.fst) := by
  induction entries with
  | nil => exact .slnil
  | cons entry rest ih =>
    rw [List.filterMap_cons]
    cases change entry.1 entry.2 with
    | none => exact ih.cons _
    | some value => exact ih.cons_cons _

/-- Rewrite each entry where it stands, or drop it. -/
def revise (change : String → α → Option α) (table : NameTable α) : NameTable α where
  entries := table.entries.filterMap fun entry =>
    (change entry.1 entry.2).map fun value => (entry.1, value)
  distinct := List.Nodup.sublist (map_fst_filterMap_sublist change table.entries) table.distinct

/-- A restricted table finds the names that are kept. -/
theorem find?_restrict {keep : String → Bool} {name : String} (kept : keep name = true)
    (table : NameTable α) : (table.restrict keep).find? name = table.find? name := by
  simp only [find?, restrict, List.find?_filter]
  refine congrArg (fun sought => (table.entries.find? sought).map Prod.snd) (funext fun entry => ?_)
  by_cases same : entry.1 = name
  · simp [same, kept]
  · simp [same]

/-- Inserting a dropped name does not show in the restricted table. -/
theorem restrict_insert {keep : String → Bool} {name : String} (dropped : keep name = false)
    (table : NameTable α) (value : α) :
    (table.insert name value).restrict keep = table.restrict keep := by
  apply NameTable.ext
  simp only [restrict, insert]
  generalize table.entries = entries
  induction entries with
  | nil => simp [replaceOrAppend, dropped]
  | cons head tail ih =>
    by_cases same : head.1 = name
    · simp [replaceOrAppend, same, dropped]
    · simp [replaceOrAppend, same, List.filter_cons, ih]

theorem restrict_erase {keep : String → Bool} {name : String} (dropped : keep name = false)
    (table : NameTable α) : (table.erase name).restrict keep = table.restrict keep := by
  apply NameTable.ext
  simp only [restrict, erase, List.filter_filter]
  refine List.filter_congr fun entry _ => ?_
  by_cases same : entry.1 = name
  · simp [same, dropped]
  · simp [same]

theorem revise_some (table : NameTable α) : (table.revise fun _ value => some value) = table := by
  apply NameTable.ext
  simp only [revise, Option.map_some]
  exact List.filterMap_some

/-- Two revisions are one. -/
theorem revise_revise (first second : String → α → Option α) (table : NameTable α) :
    (table.revise first).revise second =
      table.revise fun name value => (first name value).bind (second name) := by
  apply NameTable.ext
  simp only [revise, List.filterMap_filterMap]
  refine List.filterMap_congr fun entry _ => ?_
  cases first entry.1 entry.2 <;> rfl

/-- Inserting a name that is there already rewrites its entry where it stands. -/
theorem insert_eq_revise {table : NameTable α} {name : String} (present : name ∈ table.keys)
    (value : α) : table.insert name value =
      table.revise fun other current => some (if other = name then value else current) := by
  apply NameTable.ext
  obtain ⟨entries, distinct⟩ := table
  simp only [insert, revise, keys] at present ⊢
  induction entries with
  | nil => cases present
  | cons head tail ih =>
    obtain ⟨fresh, others⟩ := List.nodup_cons.mp distinct
    by_cases same : head.1 = name
    · have unchanged : tail.filterMap (fun entry =>
          (some (if entry.1 = name then value else entry.2)).map fun value => (entry.1, value)) =
            tail := by
        conv_rhs => rw [← List.filterMap_some (l := tail)]
        refine List.filterMap_congr fun entry listed => ?_
        have differ : ¬ entry.1 = name := fun equal =>
          fresh (same ▸ equal ▸ List.mem_map_of_mem listed)
        rw [if_neg differ]
        rfl
      rw [replaceOrAppend, if_pos (beq_iff_eq.mpr same), List.filterMap_cons, unchanged]
      simp [same]
    · have later := ih others ((List.mem_cons.mp present).resolve_left fun equal => same equal.symm)
      rw [replaceOrAppend, if_neg (by simpa using same), List.filterMap_cons, later]
      simp [same]

theorem erase_eq_revise (table : NameTable α) (name : String) :
    table.erase name =
      table.revise fun other current => if other = name then none else some current := by
  apply NameTable.ext
  simp only [erase, revise]
  rw [← List.filterMap_eq_filter]
  refine List.filterMap_congr fun entry _ => ?_
  by_cases same : entry.1 = name <;> simp [Option.guard, same]

theorem mem_keys_insert {table : NameTable α} {name other : String} (value : α)
    (present : other ∈ table.keys) : other ∈ (table.insert name value).keys := by
  rw [keys_insert]
  split
  · exact present
  · exact List.mem_append_left _ present

theorem mem_keys_erase {table : NameTable α} {name other : String} (differ : other ≠ name)
    (present : other ∈ table.keys) : other ∈ (table.erase name).keys := by
  rw [keys_erase]
  exact List.mem_filter.mpr ⟨present, bne_iff_ne.mpr differ⟩

end NameTable

namespace LocalSummary

variable {types : TypeContext} {point : PointId} {name : String} {summary : LocalSummary}

/-- The type of an annotated name after it is collected: a constructor variable with a default has
the type that its marker is applied to, and one without a default has none. -/
def retyped? (types : TypeContext) (summary : LocalSummary) (type : TypeId) : Option TypeId :=
  match summary.marked? types .initVariable with
  | none => some type
  | some inner => if summary.value.isSome then some inner else none

/-- Whether the member of a name is replaced or dropped when the name is collected. -/
def replacesMember (types : TypeContext) (summary : LocalSummary) : Bool :=
  summary.type.isSome && (summary.marked? types .classVariable).isNone &&
    !((summary.marked? types .initVariable).isSome && summary.value.isSome)

/-- Collecting a name does nothing to the tables, adjusts them for a constructor variable, or stores
a member. -/
theorem edit_cases (types : TypeContext) (point : PointId) (name : String)
    (summary : LocalSummary) :
    (summary.marked? types .initVariable = none ∧ summary.replacesMember types = false ∧
        ∀ object, summary.edit types point name object = object) ∨
      (∃ inner, summary.marked? types .initVariable = some inner ∧
        summary.replacesMember types = !summary.value.isSome ∧
        ∀ object, summary.edit types point name object =
          if summary.value.isSome then object.setAnnotated name inner else object.forget name) ∨
      (summary.marked? types .initVariable = none ∧ summary.replacesMember types = true ∧
        ∃ value, ∀ object, summary.edit types point name object = object.setMember name value) := by
  obtain ⟨type, value, span⟩ := summary
  cases type with
  | none => exact .inl ⟨rfl, rfl, fun _ => rfl⟩
  | some type =>
    simp only [replacesMember, marked?, edit, Option.bind_some]
    cases init : types.argumentOf? type Container.initVariable.qualified with
    | some inner =>
      rw [MemberKind.of_of_initVariable init, TypeContext.argumentOf?_classVariable init]
      exact .inr (.inl ⟨inner, rfl, rfl, fun _ => rfl⟩)
    | none =>
      unfold MemberKind.of
      rw [init]
      cases types.argumentOf? type Container.classVariable.qualified with
      | some _ => exact .inl ⟨rfl, rfl, fun _ => rfl⟩
      | none => cases value.bind Variable.field? <;> exact .inr (.inr ⟨rfl, rfl, _, fun _ => rfl⟩)

/-- Collecting a name rewrites or drops its own annotation, if it is there when it has to be. -/
theorem annotations_edit {object : ClassObject}
    (present : summary.value.isSome = true → name ∈ object.annotations.keys) :
    (summary.edit types point name object).annotations =
      object.annotations.revise fun other type =>
        if other = name then summary.retyped? types type else some type := by
  have unchanged : summary.marked? types .initVariable = none →
      object.annotations.revise (fun other type =>
        if other = name then summary.retyped? types type else some type) = object.annotations := by
    intro unmarked
    simp only [retyped?, unmarked, ite_self]
    exact object.annotations.revise_some
  rcases edit_cases types point name summary with
    ⟨unmarked, -, same⟩ | ⟨inner, marked, -, adjusted⟩ | ⟨unmarked, -, value, stored⟩
  · rw [same, unchanged unmarked]
  · rw [adjusted]
    simp only [retyped?, marked]
    cases assigned : summary.value.isSome with
    | true =>
      refine (NameTable.insert_eq_revise (present assigned) inner).trans ?_
      simp only [↓reduceIte, apply_ite some]
    | false => exact object.annotations.erase_eq_revise name
  · rw [stored, unchanged unmarked]
    rfl

/-- Collecting a name leaves the members of other names alone, and its own unless it replaces it. -/
theorem restrict_members_edit {keep : String → Bool}
    (kept : keep name = true → summary.replacesMember types = false) (object : ClassObject) :
    (summary.edit types point name object).members.restrict keep =
      object.members.restrict keep := by
  rcases edit_cases types point name summary with
    ⟨-, -, same⟩ | ⟨inner, -, replaces, adjusted⟩ | ⟨-, replaces, value, stored⟩
  · rw [same]
  · rw [adjusted]
    cases assigned : summary.value.isSome with
    | true => rfl
    | false =>
      have dropped : keep name = false := by
        by_contra wanted
        rw [kept (Bool.not_eq_false _ ▸ wanted), assigned] at replaces
        cases replaces
      exact NameTable.restrict_erase dropped object.members
  · have dropped : keep name = false := by
      by_contra wanted
      rw [kept (Bool.not_eq_false _ ▸ wanted)] at replaces
      cases replaces
    rw [stored]
    exact NameTable.restrict_insert dropped object.members value

/-- Collecting a name keeps annotated names, except its own if it is never assigned. -/
theorem mem_keys_edit (types : TypeContext) (point : PointId) (summary : LocalSummary)
    {other : String} (assigned : other = name → summary.value.isSome = true) {object : ClassObject}
    (present : other ∈ object.annotations.keys) :
    other ∈ (summary.edit types point name object).annotations.keys := by
  rcases edit_cases types point name summary with
    ⟨-, -, same⟩ | ⟨inner, -, -, adjusted⟩ | ⟨-, -, value, stored⟩
  · rw [same]
    exact present
  · rw [adjusted]
    split
    · exact NameTable.mem_keys_insert inner present
    · next missing => exact NameTable.mem_keys_erase (fun same => missing (assigned same)) present
  · rw [stored]
    exact present

end LocalSummary

namespace Decoration

variable {start : Analysis}

/-- Collecting distinct names rewrites or drops the annotation of each of them. -/
theorem annotations_collectedBy {steps : List (Nat × String × LocalSummary)}
    (distinct : (steps.map fun step => step.2.1).Nodup) {object : ClassObject}
    (present : ∀ step ∈ steps, step.2.2.value.isSome = true → step.2.1 ∈ object.annotations.keys) :
    (collectedBy start steps object).annotations = object.annotations.revise fun name type =>
      match steps.find? fun step => step.2.1 == name with
      | some step => step.2.2.retyped? start.types type
      | none => some type := by
  induction steps generalizing object with
  | nil => exact object.annotations.revise_some.symm
  | cons step rest ih =>
    obtain ⟨fresh, others⟩ := List.nodup_cons.mp distinct
    obtain ⟨isPresent, othersPresent⟩ := List.forall_mem_cons.mp present
    have absent : ∀ later ∈ rest, later.2.1 ≠ step.2.1 := fun later listed same =>
      fresh (List.mem_map.mpr ⟨later, listed, same⟩)
    -- The first edit takes away no name but its own, so the rest finds its names annotated.
    have later := ih others fun later listed assigned =>
      LocalSummary.mem_keys_edit start.types (start.pointAfter step.1) step.2.2
        (fun same => (absent later listed same).elim) (othersPresent later listed assigned)
    refine later.trans ?_
    rw [LocalSummary.annotations_edit isPresent, NameTable.revise_revise]
    refine congrArg (NameTable.revise · object.annotations) (funext₂ fun name type => ?_)
    by_cases same : step.2.1 = name
    · subst same
      have missing : rest.find? (fun later => later.2.1 == step.2.1) = none :=
        List.find?_eq_none.mpr fun later listed => by simpa using absent later listed
      simp only [↓reduceIte, missing, List.find?_cons, beq_self_eq_true, Option.bind_fun_some]
    · rw [if_neg fun equal => same equal.symm, List.find?_cons_of_neg (by simpa using same)]
      rfl

/-- Collecting leaves the members alone of all names but those whose member it replaces. -/
theorem restrict_collectedBy {keep : String → Bool} {steps : List (Nat × String × LocalSummary)}
    (kept : ∀ step ∈ steps, keep step.2.1 = true → step.2.2.replacesMember start.types = false)
    (object : ClassObject) :
    (collectedBy start steps object).members.restrict keep = object.members.restrict keep := by
  induction steps generalizing object with
  | nil => rfl
  | cons step rest ih =>
    obtain ⟨isKept, othersKept⟩ := List.forall_mem_cons.mp kept
    exact (ih othersKept _).trans (LocalSummary.restrict_members_edit isKept object)

end Decoration

end DataclassSynthesis
