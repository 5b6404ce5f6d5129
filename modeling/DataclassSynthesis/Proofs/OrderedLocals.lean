import DataclassSynthesis.Proofs.BodiesReadAlike
import DataclassSynthesis.Proofs.TableEdits

/-!
# The two orders of a class body

The names of a class body are listed where they are annotated first, or where they are assigned
last. Both views hold each name once, with its last type, its last value and the place where it is
annotated first. In a class that has just been defined the first view is the table of annotated
names, apart from the names of the language, next to the table of members
(`DataclassSynthesis.ClassDefinition.locals_ordered`).
-/

namespace DataclassSynthesis

section

variable {α β : Type}

/-- Without repetitions, the names that are read off the items of a list come in the order in which
they are read first. -/
theorem pairwise_eraseDups_filterMap (read : α → Option String) (items : List α) :
    (items.filterMap read).eraseDups.Pairwise fun earlier later =>
      items.findIdx (read · == some earlier) < items.findIdx (read · == some later) := by
  induction items using List.reverseRecOn with
  | nil => exact .nil
  | append_singleton items item ih =>
    have within : ∀ value, value ∈ items.filterMap read ↔
        items.findIdx (read · == some value) < items.length := fun value => by
      simp only [List.mem_filterMap, List.findIdx_lt_length, beq_iff_eq]
    have before : (items.filterMap read).eraseDups.Pairwise fun earlier later =>
        (items ++ [item]).findIdx (read · == some earlier) <
          (items ++ [item]).findIdx (read · == some later) := by
      refine ih.imp_of_mem fun {earlier later} first second below => ?_
      rw [List.mem_eraseDups, within] at first second
      simpa only [List.findIdx_append, first, second, ↓reduceIte] using below
    cases gives : read item with
    | none => simpa [gives] using before
    | some name =>
      rw [List.filterMap_append, List.filterMap_cons_some gives, List.filterMap_nil,
        eraseDups_concat]
      split
      · exact before
      · next missing =>
        refine List.pairwise_append.mpr ⟨before, List.pairwise_singleton _ _, ?_⟩
        rintro earlier listed later last
        obtain rfl := List.mem_singleton.mp last
        rw [List.mem_eraseDups, within] at listed
        rw [within] at missing
        rw [List.findIdx_append, List.findIdx_append, if_pos listed, if_neg missing]
        exact Nat.lt_of_lt_of_le listed (Nat.le_add_left _ _)

/-- What is read last off the items of a list. -/
theorem getLast?_filterMap_eq_some_iff {read : α → Option β} {items : List α} {value : β} :
    (items.filterMap read).getLast? = some value ↔
      ∃ front item back, items = front ++ item :: back ∧ read item = some value ∧
        ∀ later ∈ back, read later = none := by
  rw [List.getLast?_filterMap, List.findSome?_eq_some_iff]
  constructor
  · rintro ⟨back, item, front, split, gives, silent⟩
    refine ⟨front.reverse, item, back.reverse, ?_, gives, by simpa using silent⟩
    simpa using congrArg List.reverse split
  · rintro ⟨front, item, back, rfl, gives, silent⟩
    exact ⟨back.reverse, item, front.reverse, by simp, gives, by simpa using silent⟩

end

/-- The statement annotates the name. -/
def Statement.annotates (statement : Statement) (name : String) : Bool :=
  statement.name == name && statement.annotated?.isSome

/-- The statement assigns to the name. -/
def Statement.assigns (statement : Statement) (name : String) : Bool :=
  statement.name == name && statement.assigned?.isSome

namespace Body

/-- The position of the first annotation of a name. -/
def firstAnnotatedAt (body : Body) (name : String) : Nat := body.findIdx (·.annotates name)

/-- The number of statements that follow the last assignment to a name. -/
def afterLastAssigned (body : Body) (name : String) : Nat :=
  body.reverse.findIdx (·.assigns name)

/-- The name is never annotated, and the value that it is assigned last starts with a function. -/
def EndsAsMethod (body : Body) (name : String) : Prop :=
  (∀ statement ∈ body, statement.annotates name = false) ∧
    ∃ front value span back function, body = front ++ ⟨name, .assign value, span⟩ :: back ∧
      (∀ later ∈ back, later.assigns name = false) ∧ value.first? = some (.function function)

/-- What a body says about a name: its last type, its last value, and where it is annotated first,
or assigned first if it is never annotated. -/
structure Describes (body : Body) (name : String) (summary : LocalSummary) : Prop where
  type : ∀ type, summary.type = some type ↔
    ∃ front span back, body = front ++ ⟨name, .annotate type, span⟩ :: back ∧
      ∀ later ∈ back, later.annotates name = false
  value : ∀ value, summary.value = some value ↔
    ∃ front span back, body = front ++ ⟨name, .assign value, span⟩ :: back ∧
      ∀ later ∈ back, later.assigns name = false
  span : ∃ front first back, body = front ++ first :: back ∧ summary.span = first.span ∧
    (first.annotates name = true ∧ (∀ earlier ∈ front, earlier.annotates name = false) ∨
      (∀ statement ∈ body, statement.annotates name = false) ∧
        first.assigns name = true ∧ ∀ earlier ∈ front, earlier.assigns name = false)

/-- The two views of a body hold its names in their orders. -/
structure LocalsOrdered (body : Body) (allowMethods : Bool) : Prop where
  /-- Methods are never annotated. -/
  anyway : body.locals allowMethods .firstAnnotated = body.locals true .firstAnnotated
  /-- The names that are annotated, apart from those of the language. -/
  annotated : ∀ name, name ∈ (body.locals allowMethods .firstAnnotated).keys ↔
    isDunder name = false ∧ ∃ statement ∈ body, statement.annotates name = true
  byFirst : (body.locals allowMethods .firstAnnotated).keys.Pairwise fun earlier later =>
    body.firstAnnotatedAt earlier < body.firstAnnotatedAt later
  /-- The names that are assigned, apart from those of the language and from methods. -/
  assigned : ∀ name, name ∈ (body.locals allowMethods .lastAssigned).keys ↔
    isDunder name = false ∧ (∃ statement ∈ body, statement.assigns name = true) ∧
      (allowMethods = false → ¬ body.EndsAsMethod name)
  byLast : (body.locals allowMethods .lastAssigned).keys.Pairwise fun earlier later =>
    body.afterLastAssigned later < body.afterLastAssigned earlier
  described : ∀ order, ∀ entry ∈ (body.locals allowMethods order).entries,
    body.Describes entry.1 entry.2

variable {body : Body} {name : String}

section

variable {γ : Type} {effect? : Statement → Option γ}

/-- The names of the statements with an effect, in source order and with repetitions. -/
def affected (effect? : Statement → Option γ) (body : Body) : List String :=
  body.filterMap fun statement => (effect? statement).map fun _ => statement.name

/-- The statement has an effect on the name. -/
def affects (effect? : Statement → Option γ) (name : String) (statement : Statement) : Bool :=
  statement.name == name && (effect? statement).isSome

/-- A statement affects a name if it has the effect and is about the name. -/
theorem affects_eq (name : String) (statement : Statement) :
    affects effect? name statement =
      ((effect? statement).map (fun _ => statement.name) == some name) := by
  rw [affects]
  cases effect? statement <;> simp

theorem mem_affected :
    name ∈ body.affected effect? ↔ ∃ statement ∈ body, affects effect? name statement = true := by
  simp only [affected, List.mem_filterMap, affects_eq, beq_iff_eq]

theorem exists_named_of_mem_affected (mentioned : name ∈ body.affected effect?) :
    ∃ statement ∈ body, statement.name = name := by
  obtain ⟨statement, among, affects⟩ := mem_affected.mp mentioned
  exact ⟨statement, among, beq_iff_eq.mp (Bool.and_eq_true_iff.mp affects).1⟩

/-- The affected names, without repetitions, come in the order in which they are affected first. -/
theorem pairwise_affected (effect? : Statement → Option γ) (body : Body) :
    (body.affected effect?).eraseDups.Pairwise fun earlier later =>
      body.findIdx (affects effect? earlier) < body.findIdx (affects effect? later) := by
  have inOrder := pairwise_eraseDups_filterMap
    (fun statement => (effect? statement).map fun _ => statement.name) body
  simp only [← affects_eq] at inOrder
  exact inOrder

/-- The last effect that a body has on a name. -/
theorem getLast?_about_eq_some_iff {effect : γ → Effect}
    (reads : ∀ statement value, effect? statement = some value ↔ statement.effect = effect value)
    {value : γ} :
    ((body.about name).filterMap effect?).getLast? = some value ↔
      ∃ front span back, body = front ++ ⟨name, effect value, span⟩ :: back ∧
        ∀ later ∈ back, affects effect? name later = false := by
  have silent : ∀ statement : Statement,
      (if (statement.name == name) = true then effect? statement else none) = none ↔
        affects effect? name statement = false := fun statement => by
    rw [affects]
    cases statement.name == name <;> simp
  rw [about, List.filterMap_filter, getLast?_filterMap_eq_some_iff]
  simp only [silent]
  constructor
  · rintro ⟨front, ⟨named, done, span⟩, back, split, gives, silent⟩
    obtain ⟨same, given⟩ := Option.ite_none_right_eq_some.mp gives
    obtain rfl : named = name := beq_iff_eq.mp same
    obtain rfl : done = effect value := (reads _ _).mp given
    exact ⟨front, span, back, split, silent⟩
  · rintro ⟨front, span, back, split, silent⟩
    refine ⟨front, _, back, split, ?_, silent⟩
    rw [if_pos (beq_self_eq_true name), (reads _ _).mpr rfl]

end

/-- In the order of first annotations the names are those that are annotated. -/
theorem namesIn_firstAnnotated (body : Body) :
    body.namesIn .firstAnnotated = body.affected Statement.annotated? := by
  simp only [namesIn, annotations, affected, List.map_filterMap, Option.map_map,
    Function.comp_def]

/-- In the order of last assignments the names are those that are assigned. -/
theorem namesIn_lastAssigned (body : Body) :
    body.namesIn .lastAssigned = body.affected Statement.assigned? := by
  simp only [namesIn, assignments, affected, List.map_filterMap, Option.map_map,
    Function.comp_def]

/-- The type in a summary is the last one that the name is annotated with. -/
theorem summary_type_iff {type : TypeId} : (body.summary name).type = some type ↔
    ∃ front span back, body = front ++ ⟨name, .annotate type, span⟩ :: back ∧
      ∀ later ∈ back, later.annotates name = false := by
  refine getLast?_about_eq_some_iff fun ⟨_, effect, _⟩ type => ?_
  cases effect <;> simp [Statement.annotated?]

/-- The value in a summary is the last one that is assigned to the name. -/
theorem summary_value_iff {value : Variable} : (body.summary name).value = some value ↔
    ∃ front span back, body = front ++ ⟨name, .assign value, span⟩ :: back ∧
      ∀ later ∈ back, later.assigns name = false := by
  refine getLast?_about_eq_some_iff fun ⟨_, effect, _⟩ value => ?_
  cases effect <;> simp [Statement.assigned?]

/-- A summary has no type if the name is never annotated. -/
theorem summary_type_eq_none_iff : (body.summary name).type = none ↔
    ∀ statement ∈ body, statement.annotates name = false := by
  simp only [summary, about, List.getLast?_eq_none_iff, List.filterMap_eq_nil_iff, List.mem_filter,
    and_imp]
  refine forall₂_congr fun statement _ => ?_
  rw [Statement.annotates]
  cases statement.name == name <;> simp

/-- An annotated name is no method. -/
theorem isMethod_summary_of_annotated (annotated : name ∈ body.namesIn .firstAnnotated) :
    (body.summary name).isMethod = false := by
  rw [namesIn_firstAnnotated, mem_affected] at annotated
  obtain ⟨statement, among, annotates⟩ := annotated
  have typed : (body.summary name).type ≠ none := fun untyped =>
    Bool.false_ne_true ((summary_type_eq_none_iff.mp untyped statement among).symm.trans annotates)
  rw [LocalSummary.isMethod, Option.isNone_eq_false_iff.mpr (Option.isSome_iff_ne_none.mpr typed),
    Bool.false_and]

/-- A summary is of a method if the body ends with the name as a method. -/
theorem isMethod_summary_iff : (body.summary name).isMethod = true ↔ body.EndsAsMethod name := by
  have isFunction : ∀ value : Variable,
      value.isFunction = true ↔ ∃ function, value.first? = some (.function function) := by
    intro value
    rw [Variable.isFunction]
    split <;> simp_all
  rw [LocalSummary.isMethod, Bool.and_eq_true, Option.isNone_iff_eq_none, summary_type_eq_none_iff,
    Option.any_eq_true]
  refine and_congr_right fun _ => ?_
  constructor
  · rintro ⟨value, last, starts⟩
    obtain ⟨front, span, back, split, silent⟩ := summary_value_iff.mp last
    obtain ⟨function, first⟩ := (isFunction value).mp starts
    exact ⟨front, value, span, back, function, split, silent, first⟩
  · rintro ⟨front, value, span, back, function, split, silent, first⟩
    exact ⟨value, summary_value_iff.mpr ⟨front, span, back, split, silent⟩,
      (isFunction value).mpr ⟨function, first⟩⟩

/-- What a body does not annotate, it assigns. -/
theorem assigns_of_not_annotates {statement : Statement} (named : statement.name = name)
    (unannotated : statement.annotates name = false) : statement.assigns name = true := by
  subst named
  cases effect : statement.effect <;>
    simp_all [Statement.annotates, Statement.assigns, Statement.annotated?, Statement.assigned?]

/-- The summary of a name in a body describes what the body says about it. -/
theorem describes_summary (mentioned : ∃ statement ∈ body, statement.name = name) :
    body.Describes name (body.summary name) where
  type type := summary_type_iff
  value value := summary_value_iff
  span := by
    have first : body.firstAnnotation? name = body.find? (·.annotates name) := rfl
    simp only [summary, find?_about, first]
    cases annotated : body.find? (·.annotates name) with
    | some statement =>
      obtain ⟨annotates, front, back, split, silent⟩ :=
        List.find?_eq_some_iff_append.mp annotated
      exact ⟨front, statement, back, split, rfl, .inl ⟨annotates, by simpa using silent⟩⟩
    | none =>
      -- The first statement about the name assigns to it, and what comes before is about others.
      have unannotated : ∀ statement ∈ body, statement.annotates name = false := by
        simpa using annotated
      have found : (body.find? fun statement => statement.name == name).isSome := by
        rw [List.find?_isSome]
        exact mentioned.imp fun statement => And.imp_right beq_iff_eq.mpr
      obtain ⟨statement, found⟩ := Option.isSome_iff_exists.mp found
      obtain ⟨same, front, back, split, silent⟩ := List.find?_eq_some_iff_append.mp found
      have assigns := assigns_of_not_annotates (beq_iff_eq.mp same)
        (unannotated statement (List.mem_of_find?_eq_some found))
      have silent : ∀ earlier ∈ front, earlier.assigns name = false := fun earlier among => by
        have differ : (earlier.name == name) = false := by simpa using silent earlier among
        rw [Statement.assigns, differ, Bool.false_and]
      rw [about, List.head?_filter, found]
      exact ⟨front, statement, back, split, rfl, .inr ⟨unannotated, assigns, silent⟩⟩

/-- The annotated names in the order of their first annotations, each with its summary. -/
theorem locals_firstAnnotated (body : Body) (allowMethods : Bool) :
    (body.locals allowMethods .firstAnnotated).entries =
      ((body.namesIn .firstAnnotated).eraseDups.filter fun name => !isDunder name).map
        fun name => (name, body.summary name) := by
  have listed : ((body.namesIn .firstAnnotated).filter fun name =>
      !isDunder name && (allowMethods || !(body.summary name).isMethod)) =
        (body.namesIn .firstAnnotated).filter fun name => !isDunder name :=
    List.filter_congr fun name annotated => by
      rw [isMethod_summary_of_annotated annotated, Bool.not_false, Bool.or_true, Bool.and_true]
  rw [locals, listed, NameTable.entries_foldl_insert_described, eraseDups_filter]

/-- The assigned names in the order of their last assignments, each with its summary, and without
methods unless they are allowed. -/
theorem locals_lastAssigned (body : Body) (allowMethods : Bool) :
    (body.locals allowMethods .lastAssigned).entries =
      ((body.namesIn .lastAssigned).reverse.eraseDups.reverse.filter fun name =>
        !isDunder name && (allowMethods || !(body.summary name).isMethod)).map
          fun name => (name, body.summary name) := by
  rw [locals, NameTable.entries_foldl_relocate_described, ← List.filter_reverse, eraseDups_filter,
    List.filter_reverse]

theorem keys_of_described {table : NameTable LocalSummary} {names : List String}
    (listed : table.entries = names.map fun name => (name, body.summary name)) :
    table.keys = names := by
  rw [NameTable.keys, listed, List.map_map]
  exact List.map_id names

/-- Both views of every body are in order. -/
theorem localsOrdered (body : Body) (allowMethods : Bool) : body.LocalsOrdered allowMethods where
  anyway := NameTable.ext ((body.locals_firstAnnotated allowMethods).trans
    (body.locals_firstAnnotated true).symm)
  annotated name := by
    rw [keys_of_described (body.locals_firstAnnotated allowMethods), List.mem_filter,
      List.mem_eraseDups, namesIn_firstAnnotated, mem_affected, Bool.not_eq_true', and_comm]
    rfl
  byFirst := by
    rw [keys_of_described (body.locals_firstAnnotated allowMethods), namesIn_firstAnnotated]
    exact (body.pairwise_affected Statement.annotated?).filter _
  assigned name := by
    rw [keys_of_described (body.locals_lastAssigned allowMethods), List.mem_filter,
      List.mem_reverse, List.mem_eraseDups, List.mem_reverse, namesIn_lastAssigned, mem_affected,
      ← isMethod_summary_iff]
    change (∃ statement ∈ body, statement.assigns name = true) ∧ _ ↔ _
    cases isDunder name <;> cases allowMethods <;> simp
  byLast := by
    rw [keys_of_described (body.locals_lastAssigned allowMethods), namesIn_lastAssigned, affected,
      ← List.filterMap_reverse]
    exact (List.pairwise_reverse.mpr (pairwise_affected Statement.assigned? body.reverse)).filter _
  described order entry listed := by
    cases order with
    | firstAnnotated =>
      rw [locals_firstAnnotated, namesIn_firstAnnotated, List.mem_map] at listed
      obtain ⟨name, kept, rfl⟩ := listed
      have annotated := List.mem_eraseDups.mp (List.mem_filter.mp kept).1
      exact describes_summary (exists_named_of_mem_affected annotated)
    | lastAssigned =>
      rw [locals_lastAssigned, namesIn_lastAssigned, List.mem_map] at listed
      obtain ⟨name, kept, rfl⟩ := listed
      have assigned := List.mem_eraseDups.mp (List.mem_reverse.mp (List.mem_filter.mp kept).1)
      exact describes_summary (exists_named_of_mem_affected (List.mem_reverse.mp assigned))

/-- The view by first annotations is read off the tables of a class that the body defines. -/
theorem locals_ofBody (body : Body) (allowMethods : Bool) (id : ClassId) (name : String)
    (type : TypeId) (bases : List ClassId) (span : Span) :
    ((body.locals allowMethods .firstAnnotated).entries.map fun entry =>
        (entry.1, entry.2.type, entry.2.value)) =
      ((ClassObject.ofBody id name type bases body span).annotations.restrict
          fun name => !isDunder name).entries.map fun entry =>
        (entry.1, some entry.2,
          (ClassObject.ofBody id name type bases body span).members.find? entry.1) := by
  have typed : ((NameTable.ofList body.annotations).entries.map fun entry =>
      (entry.1, some entry.2)) =
        (body.namesIn .firstAnnotated).eraseDups.map fun name => (name, body.lastType? name) := by
    rw [← NameTable.map_find?_keys, NameTable.keys_ofList]
    exact List.map_congr_left fun name _ => by rw [NameTable.find?_ofList, lastType?]
  calc ((body.locals allowMethods .firstAnnotated).entries.map fun entry =>
        (entry.1, entry.2.type, entry.2.value))
      = (((body.namesIn .firstAnnotated).eraseDups.map fun name =>
            (name, body.lastType? name)).filter fun entry => !isDunder entry.1).map fun entry =>
          (entry.1, entry.2, body.lastValue? entry.1) := by
        simp only [locals_firstAnnotated, List.filter_map, List.map_map, Function.comp_def,
          summary_type, summary_value]
    _ = (((NameTable.ofList body.annotations).restrict fun name => !isDunder name).entries.map
          fun entry => (entry.1, some entry.2, body.lastValue? entry.1)) := by
        rw [← typed]
        simp only [NameTable.restrict, List.filter_map, List.map_map, Function.comp_def]
    _ = _ := by simp only [ClassObject.ofBody, NameTable.find?_ofList, lastValue?]

end Body

/-- Every body lists the names that it annotates by their first annotations, and the names that it
assigns by their last assignments. In a class that has just been defined, the first view is the
table of annotated names without those of the language, next to the table of members. -/
theorem ClassDefinition.locals_ordered :
    (∀ (body : Body) (allowMethods : Bool), body.LocalsOrdered allowMethods) ∧
      ∀ (definition : ClassDefinition) (state after : Analysis) (id : ClassId),
        AnalysisM.define definition state = .ok id after →
        ∃ object, after.classes.get? id = some object ∧ object.body = definition.body ∧
          ∀ allowMethods,
            ((object.body.locals allowMethods .firstAnnotated).entries.map fun entry =>
                (entry.1, entry.2.type, entry.2.value)) =
              (object.annotations.restrict fun name => !isDunder name).entries.map fun entry =>
                (entry.1, some entry.2, object.members.find? entry.1) := by
  refine ⟨Body.localsOrdered, fun definition state after id ran => ?_⟩
  cases based : state.baseTypes definition.bases with
  | error error =>
    rw [AnalysisM.define_of_error based] at ran
    cases ran
  | ok types =>
    rw [AnalysisM.define_of_ok based] at ran
    cases ran
    exact ⟨state.definedObject definition types, Analysis.get?_defined, rfl,
      fun allowMethods => definition.body.locals_ofBody allowMethods ..⟩

namespace Sample

/-- The statement `class Job: limit = 1; name: str; def run() -> None; retries: int = 2; limit = 3;
name: int`. -/
def job : ClassDefinition :=
  (((((ClassDefinition.start "Job" [] none).assign "limit"
    (.single (.constant (.int 1)) Program.entry)).annotate "name" .str none).method
      (.declare "run" [] .none)).declare "retries" .int
        (.single (.constant (.int 2)) Program.entry)).assign "limit"
          (.single (.constant (.int 3)) Program.entry) |>.annotate "name" .int none

/-- The number of retries is annotated after the name and assigned before the limit. The class keeps
the last type of the name, and no value for it. -/
theorem job_locals_ordered :
    (job.body.firstAnnotatedAt "name" < job.body.firstAnnotatedAt "retries" ∧
      job.body.afterLastAssigned "limit" < job.body.afterLastAssigned "retries") ∧
      ∃ object, (stateAfter (AnalysisM.define job) (.initial .standard)).classes.get? ⟨0⟩ =
          some object ∧ object.body = job.body ∧
        ((object.body.locals false .firstAnnotated).entries.map fun entry =>
            (entry.1, entry.2.type, entry.2.value)) =
          [("name", some .int, none),
            ("retries", some .int, some (.single (.constant (.int 2)) Program.entry))] := by
  have listed : (job.body.locals false .firstAnnotated).keys = ["name", "retries"] := by decide
  have alsoListed : (job.body.locals false .lastAssigned).keys = ["retries", "limit"] := by decide
  obtain ⟨views, fresh⟩ := ClassDefinition.locals_ordered
  refine ⟨⟨?_, ?_⟩, ?_⟩
  · have ordered := (views job.body false).byFirst
    rw [listed] at ordered
    exact List.rel_of_pairwise_cons ordered (List.mem_singleton_self _)
  · have ordered := (views job.body false).byLast
    rw [alsoListed] at ordered
    exact List.rel_of_pairwise_cons ordered (List.mem_singleton_self _)
  · obtain ⟨object, found, sameBody, view⟩ := fresh job (.initial .standard) _ ⟨0⟩ rfl
    refine ⟨object, found, sameBody, (view false).trans ?_⟩
    cases found
    rfl

end Sample

end DataclassSynthesis
