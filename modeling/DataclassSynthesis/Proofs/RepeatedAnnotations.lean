import DataclassSynthesis.Proofs.OrderedLocals

/-!
# Repeated annotations

A body repeats the names that it annotates at least twice. Each of them is listed once, where it is
annotated for the second time, with the places of its first and of its second annotation
(`DataclassSynthesis.Body.repetitions_listed`). Assignments do not count, later annotations change
nothing, and the names of the language are no exception. One scan of the body finds them, which
remembers where each name is annotated first (`DataclassSynthesis.RepetitionScan.spec`).
-/

namespace DataclassSynthesis

section

variable {α : Type} {test : α → Bool}

/-- The positions of the items that pass a test hold those items. -/
theorem getElem?_findIdxNth (items : List α) (count : Nat) :
    items[items.findIdxNth test count]? = (items.filter test)[count]? := by
  induction items generalizing count with
  | nil => simp
  | cons item rest ih =>
    cases passes : test item with
    | false => simp [List.findIdxNth_cons_of_neg passes, passes, ih]
    | true => cases count <;> simp [passes, ih]

/-- Items at the end do not move the ones that pass a test before them. -/
theorem findIdxNth_append_of_lt {items : List α} {count : Nat} (further : List α)
    (enough : count < items.countP test) :
    (items ++ further).findIdxNth test count = items.findIdxNth test count := by
  induction items generalizing count with
  | nil => simp at enough
  | cons item rest ih =>
    cases passes : test item with
    | false =>
      rw [List.countP_cons_of_neg (Bool.eq_false_iff.mp passes)] at enough
      rw [List.cons_append, List.findIdxNth_cons_of_neg passes,
        List.findIdxNth_cons_of_neg passes, ih enough]
    | true =>
      cases count with
      | zero => simp [passes]
      | succ count =>
        rw [List.countP_cons_of_pos passes, Nat.add_lt_add_iff_right] at enough
        rw [List.cons_append, List.findIdxNth_cons_succ_of_pos passes,
          List.findIdxNth_cons_succ_of_pos passes, ih enough]

/-- The next item that passes a test, if it comes at the end, is the last one. -/
theorem findIdxNth_concat {items : List α} {item : α} (passes : test item = true) :
    (items ++ [item]).findIdxNth test (items.countP test) = items.length := by
  induction items with
  | nil => simp [passes]
  | cons head rest ih =>
    cases first : test head with
    | false =>
      rw [List.countP_cons_of_neg (Bool.eq_false_iff.mp first), List.cons_append,
        List.findIdxNth_cons_of_neg first, ih, List.length_cons]
    | true =>
      rw [List.countP_cons_of_pos first, List.cons_append,
        List.findIdxNth_cons_succ_of_pos first, ih, List.length_cons]

end

/-- A statement annotates a name if it is about the name and an annotation. -/
theorem Statement.annotates_iff {statement : Statement} {name : String} :
    statement.annotates name = true ↔
      statement.name = name ∧ statement.annotated?.isSome = true := by
  rw [annotates, Bool.and_eq_true, beq_iff_eq]

/-- Where a scan of a body stands: the places where names are annotated first, and the repetitions
that are found. -/
structure RepetitionScan where
  first : NameTable Span
  found : List Body.Repetition

namespace RepetitionScan

/-- Scan a statement: a name that is annotated for the first time is remembered, and one that is
remembered is a repetition, unless it is found already. -/
def step (scan : RepetitionScan) (statement : Statement) : RepetitionScan :=
  if statement.annotated?.isNone then scan
  else
    match scan.first.find? statement.name with
    | some original =>
      if scan.found.any (·.name == statement.name) then scan
      else { scan with found := scan.found ++ [⟨statement.name, original, statement.span⟩] }
    | none => { scan with first := scan.first.insert statement.name statement.span }

/-- The scan of a body. -/
def ofBody (body : Body) : RepetitionScan := body.foldl step ⟨.empty, []⟩

theorem ofBody_concat (body : Body) (statement : Statement) :
    ofBody (body ++ [statement]) = (ofBody body).step statement := List.foldl_concat ..

section

variable {scan : RepetitionScan} {statement : Statement} {type : TypeId} {original : Span}
  (annotated : statement.annotated? = some type)

include annotated

/-- The first annotation of a name is remembered. -/
theorem step_of_new (new : scan.first.find? statement.name = none) :
    scan.step statement =
      { scan with first := scan.first.insert statement.name statement.span } := by
  simp [step, annotated, new]

/-- The second annotation of a name is a repetition. -/
theorem step_of_second (remembered : scan.first.find? statement.name = some original)
    (fresh : scan.found.any (·.name == statement.name) = false) :
    scan.step statement =
      { scan with found := scan.found ++ [⟨statement.name, original, statement.span⟩] } := by
  simp [step, annotated, remembered, fresh]

/-- Further annotations of a name change nothing. -/
theorem step_of_again (remembered : scan.first.find? statement.name = some original)
    (known : scan.found.any (·.name == statement.name) = true) :
    scan.step statement = scan := by
  simp [step, annotated, remembered, known]

end

end RepetitionScan

namespace Body

/-- The position of the second annotation of a name. -/
def secondAnnotatedAt (body : Body) (name : String) : Nat :=
  body.findIdxNth (·.annotates name) 1

/-- The repetitions of a body are its names that are annotated at least twice, each once, in the
order of the second annotations, with the spans of the first two annotations. -/
structure RepetitionsListed (body : Body) : Prop where
  scanned : (RepetitionScan.ofBody body).found = body.repetitions
  repeated : ∀ name, name ∈ body.repetitions.map Repetition.name ↔
    2 ≤ body.countP (·.annotates name)
  once : (body.repetitions.map Repetition.name).Nodup
  bySecond : body.repetitions.Pairwise fun earlier later =>
    body.secondAnnotatedAt earlier.name < body.secondAnnotatedAt later.name
  spans : ∀ repetition ∈ body.repetitions,
    body[body.firstAnnotatedAt repetition.name]?.map Statement.span = some repetition.first ∧
      body[body.secondAnnotatedAt repetition.name]?.map Statement.span = some repetition.second

/-- The names of the annotating statements of a body, with their places. -/
def annotatedPlaces (body : Body) : List (String × Span) :=
  (body.filter (·.annotated?.isSome)).map fun statement => (statement.name, statement.span)

/-- The repetition that a statement completes: its name has been annotated exactly once before. -/
def completed? (before : Body) (statement : Statement) : Option Repetition :=
  if statement.annotated?.isSome then
    match before.filter (·.annotates statement.name) with
    | [first] => some ⟨statement.name, first.span, statement.span⟩
    | _ => none
  else none

theorem filter_annotatedPlaces (body : Body) (name : String) :
    body.annotatedPlaces.filter (fun entry => entry.1 == name) =
      (body.filter (·.annotates name)).map fun statement => (statement.name, statement.span) := by
  rw [annotatedPlaces, List.filter_map, List.filter_filter]
  rfl

/-- A statement completes a repetition if it annotates the name for the second time. -/
theorem completed?_eq_some_iff {before : Body} {statement : Statement} {repetition : Repetition} :
    completed? before statement = some repetition ↔
      statement.annotates repetition.name = true ∧ statement.span = repetition.second ∧
        ∃ first, before.filter (·.annotates repetition.name) = [first] ∧
          first.span = repetition.first := by
  constructor
  · intro completes
    rw [completed?] at completes
    split at completes
    · next annotated =>
      split at completes
      · next first alone =>
        cases completes
        exact ⟨Statement.annotates_iff.mpr ⟨rfl, annotated⟩, rfl, first, alone, rfl⟩
      · cases completes
    · cases completes
  · intro ⟨annotates, second, first, alone, same⟩
    obtain ⟨named, annotated⟩ := Statement.annotates_iff.mp annotates
    simp only [completed?, if_pos annotated, named, alone, second, same]

/-- One statement adds the repetition that it completes. -/
theorem repetitionsAfter_cons (before : Body) (statement : Statement) (rest : Body) :
    repetitionsAfter before.annotatedPlaces (statement :: rest) =
      (completed? before statement).toList ++
        repetitionsAfter (before ++ [statement]).annotatedPlaces rest := by
  have grown : (before ++ [statement]).annotatedPlaces =
      before.annotatedPlaces ++ annotatedPlaces [statement] := by
    rw [annotatedPlaces, List.filter_append, List.map_append]
    rfl
  cases annotated : statement.annotated? with
  | none =>
    have place : annotatedPlaces [statement] = [] := by simp [annotatedPlaces, annotated]
    rw [repetitionsAfter, completed?, annotated, grown, place, List.append_nil]
    rfl
  | some type =>
    have place : annotatedPlaces [statement] = [(statement.name, statement.span)] := by
      simp [annotatedPlaces, annotated]
    rw [repetitionsAfter, completed?, annotated, grown, place, filter_annotatedPlaces]
    generalize before.filter (·.annotates statement.name) = annotations
    rcases annotations with _ | ⟨first, _ | ⟨second, others⟩⟩
    · rfl
    · rfl
    · rfl

/-- A statement at the end of a body adds the repetition that it completes. -/
theorem repetitionsAfter_concat (before body : Body) (statement : Statement) :
    repetitionsAfter before.annotatedPlaces (body ++ [statement]) =
      repetitionsAfter before.annotatedPlaces body ++
        (completed? (before ++ body) statement).toList := by
  induction body generalizing before with
  | nil => simp [repetitionsAfter_cons, repetitionsAfter]
  | cons head rest ih =>
    rw [List.cons_append, repetitionsAfter_cons, ih, repetitionsAfter_cons, List.append_assoc,
      List.append_assoc, List.singleton_append]

/-- A statement at the end adds the repetition that it completes to those of the body. -/
theorem repetitions_concat (body : Body) (statement : Statement) :
    (body ++ [statement]).repetitions =
      body.repetitions ++ (completed? body statement).toList :=
  repetitionsAfter_concat [] body statement

/-- A repetition tells the first two annotations of its name. -/
theorem mem_repetitions_iff {body : Body} {repetition : Repetition} :
    repetition ∈ body.repetitions ↔
      ∃ first second others,
        body.filter (·.annotates repetition.name) = first :: second :: others ∧
          first.span = repetition.first ∧ second.span = repetition.second := by
  induction body using List.reverseRecOn with
  | nil => simp [repetitions, repetitionsAfter]
  | append_singleton body statement ih =>
    rw [repetitions_concat, List.mem_append, ih, Option.mem_toList, completed?_eq_some_iff,
      List.filter_append]
    cases annotates : statement.annotates repetition.name with
    | false => simp [annotates]
    | true =>
      have last : [statement].filter (·.annotates repetition.name) = [statement] := by
        simp [annotates]
      rw [last]
      -- The statement is the first annotation of the name, the second one, or a later one.
      generalize body.filter (·.annotates repetition.name) = annotations
      rcases annotations with _ | ⟨first, _ | ⟨second, others⟩⟩
      · simp
      · simp [and_comm]
      · simp

/-- The names of the repetitions are those that are annotated at least twice. -/
theorem named_repetitions_iff {body : Body} {name : String} :
    name ∈ body.repetitions.map Repetition.name ↔ 2 ≤ body.countP (·.annotates name) := by
  rw [List.countP_eq_length_filter]
  constructor
  · intro named
    obtain ⟨repetition, among, rfl⟩ := List.mem_map.mp named
    obtain ⟨first, second, others, annotations, -⟩ := mem_repetitions_iff.mp among
    simp [annotations]
  · intro twice
    rcases annotations : body.filter (·.annotates name) with _ | ⟨first, _ | ⟨second, others⟩⟩
    · simp [annotations] at twice
    · simp [annotations] at twice
    · exact List.mem_map.mpr ⟨⟨name, first.span, second.span⟩,
        mem_repetitions_iff.mpr ⟨first, second, others, annotations, rfl, rfl⟩, rfl⟩

end Body

namespace RepetitionScan

open Body

/-- What a scan holds after a body: the place of the first annotation of each name, and the
repetitions of the body. -/
structure Spec (body : Body) (scan : RepetitionScan) : Prop where
  first : ∀ name,
    scan.first.find? name = (body.filter (·.annotates name)).head?.map Statement.span
  found : scan.found = body.repetitions

/-- A repetition is found already if its name has been annotated twice. -/
theorem Spec.any_found {body : Body} {scan : RepetitionScan} (spec : scan.Spec body)
    (name : String) :
    scan.found.any (·.name == name) = true ↔
      2 ≤ (body.filter (·.annotates name)).length := by
  rw [spec.found, ← List.countP_eq_length_filter, ← named_repetitions_iff, List.any_eq_true,
    List.mem_map]
  simp only [beq_iff_eq]

section

variable {body : Body} {scan : RepetitionScan} {statement : Statement}

/-- A statement that completes no repetition leaves those that are found. -/
theorem Spec.found_of_incomplete (spec : scan.Spec body)
    (incomplete : completed? body statement = none) :
    scan.found = repetitions (body ++ [statement]) := by
  rw [repetitions_concat, incomplete, spec.found]
  exact (List.append_nil _).symm

/-- An assignment changes nothing. -/
theorem Spec.step_of_silent (spec : scan.Spec body) (annotated : statement.annotated? = none) :
    (scan.step statement).Spec (body ++ [statement]) := by
  have silent : ∀ name, [statement].filter (·.annotates name) = [] := by
    simp [Statement.annotates, annotated]
  have kept : scan.step statement = scan := by simp [RepetitionScan.step, annotated]
  have nothing : completed? body statement = none := by simp [completed?, annotated]
  rw [kept]
  refine ⟨fun name => ?_, ?_⟩
  · rw [List.filter_append, silent, List.append_nil, spec.first]
  · exact spec.found_of_incomplete nothing

/-- An annotation is remembered, adds a repetition, or changes nothing, as its name is annotated for
the first time, for the second time, or again. -/
theorem Spec.step_of_annotated (spec : scan.Spec body) {type : TypeId}
    (annotated : statement.annotated? = some type) :
    (scan.step statement).Spec (body ++ [statement]) := by
  have mine : ∀ name, [statement].filter (·.annotates name) =
      if statement.name = name then [statement] else [] := by
    intro name
    simp [List.filter_singleton, Statement.annotates, annotated]
  have remembered := spec.first statement.name
  have already := spec.any_found statement.name
  -- The place of a name that is annotated already stays the same.
  have kept : body.filter (·.annotates statement.name) ≠ [] → ∀ name,
      scan.first.find? name =
        ((body ++ [statement]).filter (·.annotates name)).head?.map Statement.span := by
    intro before name
    rw [spec.first, List.filter_append, mine]
    split
    · next same =>
      rw [← same, List.head?_append_of_ne_nil _ before]
    · rw [List.append_nil]
  rcases annotations : body.filter (·.annotates statement.name) with
    _ | ⟨first, _ | ⟨second, others⟩⟩
  · rw [annotations] at remembered
    have completes : completed? body statement = none := by simp [completed?, annotations]
    rw [step_of_new annotated remembered]
    refine ⟨fun name => ?_, ?_⟩
    · rw [List.filter_append, mine]
      split
      · next same =>
        rw [← same, annotations]
        exact NameTable.find?_insert_self ..
      · next differ =>
        rw [List.append_nil, ← spec.first]
        exact NameTable.find?_insert_of_ne _ _ (Ne.symm differ)
    · exact spec.found_of_incomplete completes
  · rw [annotations] at remembered already
    have fresh : scan.found.any (·.name == statement.name) = false :=
      Bool.eq_false_iff.mpr fun any => absurd (already.mp any) (by simp)
    have completes : completed? body statement =
        some ⟨statement.name, first.span, statement.span⟩ := by
      simp [completed?, annotations, annotated]
    rw [step_of_second annotated remembered fresh]
    refine ⟨kept (by simp [annotations]), ?_⟩
    rw [repetitions_concat, completes, ← spec.found]
    rfl
  · rw [annotations] at remembered already
    have known : scan.found.any (·.name == statement.name) = true := already.mpr (by simp)
    have completes : completed? body statement = none := by simp [completed?, annotations]
    rw [step_of_again annotated remembered known]
    exact ⟨kept (by simp [annotations]), spec.found_of_incomplete completes⟩

/-- A scan that holds what it should goes on to do so. -/
theorem Spec.step (spec : scan.Spec body) (statement : Statement) :
    (scan.step statement).Spec (body ++ [statement]) := by
  cases annotated : statement.annotated? with
  | none => exact spec.step_of_silent annotated
  | some type => exact spec.step_of_annotated annotated

end

/-- A scan finds the repetitions of its body. -/
theorem spec (body : Body) : (ofBody body).Spec body := by
  induction body using List.reverseRecOn with
  | nil => exact ⟨fun _ => rfl, rfl⟩
  | append_singleton body statement ih =>
    rw [ofBody_concat]
    exact ih.step statement

end RepetitionScan

namespace Body

theorem secondAnnotatedAt_lt {body : Body} {repetition : Repetition}
    (among : repetition ∈ body.repetitions) :
    body.secondAnnotatedAt repetition.name < body.length :=
  List.findIdxNth_lt_length_iff.mpr (named_repetitions_iff.mp (List.mem_map_of_mem among))

/-- A statement at the end does not move the second annotation of a repetition. -/
theorem secondAnnotatedAt_concat {body : Body} {repetition : Repetition}
    (among : repetition ∈ body.repetitions) (statement : Statement) :
    (body ++ [statement]).secondAnnotatedAt repetition.name =
      body.secondAnnotatedAt repetition.name :=
  findIdxNth_append_of_lt _ (named_repetitions_iff.mp (List.mem_map_of_mem among))

/-- A repetition stands where the statement that completes it does. -/
theorem secondAnnotatedAt_of_completed {body : Body} {statement : Statement}
    {repetition : Repetition} (completes : completed? body statement = some repetition) :
    (body ++ [statement]).secondAnnotatedAt repetition.name = body.length := by
  obtain ⟨annotates, -, first, alone, -⟩ := completed?_eq_some_iff.mp completes
  have once : body.countP (·.annotates repetition.name) = 1 := by
    rw [List.countP_eq_length_filter, alone, List.length_singleton]
  rw [secondAnnotatedAt, ← once]
  exact findIdxNth_concat annotates

/-- Repetitions come in the order of the second annotations. -/
theorem pairwise_repetitions (body : Body) :
    body.repetitions.Pairwise fun earlier later =>
      body.secondAnnotatedAt earlier.name < body.secondAnnotatedAt later.name := by
  induction body using List.reverseRecOn with
  | nil => exact .nil
  | append_singleton body statement ih =>
    have before : (repetitions body).Pairwise fun earlier later =>
        secondAnnotatedAt (body ++ [statement]) earlier.name <
          secondAnnotatedAt (body ++ [statement]) later.name := by
      refine ih.imp_of_mem fun {earlier later} first second below => ?_
      rwa [secondAnnotatedAt_concat first, secondAnnotatedAt_concat second]
    rw [repetitions_concat]
    cases completes : completed? body statement with
    | none => simpa using before
    | some repetition =>
      refine List.pairwise_append.mpr ⟨before, List.pairwise_singleton _ _, ?_⟩
      intro earlier listed later last
      obtain rfl := List.mem_singleton.mp last
      rw [secondAnnotatedAt_concat listed, secondAnnotatedAt_of_completed completes]
      exact secondAnnotatedAt_lt listed

/-- The repetitions of every body are the names that it annotates at least twice, in the order of
their second annotations. -/
theorem repetitions_listed (body : Body) : body.RepetitionsListed where
  scanned := (RepetitionScan.spec body).found
  repeated name := named_repetitions_iff
  once := by
    refine List.pairwise_map.mpr ((pairwise_repetitions body).imp fun {earlier later} below => ?_)
    intro same
    rw [same] at below
    exact Nat.lt_irrefl _ below
  bySecond := pairwise_repetitions body
  spans repetition among := by
    obtain ⟨first, second, others, annotations, isFirst, isSecond⟩ :=
      mem_repetitions_iff.mp among
    rw [firstAnnotatedAt, ← List.findIdxNth_zero, secondAnnotatedAt, getElem?_findIdxNth,
      getElem?_findIdxNth, annotations]
    exact ⟨congrArg some isFirst, congrArg some isSecond⟩

/-- In `x: int; __slots__: int; x = 1; __slots__: str; x: str; x: int` the name of the language is
annotated a second time before the other one is. -/
example (value : Variable) (a b c d e f : Span) :
    repetitions [⟨"x", .annotate .int, a⟩, ⟨"__slots__", .annotate .int, b⟩,
      ⟨"x", .assign value, c⟩, ⟨"__slots__", .annotate .str, d⟩, ⟨"x", .annotate .str, e⟩,
      ⟨"x", .annotate .int, f⟩] =
        [⟨"__slots__", b, d⟩, ⟨"x", a, e⟩] := rfl

end Body

end DataclassSynthesis
