import DataclassSynthesis.Proofs.TypeEnlargement
import Mathlib.Data.Fintype.Card

/-!
# Classes and their types

Class statements keep three stores in step: the class table, the nominal types of the type context,
and the names of types. Nothing else touches what they agree on, neither failed statements nor
operations with unknown identifiers nor types that are put into the context as they stand
(`DataclassSynthesis.Reachable.classesTyped`). So assignability between classes, which searches the
bases of types, decides derivation, which goes through the bases of classes
(`DataclassSynthesis.Reachable.classes_and_types_agree`).
-/

namespace DataclassSynthesis

open TypeContext

/-- What a user may do to an analysis: perform an operation with any arguments, or put a type into
the context as it stands. -/
inductive Move : Analysis → Analysis → Prop
  | perform (state : Analysis) (operation : Operation) : Move state (operation.run state)
  | intern (state : Analysis) (type : Ty) :
      Move state { state with types := (TypeM.intern type state.types).2 }

/-- The states that a user can bring about. -/
def Reachable (config : WarningConfig) (state : Analysis) : Prop :=
  Relation.ReflTransGen Move (Analysis.initial config) state

/-- The part of a class that its statement fixes and its type repeats. -/
structure ClassHeader where
  id : ClassId
  name : String
  type : TypeId
  bases : List ClassId

/-- What the types of classes depend on: name, bases and denoted type, which no decoration
changes. -/
def ClassObject.header (object : ClassObject) : ClassHeader :=
  ⟨object.id, object.name, object.type, object.bases⟩

/-- An edit of the tables keeps the header of a class. -/
theorem ClassObject.IsTableEdit.header {edit : ClassObject → ClassObject}
    (tables : IsTableEdit edit) (object : ClassObject) : (edit object).header = object.header := by
  rw [tables.tables object]
  rfl

namespace ClassTable

/-- The headers of the classes, in the order of the table. -/
def headers (table : ClassTable) : List ClassHeader := table.classes.map ClassObject.header

theorem map_header_get? (table : ClassTable) (id : ClassId) :
    (table.get? id).map ClassObject.header = table.headers[id.index]? := by
  rw [get?, headers, List.getElem?_map]

theorem map_header_byName? (table : ClassTable) (name : String) :
    (table.byName? name).map ClassObject.header =
      table.headers.reverse.find? fun header => header.name == name := by
  rw [byName?, headers, ← List.map_reverse, List.find?_map]
  rfl

/-- Edits of one class that keep its header keep all headers. -/
theorem headers_modify (table : ClassTable) (id : ClassId) {edit : ClassObject → ClassObject}
    (keeps : ∀ object, (edit object).header = object.header) :
    (table.modify id edit).headers = table.headers := by
  apply List.ext_getElem?
  intro index
  simp only [headers, modify, List.getElem?_map, List.getElem?_modify]
  cases table.classes[index]? with
  | none => rfl
  | some object =>
    by_cases same : id.index = index
    · simp [same, keeps]
    · simp [same]

/-- A class that is added takes over its name. -/
theorem byName?_push (table : ClassTable) (object : ClassObject) (name : String) :
    (table.push object).byName? name =
      if object.name = name then some object else table.byName? name := by
  simp only [byName?, push, List.reverse_append, List.reverse_cons, List.reverse_nil,
    List.nil_append, List.cons_append, List.find?_cons]
  by_cases same : object.name = name
  · simp [same]
  · have differ : (object.name == name) = false := beq_eq_false_iff_ne.mpr same
    simp only [differ, same, ↓reduceIte]

/-- Of the classes that share a name, one was defined last. -/
theorem exists_byName? {table : ClassTable} {id : ClassId} {object : ClassObject}
    (found : table.get? id = some object) : ∃ latest, table.byName? object.name = some latest := by
  have listed : object ∈ table.classes.reverse := by
    rw [List.mem_reverse]
    exact List.mem_of_getElem? found
  apply Option.isSome_iff_exists.mp
  rw [byName?, List.find?_isSome]
  exact ⟨object, listed, beq_self_eq_true _⟩

end ClassTable

/-- Each class has its own nominal type, over the types of its bases, and its name denotes the type
of the class that was given the name last. -/
structure Analysis.ClassesTyped (state : Analysis) : Prop where
  ids : ∀ id object, state.classes.get? id = some object → object.id = id
  types : ∀ id object, state.classes.get? id = some object → ∃ bases : List TypeId,
    (bases.map some =
      object.bases.map fun base => (state.classes.get? base).map ClassObject.type) ∧
    state.types.get? object.type =
      some (.nominal id object.name (if bases.isEmpty then [.object] else bases))
  named : ∀ name object, state.classes.byName? name = some object →
    state.types.resolve name = .ok object.type
  /-- The type from which all classes derive is there. -/
  root : state.types.get? .object = some (.scalar .object)
  /-- Types are found under the identifiers that denote them. -/
  inStep : state.types.InStep

namespace Analysis.ClassesTyped

variable {state after : Analysis}

/-- Classes stay in step with their types while types are added and headers are kept. -/
theorem of_headers (typed : state.ClassesTyped) (enlarges : state.types.Enlarges after.types)
    (headers : after.classes.headers = state.classes.headers) : after.ClassesTyped := by
  have found : ∀ id, (after.classes.get? id).map ClassObject.header =
      (state.classes.get? id).map ClassObject.header := by
    intro id
    rw [ClassTable.map_header_get?, headers, ClassTable.map_header_get?]
  have earlier : ∀ id object, after.classes.get? id = some object →
      ∃ before, state.classes.get? id = some before ∧ before.header = object.header := by
    intro id object present
    have same := found id
    rw [present, Option.map_some] at same
    exact Option.map_eq_some_iff.mp same.symm
  have types : ∀ id, (after.classes.get? id).map ClassObject.type =
      (state.classes.get? id).map ClassObject.type := by
    intro id
    have same := congrArg (Option.map ClassHeader.type) (found id)
    rwa [Option.map_map, Option.map_map] at same
  refine ⟨?_, ?_, ?_, enlarges.grows.get? typed.root, enlarges.grows.inStep typed.inStep⟩
  · intro id object present
    obtain ⟨before, there, same⟩ := earlier id object present
    exact (congrArg ClassHeader.id same).symm.trans (typed.ids id before there)
  · intro id object present
    obtain ⟨before, there, same⟩ := earlier id object present
    obtain ⟨bases, listed, denoted⟩ := typed.types id before there
    have sameBases : before.bases = object.bases := congrArg ClassHeader.bases same
    have sameType : before.type = object.type := congrArg ClassHeader.type same
    have sameName : before.name = object.name := congrArg ClassHeader.name same
    refine ⟨bases, ?_, ?_⟩
    · rw [listed, sameBases]
      exact List.map_congr_left fun base _ => (types base).symm
    · rw [← sameType, ← sameName]
      exact enlarges.grows.get? denoted
  · intro name object present
    have same := ClassTable.map_header_byName? after.classes name
    rw [headers, ← ClassTable.map_header_byName?, present, Option.map_some] at same
    obtain ⟨before, there, same⟩ := Option.map_eq_some_iff.mp same.symm
    have sameType : before.type = object.type := congrArg ClassHeader.type same
    rw [enlarges.resolve, typed.named name before there, sameType]

theorem initial (config : WarningConfig) : (Analysis.initial config).ClassesTyped where
  ids id object found := by cases found
  types id object found := by cases found
  named name object found := by cases found
  root := rfl
  inStep := inStep_initial

/-- A class statement that succeeds gives its class a type of its own, and the class name with
it. -/
theorem define (typed : state.ClassesTyped) {definition : ClassDefinition} {bases : List TypeId}
    (based : state.baseTypes definition.bases = .ok bases) :
    (state.defined definition bases).ClassesTyped := by
  have enlarges := TypeM.intern_enlarges (.nominal state.classes.nextId definition.name
    (if bases.isEmpty then [.object] else bases)) state.types
  have denoted := TypeM.get?_intern typed.inStep (.nominal state.classes.nextId definition.name
    (if bases.isEmpty then [.object] else bases))
  have stays : ∀ id object, state.classes.get? id = some object →
      (state.defined definition bases).classes.get? id = some object :=
    fun id object found => ClassTable.get?_push_of_some found _
  -- Bases that exist keep their types when a class is added.
  have keeps : ∀ {names : List ClassId} {types : List TypeId},
      (types.map some = names.map fun base => (state.classes.get? base).map ClassObject.type) →
      types.map some = names.map fun base =>
        ((state.defined definition bases).classes.get? base).map ClassObject.type := by
    intro names types listed
    rw [listed]
    refine List.map_congr_left fun base member => ?_
    obtain ⟨object, found, -⟩ := ClassTable.exists_of_typed listed member
    rw [found, stays base object found]
  refine ⟨?_, ?_, ?_, enlarges.grows.get? typed.root, enlarges.grows.inStep typed.inStep⟩
  · intro id object found
    rcases ClassTable.get?_of_push found with before | ⟨rfl, rfl⟩
    · exact typed.ids id object before
    · rfl
  · intro id object found
    rcases ClassTable.get?_of_push found with before | ⟨rfl, rfl⟩
    · obtain ⟨others, listed, old⟩ := typed.types id object before
      exact ⟨others, keeps listed, enlarges.grows.get? old⟩
    · exact ⟨bases, keeps (Analysis.baseTypes_eq_ok based), denoted⟩
  · intro name object found
    change ((TypeM.intern _ state.types).2.register definition.name
      (TypeM.intern _ state.types).1).resolve name = _
    rw [Analysis.defined, ClassTable.byName?_push] at found
    by_cases same : definition.name = name
    · subst same
      rw [if_pos (by rfl)] at found
      cases found
      simp only [resolve, register, NameTable.find?_insert_self]
      rfl
    · rw [if_neg (by exact same)] at found
      have before := typed.named name object found
      simp only [resolve] at before
      simp only [resolve, register, NameTable.find?_insert_of_ne _ _ (Ne.symm same),
        enlarges.named, before]

/-- Distinct classes have distinct types. -/
theorem injective (typed : state.ClassesTyped) {left right : ClassId} {first second : ClassObject}
    (isFirst : state.classes.get? left = some first)
    (isSecond : state.classes.get? right = some second) (same : first.type = second.type) :
    left = right := by
  obtain ⟨_, -, denoted⟩ := typed.types left first isFirst
  obtain ⟨_, -, alsoDenoted⟩ := typed.types right second isSecond
  rw [same, alsoDenoted] at denoted
  exact (Ty.nominal.inj (Option.some.inj denoted)).1.symm

/-- There are at least as many types as classes. -/
theorem size_le (typed : state.ClassesTyped) : state.classes.size ≤ state.types.size := by
  have found : ∀ index : Fin state.classes.size,
      state.classes.get? ⟨index⟩ = some (state.classes.classes.get index) :=
    fun index => List.getElem?_eq_getElem index.isLt
  have known : ∀ index : Fin state.classes.size,
      (state.classes.classes.get index).type.index < state.types.size := by
    intro index
    obtain ⟨_, -, denoted⟩ := typed.types _ _ (found index)
    exact knows_of_get? denoted
  let place : Fin state.classes.size → Fin state.types.size := fun index => ⟨_, known index⟩
  have distinct : Function.Injective place := by
    intro left right same
    have sameType : (state.classes.classes.get left).type =
        (state.classes.classes.get right).type := congrArg TypeId.mk (Fin.mk.inj same)
    have sameId := typed.injective (found left) (found right) sameType
    exact Fin.ext (congrArg ClassId.index sameId)
  simpa using Fintype.card_le_of_injective place distinct

/-- The root is below no class. -/
theorem assignableWithin_root (typed : state.ClassesTyped) {parent : ClassId} {upper : ClassObject}
    (isUpper : state.classes.get? parent = some upper) (bound : Nat) :
    state.types.assignableWithin (bound + 1) .object upper.type = some false := by
  obtain ⟨bases, -, denoted⟩ := typed.types parent upper isUpper
  have differ : .object ≠ upper.type := by
    intro same
    rw [← same, typed.root] at denoted
    cases denoted
  rw [assignableWithin, if_neg differ, typed.root, denoted]
  rfl

/-- A class is below another one when they are the same or one of its bases is below the other. -/
theorem assignableWithin_class (typed : state.ClassesTyped) (ordered : state.classes.BasesFirst)
    {parent : ClassId} {upper : ClassObject} (isUpper : state.classes.get? parent = some upper)
    (bound : Nat) {child : ClassId} {lower : ClassObject}
    (isLower : state.classes.get? child = some lower) (enough : child.index + 1 < bound) :
    ∃ answer, state.types.assignableWithin bound lower.type upper.type = some answer ∧
      (answer = true ↔ Relation.ReflTransGen state.classes.DerivesFrom child parent) := by
  induction bound generalizing child lower with
  | zero => omega
  | succ bound ih =>
    by_cases same : child = parent
    · subst same
      obtain rfl := Option.some.inj (isLower.symm.trans isUpper)
      refine ⟨true, ?_, iff_of_true rfl .refl⟩
      rw [assignableWithin, if_pos rfl]
    have differ : lower.type ≠ upper.type :=
      fun equal => same (typed.injective isLower isUpper equal)
    obtain ⟨bases, listed, denoted⟩ := typed.types child lower isLower
    obtain ⟨others, -, alsoDenoted⟩ := typed.types parent upper isUpper
    have derives := ClassTable.derives_iff_exists_base isLower same
    rw [assignableWithin, if_neg differ, denoted, alsoDenoted]
    simp only [assignableStep, if_neg same]
    by_cases isRoot : bases = []
    · -- A class without bases derives from the root only.
      subst isRoot
      have noBases : lower.bases = [] := by simpa using listed.symm
      obtain ⟨depth, rfl⟩ : ∃ depth, bound = depth + 1 := ⟨bound - 1, by omega⟩
      refine ⟨false, ?_, ?_⟩
      · simp only [List.isEmpty_nil, ↓reduceIte, List.anyM,
          typed.assignableWithin_root isUpper depth]
        rfl
      · rw [derives, noBases]
        simp
    · rw [if_neg (by simpa using isRoot)]
      -- Every base type is that of an older class, about which the induction hypothesis decides.
      have decides : ∀ base ∈ lower.bases, ∀ object, state.classes.get? base = some object →
          ∃ answer, state.types.assignableWithin bound object.type upper.type = some answer ∧
            (answer = true ↔ Relation.ReflTransGen state.classes.DerivesFrom base parent) := by
        intro base isBase object found
        have older := ordered child lower isLower base isBase
        exact ih found (by omega)
      have answered : ∀ type ∈ bases, state.types.assignableWithin bound type upper.type =
          some ((state.types.assignableWithin bound type upper.type).getD false) := by
        intro type member
        obtain ⟨base, isBase, object, found, rfl⟩ := ClassTable.exists_of_mem_typed listed member
        obtain ⟨answer, decided, -⟩ := decides base isBase object found
        rw [decided]
        rfl
      refine ⟨_, anyM_eq_some answered, ?_⟩
      rw [derives, List.any_eq_true]
      constructor
      · rintro ⟨type, member, accepted⟩
        obtain ⟨base, isBase, object, found, rfl⟩ := ClassTable.exists_of_mem_typed listed member
        obtain ⟨answer, decided, iff⟩ := decides base isBase object found
        rw [decided, Option.getD_some, iff] at accepted
        exact ⟨base, isBase, accepted⟩
      · rintro ⟨base, isBase, rest⟩
        obtain ⟨object, found, member⟩ := ClassTable.exists_of_typed listed isBase
        obtain ⟨answer, decided, iff⟩ := decides base isBase object found
        refine ⟨object.type, member, ?_⟩
        rw [decided, Option.getD_some, iff]
        exact rest

/-- A class is assignable to exactly the classes from which it derives, itself included. -/
theorem isAssignable_iff (typed : state.ClassesTyped) (ordered : state.classes.BasesFirst)
    {child parent : ClassId} {lower upper : ClassObject}
    (isLower : state.classes.get? child = some lower)
    (isUpper : state.classes.get? parent = some upper) :
    state.types.isAssignable lower.type upper.type = true ↔
      Relation.ReflTransGen state.classes.DerivesFrom child parent := by
  have inside : child.index < state.classes.size := (List.getElem?_eq_some_iff.mp isLower).1
  have fewer := typed.size_le
  have builtin : TypeId.object.index < state.types.size := knows_of_get? typed.root
  have square : 2 * state.types.size ≤ state.types.size * state.types.size := by
    apply Nat.mul_le_mul_right
    exact Nat.le_trans (by decide) builtin
  have enough : child.index + 1 < state.types.size * state.types.size + 1 := by omega
  obtain ⟨answer, decided, iff⟩ := typed.assignableWithin_class ordered isUpper _ isLower enough
  rw [isAssignable, decided, Option.getD_some, iff]

end Analysis.ClassesTyped

/-- Decorating a class keeps all headers. -/
theorem Decoration.Outcome.headers_eq {options : Options} {id : ClassId} {own : List Attribute}
    {before after : Analysis} (outcome : Outcome options id own before after) :
    after.classes.headers = before.classes.headers := by
  obtain ⟨edit, tables, edited⟩ := outcome.classes
  rw [edited]
  apply ClassTable.headers_modify
  intro object
  have kept := tables.header object
  rw [ClassObject.withConstructor]
  split <;> exact kept

/-- A move is a class statement that succeeds, or it keeps all headers and at most adds types. -/
theorem Move.cases {state after : Analysis} (move : Move state after)
    (ordered : state.classes.BasesFirst) :
    (∃ definition bases, state.baseTypes definition.bases = .ok bases ∧
      after = state.defined definition bases) ∨
    state.types.Enlarges after.types ∧ after.classes.headers = state.classes.headers := by
  cases move with
  | intern type => exact .inr ⟨TypeM.intern_enlarges type state.types, rfl⟩
  | perform operation =>
    have whenDefining : (∃ definition, operation = .define definition) →
        (∃ definition bases, state.baseTypes definition.bases = .ok bases ∧
          operation.run state = state.defined definition bases) ∨
        state.types.Enlarges (operation.run state).types ∧
          (operation.run state).classes.headers = state.classes.headers := by
      rintro ⟨definition, rfl⟩
      rw [Operation.run, AnalysisM.stateAfter_define]
      cases based : state.baseTypes definition.bases with
      | error error => exact .inr ⟨.refl state.types, rfl⟩
      | ok bases => exact .inl ⟨definition, bases, based, rfl⟩
    rcases operation.enlarges_run ordered with defines | enlarges
    · exact whenDefining defines
    rcases operation.run_cases state with defines | ⟨options, id, -, ran⟩ | same
    · exact whenDefining defines
    · refine .inr ⟨enlarges, ?_⟩
      rw [ran]
      rcases Decoration.stateAfter_cases ordered options id with same | ⟨_, _, _, _, outcome⟩
      · rw [same]
      · exact outcome.headers_eq
    · exact .inr ⟨enlarges, by rw [same]⟩

/-- Every move keeps classes in step with their types, and bases older. -/
theorem Move.classesTyped {state after : Analysis} (move : Move state after)
    (typed : state.ClassesTyped) (ordered : state.classes.BasesFirst) :
    after.ClassesTyped ∧ after.classes.BasesFirst := by
  constructor
  · rcases move.cases ordered with ⟨definition, bases, based, rfl⟩ | ⟨enlarges, headers⟩
    · exact typed.define based
    · exact typed.of_headers enlarges headers
  · cases move with
    | intern type => exact ordered
    | perform operation => exact operation.basesFirst_run ordered

/-- In every reachable state classes are in step with their types, and bases are older. -/
theorem Reachable.classesTyped {config : WarningConfig} {state : Analysis}
    (reachable : Reachable config state) : state.ClassesTyped ∧ state.classes.BasesFirst := by
  induction reachable with
  | refl =>
    refine ⟨.initial config, ?_⟩
    intro id object found
    cases found
  | tail _ move ih => exact move.classesTyped ih.1 ih.2

/-- In every reachable state the class at each place has that identity, older bases, and a nominal
type of its own over the types of its bases. Its name denotes the type of the class that was given
the name last. A class is assignable to exactly the classes from which it derives. -/
theorem Reachable.classes_and_types_agree {config : WarningConfig} {state : Analysis}
    (reachable : Reachable config state) :
    (∀ id object, state.classes.get? id = some object →
      object.id = id ∧ (∀ base ∈ object.bases, base.index < id.index) ∧
      (∃ bases : List TypeId,
        (bases.map some =
          object.bases.map fun base => (state.classes.get? base).map ClassObject.type) ∧
        state.types.get? object.type =
          some (.nominal id object.name (if object.bases = [] then [.object] else bases))) ∧
      ∃ latest, state.classes.byName? object.name = some latest ∧
        state.types.resolve object.name = .ok latest.type) ∧
    ∀ child parent lower upper, state.classes.get? child = some lower →
      state.classes.get? parent = some upper →
      (lower.type = upper.type → child = parent) ∧
      (state.types.isAssignable lower.type upper.type = true ↔
        Relation.ReflTransGen state.classes.DerivesFrom child parent) := by
  obtain ⟨typed, ordered⟩ := reachable.classesTyped
  constructor
  · intro id object found
    obtain ⟨bases, listed, denoted⟩ := typed.types id object found
    obtain ⟨latest, last⟩ := ClassTable.exists_byName? found
    refine ⟨typed.ids id object found, ordered id object found, ⟨bases, listed, ?_⟩,
      latest, last, typed.named _ _ last⟩
    have sameEmpty : bases.isEmpty = true ↔ object.bases = [] := by
      have lengths := congrArg List.length listed
      rw [List.length_map, List.length_map] at lengths
      rw [List.isEmpty_iff, ← List.length_eq_zero_iff, lengths, List.length_eq_zero_iff]
    simpa only [sameEmpty] using denoted
  · intro child parent lower upper isLower isUpper
    exact ⟨typed.injective isLower isUpper, typed.isAssignable_iff ordered isLower isUpper⟩

namespace Sample

/-- The statement `class Base(Derived, Base): pass`, which gives a name a second time. -/
def namesake : ClassDefinition := ClassDefinition.start "Base" [⟨1⟩, ⟨0⟩] none

/-- The statement `class Orphan(Missing): pass`, which fails. -/
def orphan : ClassDefinition := ClassDefinition.start "Orphan" [⟨9⟩] none

/-- The state after `list` is applied to an unknown type, one statement fails and the other one
succeeds. -/
def namesakes : Analysis :=
  Operation.run (Operation.run
    { defined with types := (TypeM.intern (.container "builtins.list" [⟨100⟩]) defined.types).2 }
    (.define orphan)) (.define namesake)

theorem reachable_namesakes : Reachable .standard namesakes := by
  have start : Reachable .standard defined :=
    .tail (.tail .refl (.perform _ (.define base))) (.perform _ (.define derived))
  exact .tail (.tail (.tail start (.intern _ _)) (.perform _ (.define orphan)))
    (.perform _ (.define namesake))

/-- The name denotes the later class, which derives from the earlier one but not the other way
round. -/
theorem namesakes_agree :
    namesakes.types.resolve "Base" = .ok ⟨20⟩ ∧
      namesakes.types.isAssignable ⟨20⟩ ⟨17⟩ = true ∧
      (namesakes.types.isAssignable ⟨17⟩ ⟨20⟩ = true ↔
        Relation.ReflTransGen namesakes.classes.DerivesFrom ⟨0⟩ ⟨2⟩) := by
  obtain ⟨each, pairs⟩ := reachable_namesakes.classes_and_types_agree
  obtain ⟨-, -, -, latest, last, denotes⟩ := each ⟨2⟩ _ rfl
  cases last
  have derives : Relation.ReflTransGen namesakes.classes.DerivesFrom ⟨2⟩ ⟨0⟩ :=
    .single ⟨_, rfl, List.mem_cons_of_mem _ List.mem_cons_self⟩
  exact ⟨denotes, (pairs ⟨2⟩ ⟨0⟩ _ _ rfl rfl).2.mpr derives, (pairs ⟨0⟩ ⟨2⟩ _ _ rfl rfl).2⟩

end Sample

end DataclassSynthesis
