import DataclassSynthesis.Proofs.ReachedTypes
import DataclassSynthesis.Proofs.StepSimulation

/-!
# Walks over types stay within the context

Deciding assignability and writing a type down are walks from types to their components. A walk that
notes every identifier it comes to gives the same result as the plain one, or gives up where it
does. In a reached state both walks come to an end, however types are nested, and come to
identifiers of the context only (`DataclassSynthesis.Reaches.walks_end`).
-/

namespace DataclassSynthesis

/-- A walk notes the places it comes to, the latest one last, and may give up. -/
abbrev Walk (Place : Type) := StateT (List Place) Option

namespace Walk

variable {Place α β : Type} {allowed : Place → Prop}

/-- Come to a place. -/
def visit (place : Place) : Walk Place Unit := modify fun visited => visited ++ [place]

/-- A walk gives what a plain computation gives, and stays among the allowed places. -/
def Follows (allowed : Place → Prop) (walk : Walk Place α) (plain : Option α) : Prop :=
  ∀ visited, (∀ place ∈ visited, allowed place) →
    (walk visited).map Prod.fst = plain ∧
      ∀ result after, walk visited = some (result, after) → ∀ place ∈ after, allowed place

theorem follows_pure (result : α) : Follows allowed (pure result) (some result) := by
  intro visited before
  refine ⟨rfl, ?_⟩
  intro other after ran
  cases ran
  exact before

theorem follows_failure : Follows allowed (failure : Walk Place α) none := by
  intro visited _
  exact ⟨rfl, nofun⟩

/-- Walks follow computations part by part. -/
theorem follows_bind {walk : Walk Place α} {plain : Option α} {next : α → Walk Place β}
    {otherNext : α → Option β} (first : Follows allowed walk plain)
    (rest : ∀ result, Follows allowed (next result) (otherNext result)) :
    Follows allowed (walk >>= next) (plain >>= otherNext) := by
  intro visited before
  obtain ⟨same, stays⟩ := first visited before
  cases ran : walk visited with
  | none =>
    rw [ran] at same
    subst same
    have stopped : (walk >>= next) visited = none := by
      simp only [Bind.bind, StateT.bind, ran, Option.bind_none]
    rw [stopped]
    exact ⟨rfl, nofun⟩
  | some reached =>
    obtain ⟨result, after⟩ := reached
    rw [ran] at same
    subst same
    have goesOn : (walk >>= next) visited = next result after := by
      simp only [Bind.bind, StateT.bind, ran, Option.bind_some]
    rw [goesOn]
    exact rest result after (stays result after ran)

/-- Walks are related to the plain computations that they follow. -/
def following (allowed : Place → Prop) : Simulation (Walk Place) Option where
  related := Follows allowed
  pure := follows_pure
  bind := follows_bind

/-- A walk that comes to an allowed place stays among the allowed ones. -/
theorem follows_visit {place : Place} {rest : Walk Place α} {plain : Option α}
    (here : allowed place) (follows : Follows allowed rest plain) :
    Follows allowed (visit place >>= fun _ => rest) plain := by
  intro visited before
  apply follows (visited ++ [place])
  intro other member
  rcases List.mem_append.mp member with earlier | last
  · exact before other earlier
  · exact List.mem_singleton.mp last ▸ here

/-- A walk has an end if the plain computation has one. -/
theorem Follows.exists_end {walk : Walk Place α} {result : α}
    (follows : Follows allowed walk (some result)) :
    ∃ visited, walk [] = some (result, visited) ∧ ∀ place ∈ visited, allowed place := by
  obtain ⟨same, stays⟩ := follows [] nofun
  obtain ⟨⟨other, visited⟩, ran, rfl⟩ := Option.map_eq_some_iff.mp same
  exact ⟨visited, ran, stays other visited ran⟩

end Walk

namespace TypeContext

/-- The bounded decision of assignability as a walk that notes the pairs it asks about. -/
def assignableWalk (context : TypeContext) : Nat → TypeId → TypeId → Walk (TypeId × TypeId) Bool
  | 0, _, _ => failure
  | bound + 1, source, target => do
    Walk.visit (source, target)
    if source = target then pure true
    else match context.get? source, context.get? target with
      | some sourceType, some targetType =>
        context.assignableStep (assignableWalk context bound) source target sourceType targetType
      | _, _ => pure false

/-- The bounded written form of a type as a walk that notes the identifiers it writes out. -/
def displayWalk (context : TypeContext) : Nat → TypeId → Walk TypeId String
  | 0, _ => failure
  | bound + 1, id => do
    Walk.visit id
    match context.get? id with
    | none => pure s!"InvalidType({id.index})"
    | some type => type.displayWith (displayWalk context bound)

variable {context : TypeContext}

/-- A set of identifiers that has the components of what it has. -/
def Closed (context : TypeContext) (allowed : TypeId → Prop) : Prop :=
  ∀ id type, allowed id → context.get? id = some type →
    ∀ component ∈ type.components, allowed component

theorem closed_all (context : TypeContext) : context.Closed fun _ => True :=
  fun _ _ _ _ _ _ => trivial

theorem WellFormed.closed_knows (formed : context.WellFormed) : context.Closed context.Knows :=
  fun _ _ _ found _ member => formed.knows_component found member

namespace Closed

variable {allowed : TypeId → Prop} {source target id : TypeId}

/-- The walk of the decision decides, and stays within a set that has its components. -/
theorem assignableWalk_follows (closed : context.Closed allowed) (bound : Nat)
    (isSource : allowed source) (isTarget : allowed target) :
    Walk.Follows (fun pair => allowed pair.1 ∧ allowed pair.2)
      (context.assignableWalk bound source target)
      (context.assignableWithin bound source target) := by
  induction bound generalizing source target with
  | zero => exact Walk.follows_failure
  | succ bound ih =>
    rw [assignableWalk, assignableWithin]
    refine Walk.follows_visit ⟨isSource, isTarget⟩ ?_
    split
    · exact Walk.follows_pure true
    cases found : context.get? source with
    | none => exact Walk.follows_pure false
    | some sourceType =>
      cases alsoFound : context.get? target with
      | none => exact Walk.follows_pure false
      | some targetType =>
        have sourceParts := closed source sourceType isSource found
        have targetParts := closed target targetType isTarget alsoFound
        apply assignableStep_simulated (Walk.following _)
        · intro sourceName targetName
          rfl
        · intro component member
          exact ih (sourceParts component member) isTarget
        · intro component member
          exact ih isSource (targetParts component member)
        · intro mine isMine theirs isTheirs
          exact ⟨ih (sourceParts mine isMine) (targetParts theirs isTheirs),
            ih (targetParts theirs isTheirs) (sourceParts mine isMine)⟩

/-- The walk of the written form gives it, and stays within a set that has its components. -/
theorem displayWalk_follows (closed : context.Closed allowed) (bound : Nat)
    (isAllowed : allowed id) :
    Walk.Follows allowed (context.displayWalk bound id) (context.displayWithin bound id) := by
  induction bound generalizing id with
  | zero => exact Walk.follows_failure
  | succ bound ih =>
    rw [displayWalk, displayWithin]
    refine Walk.follows_visit isAllowed ?_
    cases found : context.get? id with
    | none => exact Walk.follows_pure _
    | some type =>
      apply Ty.displayWith_simulated (Walk.following _)
      intro component member
      exact ih (closed id type isAllowed found component member)

end Closed

/-- In any context the walk of the decision gives its answer, or gives up where it does. -/
theorem map_fst_assignableWalk (context : TypeContext) (bound : Nat) (source target : TypeId) :
    (context.assignableWalk bound source target []).map Prod.fst =
      context.assignableWithin bound source target :=
  (context.closed_all.assignableWalk_follows bound trivial trivial [] nofun).1

/-- In any context the walk of the written form gives it, or gives up where it does. -/
theorem map_fst_displayWalk (context : TypeContext) (bound : Nat) (id : TypeId) :
    (context.displayWalk bound id []).map Prod.fst = context.displayWithin bound id :=
  (context.closed_all.displayWalk_follows bound trivial [] nofun).1

namespace WellFormed

/-- Every bound above an identifier is enough for its written form. -/
theorem displayWithin_eq (formed : context.WellFormed) {id : TypeId} (known : context.Knows id)
    {bound : Nat} (enough : id.index < bound) :
    context.displayWithin bound id = some (context.display id) := by
  induction index : id.index using Nat.strongRecOn generalizing id bound with
  | ind _ ih =>
    obtain ⟨type, found⟩ := knows_iff.mp known
    have written : ∀ depth, id.index ≤ depth → context.displayWithin (depth + 1) id =
        some (Id.run (type.displayWith fun component => pure (context.display component))) := by
      intro depth deep
      rw [displayWithin, found]
      apply Ty.displayWith_simulated .answering
      intro component member
      have older := formed.ordered id type found component member
      exact ih component.index (by omega) (formed.knows_component found member) (by omega) rfl
    obtain ⟨depth, rfl⟩ : ∃ depth, bound = depth + 1 := ⟨bound - 1, by omega⟩
    rw [display, written depth (by omega), written context.size (Nat.le_of_lt known),
      Option.getD_some]

/-- The decision about known types ends, and asks about known types only. -/
theorem assignableWalk_ends (formed : context.WellFormed) {source target : TypeId}
    (isSource : context.Knows source) (isTarget : context.Knows target) {bound : Nat}
    (enough : source.index + target.index < bound) :
    context.assignableWithin bound source target = some (context.isAssignable source target) ∧
      ∃ visited, context.assignableWalk bound source target [] =
          some (context.isAssignable source target, visited) ∧
        ∀ pair ∈ visited, context.Knows pair.1 ∧ context.Knows pair.2 := by
  have decided : context.assignableWithin bound source target =
      some (context.isAssignable source target) := by
    rw [assignableWithin_eq_answer formed enough, isAssignable_eq_answer formed]
  have follows := formed.closed_knows.assignableWalk_follows bound isSource isTarget
  rw [decided] at follows
  exact ⟨decided, follows.exists_end⟩

/-- The written form of a known type ends, and writes known types out only. -/
theorem displayWalk_ends (formed : context.WellFormed) {id : TypeId} (known : context.Knows id)
    {bound : Nat} (enough : id.index < bound) :
    context.displayWithin bound id = some (context.display id) ∧
      ∃ visited, context.displayWalk bound id [] = some (context.display id, visited) ∧
        ∀ other ∈ visited, context.Knows other := by
  have written := formed.displayWithin_eq known enough
  have follows := formed.closed_knows.displayWalk_follows bound known
  rw [written] at follows
  exact ⟨written, follows.exists_end⟩

end WellFormed

end TypeContext

/-- In a reached state the decision about known types and the written form of a known type come to
an end within as many nested steps as the identifiers are large. The walks that note where they
are give what the plain ones give, and come to known identifiers only, so that a type is never
missing. -/
theorem Reaches.walks_end {config : WarningConfig} {state : Analysis}
    (reached : Reaches Operation.Known (Analysis.initial config) state) :
    (∀ bound source target, (state.types.assignableWalk bound source target []).map Prod.fst =
        state.types.assignableWithin bound source target) ∧
      (∀ bound id, (state.types.displayWalk bound id []).map Prod.fst =
        state.types.displayWithin bound id) ∧
      (∀ source target, state.types.Knows source → state.types.Knows target →
        ∀ bound, source.index + target.index < bound →
          state.types.assignableWithin bound source target =
              some (state.types.isAssignable source target) ∧
            ∃ visited, state.types.assignableWalk bound source target [] =
                some (state.types.isAssignable source target, visited) ∧
              ∀ pair ∈ visited, state.types.Knows pair.1 ∧ state.types.Knows pair.2) ∧
      ∀ id, state.types.Knows id → ∀ bound, id.index < bound →
        state.types.displayWithin bound id = some (state.types.display id) ∧
          ∃ visited, state.types.displayWalk bound id [] =
              some (state.types.display id, visited) ∧
            ∀ other ∈ visited, state.types.Knows other := by
  have formed := reached.coherent.formed
  refine ⟨state.types.map_fst_assignableWalk, state.types.map_fst_displayWalk, ?_, ?_⟩
  · intro source target isSource isTarget bound enough
    exact formed.assignableWalk_ends isSource isTarget enough
  · intro id known bound enough
    exact formed.displayWalk_ends known enough

namespace Sample

/-- The state after `Optional[Base]`, with `list[Optional[Base]]` and two functions over it: one
takes a `Derived` and gives an `Optional[Base]`, the other one takes and gives a `Base`. -/
def listCallbacks : Analysis :=
  let listed := Operation.run optionalBase (.container Container.list.qualified [⟨19⟩])
  let declared := Operation.run listed (.callable [⟨20⟩, ⟨18⟩] ⟨19⟩ 1)
  Operation.run declared (.callable [⟨20⟩, ⟨17⟩] ⟨17⟩ 2)

theorem reaches_listCallbacks : Reaches Operation.Known (.initial .standard) listCallbacks :=
  .step (.step (.step reaches_optionalBase (.container _ [⟨19⟩]) (by decide))
    (.callable [⟨20⟩, ⟨18⟩] ⟨19⟩ 1) (by decide)) (.callable [⟨20⟩, ⟨17⟩] ⟨17⟩ 2) (by decide)

/-- The second function stands in for the first one, and this is decided within the context. -/
theorem listCallbacks_walks_end :
    (∃ visited, listCallbacks.types.assignableWalk 44 ⟨22⟩ ⟨21⟩ [] = some (true, visited) ∧
      ∀ pair ∈ visited, listCallbacks.types.Knows pair.1 ∧ listCallbacks.types.Knows pair.2) ∧
    ∃ visited, listCallbacks.types.displayWalk 22 ⟨21⟩ [] =
        some (listCallbacks.types.display ⟨21⟩, visited) ∧
      ∀ id ∈ visited, listCallbacks.types.Knows id := by
  obtain ⟨-, -, decides, writes⟩ := reaches_listCallbacks.walks_end
  have accepted : listCallbacks.types.isAssignable ⟨22⟩ ⟨21⟩ = true := by decide
  have decided := (decides ⟨22⟩ ⟨21⟩ (by decide) (by decide) 44 (by decide)).2
  rw [accepted] at decided
  exact ⟨decided, (writes ⟨21⟩ (by decide) 22 (by decide)).2⟩

/-- The parameters are asked about from the first function to the second one. -/
example : listCallbacks.types.assignableWalk 44 ⟨22⟩ ⟨21⟩ [] = some (true,
    [(⟨22⟩, ⟨21⟩), (⟨20⟩, ⟨20⟩), (⟨18⟩, ⟨17⟩), (⟨17⟩, ⟨17⟩), (⟨17⟩, ⟨19⟩), (⟨17⟩, .none),
      (.object, .none), (⟨17⟩, ⟨17⟩)]) := rfl

end Sample

end DataclassSynthesis
