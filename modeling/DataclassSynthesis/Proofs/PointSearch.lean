import DataclassSynthesis.Proofs.ProgramTrail
import Mathlib.Data.Finset.Card
import Mathlib.Logic.Function.Iterate
import Mathlib.Logic.Relation

/-!
# Searching for a program point

Whether a point can be reached is what a search finds that keeps a stack of points to visit and the
points that it has visited. A point may continue itself, points may continue one another in circles,
and a point that is continued need not exist; still each round of the search brings it closer to its
end. So in every program, whatever its points continue, the search ends, and it finds the source
exactly when a chain of predecessors leads there
(`DataclassSynthesis.Program.isReachable_decides`).
-/

namespace DataclassSynthesis

namespace Program

/-- The points that a point continues. -/
def incoming (program : Program) (point : PointId) : List PointId :=
  (program.predecessor? point).toList

/-- A point continues an earlier one. -/
def Continues (program : Program) (point earlier : PointId) : Prop :=
  earlier ∈ program.incoming point

/-- A chain of predecessors, which may be empty, leads from a point back to another one. -/
abbrev LeadsBack (program : Program) : PointId → PointId → Prop :=
  Relation.ReflTransGen program.Continues

/-- Add points one after the other, each with the point that it continues and its label. -/
def extendAll (program : Program) (added : List (PointId × String)) : Program :=
  added.foldl (fun extended new => (extended.extend new.1 new.2).2) program

/-- Where a search stands: it has found an answer, or it goes on with the points to visit, the next
one first, and the points that it has visited. -/
inductive Search where
  | ended (found : Bool)
  | ongoing (pending visited : List PointId)

namespace Search

/-- The search from a point. -/
def start (target : PointId) : Search := ongoing [target] []

/-- One round of the search for a source. It ends at the source, and when no point is left. A point
that was visited before is passed over; any other one is visited, and the points that it continues
are visited next. -/
def round (program : Program) (source : PointId) : Search → Search
  | ended found => ended found
  | ongoing [] _ => ended false
  | ongoing (current :: pending) visited =>
    if current = source then ended true
    else if current ∈ visited then ongoing pending visited
    else ongoing (program.incoming current ++ pending) (current :: visited)

end Search

variable {program : Program} {source target point : PointId}

theorem incoming_eq_nil (missing : ¬ point.index < program.size) : program.incoming point = [] := by
  have unknown : program.get? point = none := List.getElem?_eq_none (Nat.le_of_not_lt missing)
  simp only [incoming, predecessor?, unknown, Option.bind_none, Option.toList_none]

/-- A point has at most one incoming edge. -/
theorem length_incoming_le (program : Program) (point : PointId) :
    (program.incoming point).length ≤ 1 := by
  rw [incoming]
  cases program.predecessor? point with
  | none => exact Nat.zero_le 1
  | some previous => exact Nat.le_refl 1

/-- The existing points that are not among those visited. -/
def unvisited (program : Program) (visited : List PointId) : Finset Nat :=
  (Finset.range program.size).filter fun index => ⟨index⟩ ∉ visited

theorem unvisited_cons_subset (program : Program) (point : PointId) (visited : List PointId) :
    program.unvisited (point :: visited) ⊆ program.unvisited visited := by
  intro index listed
  simp only [unvisited, Finset.mem_filter, List.mem_cons, not_or] at listed ⊢
  exact ⟨listed.1, listed.2.2⟩

/-- Visiting a point that exists leaves fewer points unvisited. -/
theorem card_unvisited_cons (inside : point.index < program.size) {visited : List PointId}
    (fresh : point ∉ visited) :
    (program.unvisited (point :: visited)).card < (program.unvisited visited).card := by
  refine Finset.card_lt_card ((Finset.ssubset_iff_of_subset
    (program.unvisited_cons_subset point visited)).mpr ⟨point.index, ?_, ?_⟩)
  · exact Finset.mem_filter.mpr ⟨Finset.mem_range.mpr inside, fresh⟩
  · simp only [unvisited, Finset.mem_filter, List.mem_cons, true_or, not_true_eq_false, and_false,
      not_false_eq_true]

theorem card_unvisited_nil (program : Program) : (program.unvisited []).card = program.size := by
  simp only [unvisited, List.not_mem_nil, not_false_eq_true, Finset.filter_true, Finset.card_range]

namespace Search

/-- How many rounds an ongoing search can still take before nothing is left to visit: one for each
point to visit, and one for each point that it may come upon. -/
def remaining (program : Program) : Search → Nat
  | ended _ => 0
  | ongoing pending visited => (program.unvisited visited).card + pending.length

/-- A search that has something left to visit comes closer to its end with each round, be the next
point new, visited before, or missing. -/
theorem remaining_round (program : Program) (source current : PointId)
    (pending visited : List PointId) :
    (round program source (ongoing (current :: pending) visited)).remaining program <
      (ongoing (current :: pending) visited).remaining program := by
  simp only [round]
  split
  · simp only [remaining, List.length_cons]
    omega
  · split
    · simp only [remaining, List.length_cons]
      omega
    · next fresh =>
      simp only [remaining, List.length_append, List.length_cons]
      by_cases inside : current.index < program.size
      · have fewer := card_unvisited_cons inside fresh
        have single := program.length_incoming_le current
        omega
      · have noMore := Finset.card_le_card (program.unvisited_cons_subset current visited)
        rw [incoming_eq_nil inside, List.length_nil]
        omega

/-- After as many rounds as remain, a search has ended or has nothing left to visit. -/
theorem iterate_remaining {search : Search} {count : Nat}
    (enough : search.remaining program ≤ count) :
    (∃ found, (round program source)^[count] search = ended found) ∨
      ∃ visited, (round program source)^[count] search = ongoing [] visited := by
  induction count generalizing search with
  | zero =>
    match search with
    | ended found => exact .inl ⟨found, rfl⟩
    | ongoing [] visited => exact .inr ⟨visited, rfl⟩
    | ongoing (current :: pending) visited =>
      rw [remaining, List.length_cons] at enough
      omega
  | succ count ih =>
    match search with
    | ended found => exact .inl ⟨found, Function.iterate_fixed rfl _⟩
    | ongoing [] visited => exact .inl ⟨false, Function.iterate_fixed rfl count⟩
    | ongoing (current :: pending) visited =>
      have closer := remaining_round program source current pending visited
      exact ih (Nat.le_of_lt_succ (Nat.lt_of_lt_of_le closer enough))

/-- What holds of a search from a target. A search that has ended has the right answer. One that
goes on has still to visit, or has visited, the target and what the visited points continue. It has
not visited the source, and only visits points that the target leads back to. -/
inductive Follows (program : Program) (source target : PointId) : Search → Prop
  | ended {found : Bool} (answer : found = true ↔ program.LeadsBack target source) :
    Follows program source target (ended found)
  | ongoing {pending visited : List PointId}
      (led : ∀ point ∈ pending, program.LeadsBack target point)
      (begun : target ∈ visited ++ pending)
      (closed : ∀ point ∈ visited, ∀ earlier, program.Continues point earlier →
        earlier ∈ visited ++ pending)
      (missed : source ∉ visited) :
    Follows program source target (ongoing pending visited)

/-- A search from a target starts with the target alone. -/
theorem follows_start (program : Program) (source target : PointId) :
    Follows program source target (start target) :=
  .ongoing (List.forall_mem_singleton.mpr .refl) List.mem_cons_self nofun List.not_mem_nil

/-- When nothing is left to visit, everything that the target leads back to has been visited. -/
theorem Follows.not_leadsBack {visited : List PointId}
    (follows : Follows program source target (.ongoing [] visited)) :
    ¬ program.LeadsBack target source := by
  cases follows with
  | ongoing led begun closed missed =>
    simp only [List.append_nil] at begun closed
    intro chain
    suffices visits : ∀ point, program.LeadsBack target point → point ∈ visited from
      missed (visits source chain)
    intro point chain
    induction chain with
    | refl => exact begun
    | tail _ continues ih => exact closed _ ih _ continues

/-- Each round keeps to what holds of the search. -/
theorem Follows.round {search : Search} (follows : Follows program source target search) :
    Follows program source target (search.round program source) := by
  cases follows with
  | ended answer => exact .ended answer
  | @ongoing pending visited led begun closed missed =>
    cases pending with
    | nil =>
      have absent := (Follows.ongoing led begun closed missed).not_leadsBack
      exact .ended (iff_of_false Bool.false_ne_true absent)
    | cons current pending =>
      obtain ⟨here, later⟩ := List.forall_mem_cons.mp led
      simp only [Search.round]
      split
      · next isSource => exact .ended (iff_of_true rfl (isSource ▸ here))
      · next differ =>
        split
        · next again =>
          -- The current point stays among the visited ones when it is taken off the stack.
          have stays : ∀ point ∈ visited ++ current :: pending, point ∈ visited ++ pending := by
            simp only [List.mem_append, List.mem_cons]
            rintro point (before | rfl | after)
            · exact .inl before
            · exact .inl again
            · exact .inr after
          exact .ongoing later (stays _ begun)
            (fun point listed earlier continues => stays _ (closed point listed earlier continues))
            missed
        · have stays : ∀ point ∈ visited ++ current :: pending,
              point ∈ current :: visited ++ (program.incoming current ++ pending) := by
            simp only [List.mem_append, List.mem_cons]
            rintro point (before | rfl | after)
            · exact .inl (.inr before)
            · exact .inl (.inl rfl)
            · exact .inr (.inr after)
          refine .ongoing ?_ (stays _ begun) ?_ ?_
          · intro point listed
            rcases List.mem_append.mp listed with continued | after
            · exact here.tail continued
            · exact later point after
          · intro point listed earlier continues
            rcases List.mem_cons.mp listed with rfl | before
            · exact List.mem_append_right _ (List.mem_append_left _ continues)
            · exact stays _ (closed point before earlier continues)
          · rw [List.mem_cons, not_or]
            exact ⟨Ne.symm differ, missed⟩

/-- Any number of rounds keeps to what holds of the search. -/
theorem Follows.iterate {search : Search} (follows : Follows program source target search)
    (count : Nat) :
    Follows program source target ((Search.round program source)^[count] search) := by
  induction count generalizing search with
  | zero => exact follows
  | succ count ih => exact ih follows.round

/-- A search with nothing left to visit does not find the source any more. -/
theorem iterate_exhausted_ne (program : Program) (source : PointId) (visited : List PointId)
    (count : Nat) : (round program source)^[count] (ongoing [] visited) ≠ ended true := by
  intro found
  cases count with
  | zero => cases found
  | succ count =>
    rw [Function.iterate_succ_apply, round, Function.iterate_fixed rfl] at found
    cases found

/-- A search with a single point to visit finds the source only if the way back from that point
passes by it. -/
theorem reachesWithin_of_iterate {visited : List PointId} {count : Nat}
    (found : (round program source)^[count + 1] (ongoing [point] visited) = ended true) :
    program.reachesWithin source count point = true := by
  induction count generalizing point visited with
  | zero =>
    rw [Function.iterate_succ_apply, Function.iterate_zero_apply, round] at found
    rw [reachesWithin, beq_iff_eq]
    split at found
    · next isSource => exact isSource
    · split at found <;> cases found
  | succ count ih =>
    rw [Function.iterate_succ_apply, round] at found
    rw [reachesWithin, Bool.or_eq_true, beq_iff_eq]
    split at found
    · next isSource => exact .inl isSource
    · split at found
      · exact (iterate_exhausted_ne _ _ _ _ found).elim
      · cases before : program.predecessor? point with
        | none =>
          rw [incoming, before] at found
          exact (iterate_exhausted_ne _ _ _ _ found).elim
        | some previous =>
          rw [incoming, before] at found
          exact .inr (ih found)

/-- After as many rounds as there are points, and one more, a search has ended with the right
answer, or has visited everything in vain. -/
theorem iterate_start_cases (program : Program) (source target : PointId) :
    (∃ found, (round program source)^[program.size + 1] (start target) = ended found ∧
      (found = true ↔ program.LeadsBack target source)) ∨
    ∃ visited, (round program source)^[program.size + 1] (start target) = ongoing [] visited ∧
      ¬ program.LeadsBack target source := by
  have enough : (start target).remaining program ≤ program.size + 1 := by
    rw [start, remaining, card_unvisited_nil, List.length_singleton]
  have follows := (follows_start program source target).iterate (program.size + 1)
  rcases iterate_remaining enough with ⟨found, halted⟩ | ⟨visited, exhausted⟩
  · rw [halted] at follows
    cases follows with
    | ended answer => exact .inl ⟨found, halted, answer⟩
  · rw [exhausted] at follows
    exact .inr ⟨visited, exhausted, follows.not_leadsBack⟩

/-- One more round ends the search in any case. -/
theorem exists_iterate_ended (program : Program) (source target : PointId) :
    ∃ found, (round program source)^[program.size + 2] (start target) = ended found ∧
      (found = true ↔ program.LeadsBack target source) := by
  rw [Function.iterate_succ_apply']
  rcases iterate_start_cases program source target with
    ⟨found, halted, answer⟩ | ⟨_, exhausted, absent⟩
  · rw [halted]
    exact ⟨found, rfl, answer⟩
  · rw [exhausted]
    exact ⟨false, rfl, iff_of_false Bool.false_ne_true absent⟩

end Search

/-- What is met on the way back from a point is led back to. -/
theorem leadsBack_of_reachesWithin {steps : Nat}
    (reaches : program.reachesWithin source steps point = true) :
    program.LeadsBack point source := by
  induction steps generalizing point with
  | zero =>
    rw [reachesWithin, beq_iff_eq] at reaches
    rw [reaches]
  | succ steps ih =>
    rw [reachesWithin, Bool.or_eq_true, beq_iff_eq] at reaches
    rcases reaches with rfl | further
    · exact .refl
    · cases before : program.predecessor? point with
      | none =>
        rw [before] at further
        cases further
      | some previous =>
        rw [before] at further
        have continues : program.Continues point previous := by
          rw [Continues, incoming, before]
          exact List.mem_singleton_self previous
        exact .head continues (ih further)

/-- The bound on the way back cuts no chain short: a search would have come to its end before. -/
theorem isReachable_iff_leadsBack (program : Program) (source target : PointId) :
    program.isReachable source target = true ↔ program.LeadsBack target source := by
  refine ⟨leadsBack_of_reachesWithin, fun chain => ?_⟩
  rcases Search.iterate_start_cases program source target with
    ⟨found, halted, answer⟩ | ⟨_, _, absent⟩
  · rw [answer.mpr chain] at halted
    exact Search.reachesWithin_of_iterate halted
  · exact (absent chain).elim

/-- Adding a point keeps every step backwards. -/
theorem Continues.extend {earlier : PointId} (continues : program.Continues point earlier)
    (origin : PointId) (label : String) :
    (program.extend origin label).2.Continues point earlier := by
  rw [Continues, incoming, Option.mem_toList, predecessor?] at continues ⊢
  obtain ⟨found, present, previous⟩ := Option.bind_eq_some_iff.mp continues
  rw [get?_extend present, Option.bind_some, previous]

/-- A chain stays one while points are added, wherever they hang. -/
theorem LeadsBack.extendAll (chain : program.LeadsBack target source)
    (added : List (PointId × String)) : (program.extendAll added).LeadsBack target source := by
  induction added generalizing program with
  | nil => exact chain
  | cons new rest ih =>
    have kept : ∀ point earlier, program.Continues point earlier →
        (program.extend new.1 new.2).2.Continues point earlier :=
      fun _ _ continues => continues.extend new.1 new.2
    exact ih (Relation.ReflTransGen.mono kept _ _ chain)

/-- In every program, whatever its points continue, and for every source and target, whether they
exist or not, the search with a stack ends, and reachability is what it finds: the source is the
target, or a chain of predecessors leads back to it. Adding points keeps what is reachable
reachable. -/
theorem isReachable_decides (program : Program) (source target : PointId) :
    (∃ rounds ≤ program.size + 2, (Search.round program source)^[rounds] (.start target) =
      .ended (program.isReachable source target)) ∧
    (program.isReachable source target = true ↔
      source = target ∨ Relation.TransGen program.Continues target source) ∧
    ∀ added, program.isReachable source target = true →
      (program.extendAll added).isReachable source target = true := by
  refine ⟨?_, ?_, fun added reachable => ?_⟩
  · obtain ⟨found, halted, answer⟩ := Search.exists_iterate_ended program source target
    have same : found = program.isReachable source target := by
      rw [Bool.eq_iff_iff, answer, isReachable_iff_leadsBack]
    exact ⟨program.size + 2, Nat.le_refl _, by rw [halted, same]⟩
  · rw [isReachable_iff_leadsBack, LeadsBack, Relation.reflTransGen_iff_eq_or_transGen]
  · rw [isReachable_iff_leadsBack] at reachable ⊢
    exact reachable.extendAll added

/-- Two points that continue each other are reached from each other, also when a point is added that
continues one of them. -/
theorem circle_stays_reachable :
    let circle := initial.extendAll [(⟨2⟩, "first"), (⟨1⟩, "second")]
    circle.isReachable ⟨2⟩ ⟨1⟩ = true ∧
      (circle.extendAll [(⟨1⟩, "third")]).isReachable ⟨2⟩ ⟨1⟩ = true := by
  intro circle
  obtain ⟨-, -, stays⟩ := isReachable_decides circle ⟨2⟩ ⟨1⟩
  have reached : circle.isReachable ⟨2⟩ ⟨1⟩ = true := by decide
  exact ⟨reached, stays _ reached⟩

/-- A circle, a point that continues itself and a point that continues a missing one. -/
example :
    let program := initial.extendAll [(⟨2⟩, "a"), (⟨1⟩, "b"), (⟨3⟩, "c"), (⟨9⟩, "d")]
    program.isReachable ⟨2⟩ ⟨1⟩ = true ∧ program.isReachable ⟨9⟩ ⟨4⟩ = true ∧
      program.isReachable ⟨0⟩ ⟨1⟩ = false ∧ program.isReachable ⟨0⟩ ⟨3⟩ = false := by
  decide

end Program

end DataclassSynthesis
