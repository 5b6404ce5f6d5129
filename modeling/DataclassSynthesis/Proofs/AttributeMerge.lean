import DataclassSynthesis.Dataclass.Attribute
import Mathlib.Data.List.Induction

/-!
# Laws of merging

Merging keeps the names of a list distinct, overwrites what it has merged before under the same
name, and commutes with merging other names in once the name has its place. Hence merging a list
that was merged before has the effect of merging its parts one after the other
(`DataclassSynthesis.Attribute.mergeAll_mergeAll`).
-/

namespace DataclassSynthesis

namespace Attribute

/-- Merging an attribute keeps the order of the names, and adds a new name at the end. -/
theorem map_name_merge (attrs : List Attribute) (attr : Attribute) :
    (merge attrs attr).map name =
      if attr.name ∈ attrs.map name then attrs.map name else attrs.map name ++ [attr.name] := by
  induction attrs with
  | nil => rfl
  | cons head tail ih =>
    by_cases same : head.name = attr.name
    · simp [merge, replaceOrAppend, same]
    · have differs : ¬ attr.name = head.name := fun equal => same equal.symm
      simp only [merge] at ih
      simp only [merge, replaceOrAppend, beq_iff_eq, same, ↓reduceIte, List.map_cons, ih,
        List.mem_cons, differs, false_or]
      split <;> simp

theorem name_mem_map_merge (attrs : List Attribute) (attr : Attribute) :
    attr.name ∈ (merge attrs attr).map name := by
  rw [map_name_merge]
  split
  · assumption
  · simp

/-- Merging an attribute repeats no name. -/
theorem nodup_merge {attrs : List Attribute} (distinct : (attrs.map name).Nodup)
    (attr : Attribute) : ((merge attrs attr).map name).Nodup := by
  rw [map_name_merge]
  split
  · exact distinct
  · next missing =>
    refine List.nodup_append.mpr ⟨distinct, by simp, ?_⟩
    intro present member other single equal
    exact missing (List.mem_singleton.mp single ▸ equal ▸ member)

theorem nodup_mergeAll (added : List Attribute) {attrs : List Attribute}
    (distinct : (attrs.map name).Nodup) : ((mergeAll attrs added).map name).Nodup := by
  induction added generalizing attrs with
  | nil => exact distinct
  | cons head tail ih => exact ih (nodup_merge distinct head)

/-- A later attribute of the same name overwrites the one merged before. -/
theorem merge_merge_same {first second : Attribute} (attrs : List Attribute)
    (same : first.name = second.name) : merge (merge attrs first) second = merge attrs second := by
  induction attrs with
  | nil => simp [merge, replaceOrAppend, same]
  | cons head tail ih =>
    simp only [merge, same] at ih ⊢
    by_cases found : head.name = second.name
    · simp [replaceOrAppend, found, same]
    · simp [replaceOrAppend, found, ih]

/-- Once a name has its place, merging it commutes with merging another name. -/
theorem merge_comm {first second : Attribute} {attrs : List Attribute}
    (differ : first.name ≠ second.name) (placed : second.name ∈ attrs.map name) :
    merge (merge attrs first) second = merge (merge attrs second) first := by
  induction attrs with
  | nil => cases placed
  | cons head tail ih =>
    simp only [merge] at ih ⊢
    by_cases isSecond : head.name = second.name
    · simp [replaceOrAppend, isSecond, differ.symm]
    · have later : second.name ∈ tail.map name := by
        rcases List.mem_cons.mp placed with here | later
        · exact (isSecond here.symm).elim
        · exact later
      by_cases isFirst : head.name = first.name
      · simp [replaceOrAppend, isFirst, differ]
      · simp [replaceOrAppend, isFirst, isSecond, ih later]

/-- Merging a list of other names commutes with merging a name that has its place. -/
theorem merge_mergeAll_comm {attr : Attribute} {added : List Attribute}
    (other : attr.name ∉ added.map name) {attrs : List Attribute}
    (placed : attr.name ∈ attrs.map name) :
    merge (mergeAll attrs added) attr = mergeAll (merge attrs attr) added := by
  induction added generalizing attrs with
  | nil => rfl
  | cons head tail ih =>
    have differ : head.name ≠ attr.name := fun equal => other (equal ▸ List.mem_cons_self)
    have rest : attr.name ∉ tail.map name := fun member => other (List.mem_cons_of_mem _ member)
    have stays : attr.name ∈ (merge attrs head).map name := by
      rw [map_name_merge]
      split
      · exact placed
      · exact List.mem_append_left _ placed
    change merge (mergeAll (merge attrs head) tail) attr =
      mergeAll (merge (merge attrs attr) head) tail
    rw [ih rest stays, merge_comm differ placed]

/-- Merging a list into which an attribute was merged is merging the list and then the
attribute. -/
theorem mergeAll_merge {added : List Attribute} (distinct : (added.map name).Nodup)
    (attrs : List Attribute) (attr : Attribute) :
    mergeAll attrs (merge added attr) = merge (mergeAll attrs added) attr := by
  induction added generalizing attrs with
  | nil => rfl
  | cons head tail ih =>
    obtain ⟨fresh, distinct⟩ := List.nodup_cons.mp distinct
    by_cases same : head.name = attr.name
    · have first : merge (head :: tail) attr = attr :: tail := by
        simp [merge, replaceOrAppend, same]
      rw [first]
      change mergeAll (merge attrs attr) tail = merge (mergeAll (merge attrs head) tail) attr
      rw [merge_mergeAll_comm (same ▸ fresh) (same ▸ name_mem_map_merge attrs head),
        merge_merge_same attrs same]
    · have later : merge (head :: tail) attr = head :: merge tail attr := by
        simp [merge, replaceOrAppend, same]
      rw [later]
      exact ih distinct (merge attrs head)

/-- Merging two lists one after the other is merging them as one list. -/
theorem mergeAll_append (attrs first second : List Attribute) :
    mergeAll attrs (first ++ second) = mergeAll (mergeAll attrs first) second :=
  List.foldl_append

/-- Merging a merged list is merging the list it was merged from. -/
theorem mergeAll_mergeAll (attrs added : List Attribute) :
    mergeAll attrs (mergeAll [] added) = mergeAll attrs added := by
  -- The last attribute of the list is the one that is merged last on both sides.
  induction added using List.reverseRecOn with
  | nil => rfl
  | append_singleton init last ih =>
    calc mergeAll attrs (mergeAll [] (init ++ [last]))
        = mergeAll attrs (merge (mergeAll [] init) last) := by rw [mergeAll_append]; rfl
      _ = merge (mergeAll attrs (mergeAll [] init)) last :=
          mergeAll_merge (nodup_mergeAll init (by simp)) attrs last
      _ = mergeAll attrs (init ++ [last]) := by rw [ih, mergeAll_append]; rfl

end Attribute

end DataclassSynthesis
