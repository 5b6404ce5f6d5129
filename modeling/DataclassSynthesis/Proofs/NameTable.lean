import DataclassSynthesis.NameTable
import Mathlib.Data.List.Induction

/-!
# Lookups in name tables

Storing and erasing under one name changes the lookup of that name only. A table that is filled
from a list lists the distinct names of the list in the order in which they occur first, with their
last values, or in the order in which they occur last, if each name is erased before it is stored.
-/

namespace DataclassSynthesis

/-- A name at the end is new, or a duplicate that is left out. -/
theorem eraseDups_concat (names : List String) (name : String) :
    (names ++ [name]).eraseDups =
      if name ∈ names then names.eraseDups else names.eraseDups ++ [name] := by
  rw [List.eraseDups_append]
  by_cases present : name ∈ names
  · simp [List.removeAll, present]
  · simp [List.removeAll, present, List.eraseDups_cons]

/-- Dropping some of the names and dropping repetitions commute. -/
theorem eraseDups_filter (keep : String → Bool) (names : List String) :
    (names.filter keep).eraseDups = names.eraseDups.filter keep := by
  induction names using List.reverseRecOn with
  | nil => rfl
  | append_singleton names name ih =>
    rw [List.filter_append, eraseDups_concat, apply_ite (List.filter keep), List.filter_append,
      ← ih]
    cases kept : keep name with
    | false => simp [kept]
    | true => simp [kept, eraseDups_concat]

namespace NameTable

variable {α : Type}

@[simp] theorem find?_insert_self (table : NameTable α) (name : String) (value : α) :
    (table.insert name value).find? name = some value := by
  obtain ⟨entries, distinct⟩ := table
  simp only [find?, insert]
  induction entries with
  | nil => simp [replaceOrAppend]
  | cons head tail ih =>
    by_cases same : head.1 = name
    · simp [replaceOrAppend, same]
    · simpa [replaceOrAppend, same] using ih (List.nodup_cons.mp distinct).2

/-- Storing under a name keeps what every other name denotes. -/
theorem find?_insert_of_ne (table : NameTable α) {name other : String} (value : α)
    (differ : other ≠ name) : (table.insert name value).find? other = table.find? other := by
  obtain ⟨entries, distinct⟩ := table
  simp only [find?, insert]
  induction entries with
  | nil => simp [replaceOrAppend, differ.symm]
  | cons head tail ih =>
    have rest := ih (List.nodup_cons.mp distinct).2
    by_cases same : head.1 = name
    · simp [replaceOrAppend, same, differ.symm]
    · by_cases found : head.1 = other
      · simp [replaceOrAppend, found, differ]
      · simpa [replaceOrAppend, same, found, List.find?_cons] using rest

@[simp] theorem find?_erase_self (table : NameTable α) (name : String) :
    (table.erase name).find? name = none := by
  simp only [find?, erase, Option.map_eq_none_iff, List.find?_eq_none, List.mem_filter]
  rintro entry ⟨-, differ⟩
  simpa using differ

theorem find?_erase_of_ne (table : NameTable α) {name other : String} (differ : other ≠ name) :
    (table.erase name).find? other = table.find? other := by
  simp only [find?, erase, List.find?_filter]
  congr 2
  funext entry
  by_cases found : entry.1 = other
  · simp [found, differ]
  · simp [found]

/-- A name is present when a value is found under it. -/
theorem contains_eq_isSome_find? (table : NameTable α) (name : String) :
    table.contains name = (table.find? name).isSome := by
  rw [Bool.eq_iff_iff, contains, find?, Option.isSome_map, List.find?_isSome, List.any_eq_true]

theorem contains_eq_false_iff {table : NameTable α} {name : String} :
    table.contains name = false ↔ table.find? name = none := by
  rw [contains_eq_isSome_find?, Option.isSome_eq_false_iff, Option.isNone_iff_eq_none]

/-- A table contains an inserted name beside those that it contained. -/
theorem contains_insert (table : NameTable α) (name other : String) (value : α) :
    (table.insert name value).contains other = (other == name || table.contains other) := by
  rw [contains_eq_isSome_find?, contains_eq_isSome_find?]
  by_cases same : other = name
  · rw [same, find?_insert_self, beq_self_eq_true, Bool.true_or, Option.isSome_some]
  · rw [find?_insert_of_ne table value same, beq_eq_false_iff_ne.mpr same, Bool.false_or]

theorem contains_erase (table : NameTable α) (name other : String) :
    (table.erase name).contains other = (other != name && table.contains other) := by
  rw [contains_eq_isSome_find?, contains_eq_isSome_find?]
  by_cases same : other = name
  · rw [same, find?_erase_self, bne_self_eq_false, Bool.false_and, Option.isSome_none]
  · rw [find?_erase_of_ne table same, bne_iff_ne.mpr same, Bool.true_and]

theorem mem_keys_of_find? {table : NameTable α} {name : String} {value : α}
    (found : table.find? name = some value) : name ∈ table.keys := by
  obtain ⟨entry, first, -⟩ := Option.map_eq_some_iff.mp found
  have named : entry.1 = name := by simpa using List.find?_some first
  exact List.mem_map.mpr ⟨entry, List.mem_of_find?_eq_some first, named⟩

/-- The last entry of a list is inserted last. -/
theorem ofList_concat (entries : List (String × α)) (entry : String × α) :
    ofList (entries ++ [entry]) = (ofList entries).insert entry.1 entry.2 := List.foldl_append

/-- A table lists the names that it is filled with where they occur first. -/
theorem keys_ofList (entries : List (String × α)) :
    (ofList entries).keys = (entries.map Prod.fst).eraseDups := by
  induction entries using List.reverseRecOn with
  | nil => rfl
  | append_singleton entries entry ih =>
    simp only [ofList_concat, keys_insert, ih, List.mem_eraseDups, List.map_append, List.map_cons,
      List.map_nil, eraseDups_concat]

/-- A table holds the values that it is filled with last. -/
theorem find?_ofList (entries : List (String × α)) (name : String) :
    (ofList entries).find? name =
      ((entries.filter fun entry => entry.1 == name).map Prod.snd).getLast? := by
  induction entries using List.reverseRecOn with
  | nil => rfl
  | append_singleton entries entry ih =>
    rw [ofList_concat]
    by_cases same : entry.1 = name
    · subst same
      simp
    · rw [find?_insert_of_ne _ _ fun equal => same equal.symm, ih]
      simp [same]

/-- The names of a table are those of the list that it is made from. -/
theorem mem_keys_ofList {name : String} (entries : List (String × α)) :
    name ∈ (ofList entries).keys ↔ name ∈ entries.map Prod.fst := by
  rw [keys_ofList, List.mem_eraseDups]

/-- The entries of a table are its names, each with what is found under it. -/
theorem map_find?_keys (table : NameTable α) :
    (table.keys.map fun name => (name, table.find? name)) =
      table.entries.map fun entry => (entry.1, some entry.2) := by
  obtain ⟨entries, distinct⟩ := table
  simp only [keys, find?, List.map_map]
  refine List.map_congr_left fun entry listed => ?_
  have found : entries.find? (fun other => other.1 == entry.1) = some entry := by
    induction entries with
    | nil => cases listed
    | cons first rest ih =>
      obtain ⟨fresh, others⟩ := List.nodup_cons.mp distinct
      rcases List.mem_cons.mp listed with rfl | later
      · simp
      · have differ : ¬ first.1 = entry.1 := fun same => fresh (same ▸ List.mem_map_of_mem later)
        rw [List.find?_cons_of_neg (by simpa using differ), ih others later]
  simp [found]

/-- A name denotes the value that it is listed with. -/
theorem find?_eq_some_iff_mem {table : NameTable α} {name : String} {value : α} :
    table.find? name = some value ↔ (name, value) ∈ table.entries := by
  constructor
  · intro found
    obtain ⟨entry, first, rfl⟩ := Option.map_eq_some_iff.mp found
    obtain rfl : entry.1 = name := by simpa using List.find?_some first
    exact List.mem_of_find?_eq_some first
  · intro listed
    have described : (name, some value) ∈ table.entries.map fun entry => (entry.1, some entry.2) :=
      List.mem_map.mpr ⟨(name, value), listed, rfl⟩
    rw [← map_find?_keys] at described
    obtain ⟨key, -, same⟩ := List.mem_map.mp described
    obtain ⟨rfl, found⟩ := Prod.mk.inj same
    exact found

/-- What a name denotes does not depend on the order of the entries. -/
theorem find?_eq_of_perm {left right : NameTable α} (same : left.entries.Perm right.entries)
    (name : String) : left.find? name = right.find? name :=
  Option.ext fun value => by rw [find?_eq_some_iff_mem, find?_eq_some_iff_mem, same.mem_iff]

/-- Storing what a name denotes by its own description keeps a table of descriptions one, and lists
a new name last. -/
theorem entries_insert_described {describe : String → α} {table : NameTable α}
    {held : List String} (listed : table.entries = held.map fun name => (name, describe name))
    (name : String) :
    (table.insert name (describe name)).entries =
      (if name ∈ held then held else held ++ [name]).map fun name => (name, describe name) := by
  simp only [insert, listed]
  clear listed
  induction held with
  | nil => rfl
  | cons head tail ih =>
    by_cases same : head = name
    · simp [replaceOrAppend, same]
    · have differs : ¬ name = head := fun equal => same equal.symm
      simp only [List.map_cons, replaceOrAppend, beq_iff_eq, same, ↓reduceIte, ih,
        List.mem_cons, differs, false_or]
      split <;> simp

/-- Filling a table of descriptions lists each name where it occurs first. -/
theorem entries_foldl_insert_described (describe : String → α) (names : List String) :
    (names.foldl (fun table name => table.insert name (describe name)) empty).entries =
      names.eraseDups.map fun name => (name, describe name) := by
  induction names using List.reverseRecOn with
  | nil => rfl
  | append_singleton names name ih =>
    rw [List.foldl_append, List.foldl_cons, List.foldl_nil, entries_insert_described ih,
      eraseDups_concat]
    simp only [List.mem_eraseDups]

/-- Storing what a name denotes by its own description, after forgetting the name, lists it last. -/
theorem entries_relocate_described {describe : String → α} {table : NameTable α}
    {held : List String} (listed : table.entries = held.map fun name => (name, describe name))
    (name : String) :
    ((table.erase name).insert name (describe name)).entries =
      (held.filter (· != name) ++ [name]).map fun name => (name, describe name) := by
  have rest : (table.erase name).entries =
      (held.filter (· != name)).map fun name => (name, describe name) := by
    simp only [erase, listed, List.filter_map]
    rfl
  have missing : name ∉ held.filter (· != name) := by simp
  rw [entries_insert_described rest, if_neg missing]

/-- Filling a table of descriptions with relocation lists each name where it occurs last. -/
theorem entries_foldl_relocate_described (describe : String → α) (names : List String) :
    (names.foldl (fun table name => (table.erase name).insert name (describe name)) empty).entries =
      names.reverse.eraseDups.reverse.map fun name => (name, describe name) := by
  induction names using List.reverseRecOn with
  | nil => rfl
  | append_singleton names name ih =>
    rw [List.foldl_append, List.foldl_cons, List.foldl_nil, entries_relocate_described ih,
      List.reverse_concat, List.eraseDups_cons, List.reverse_cons, eraseDups_filter,
      ← List.filter_reverse]
    rfl

end NameTable

end DataclassSynthesis
