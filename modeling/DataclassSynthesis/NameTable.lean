/-!
# Tables keyed by names

A name table holds at most one value per name and keeps its entries in the order in which the
names were first inserted. Inserting under a present name replaces the value where it stands, and
erasing a name closes the gap. Class members, annotated names and keyword arguments are all kept
this way, because the order in which a class body introduces its names is visible in the result.
-/

namespace DataclassSynthesis

/-- Replace the first element that `same` accepts, or append when there is none. -/
def replaceOrAppend {α : Type} (same : α → Bool) (item : α) : List α → List α
  | [] => [item]
  | head :: tail => if same head then item :: tail else head :: replaceOrAppend same item tail

/-- Replacing keeps the names, and appending adds the one that was missing. -/
theorem map_fst_replaceOrAppend {α : Type} (name : String) (value : α)
    (entries : List (String × α)) :
    (replaceOrAppend (fun entry => entry.1 == name) (name, value) entries).map Prod.fst =
      if name ∈ entries.map Prod.fst then entries.map Prod.fst
      else entries.map Prod.fst ++ [name] := by
  induction entries with
  | nil => rfl
  | cons head tail ih =>
    by_cases same : head.1 = name
    · simp [replaceOrAppend, same]
    · have differs : ¬ name = head.1 := fun equal => same equal.symm
      simp only [replaceOrAppend, beq_iff_eq, same, ↓reduceIte, List.map_cons, ih,
        List.mem_cons, differs, false_or]
      split <;> simp

/-- An insertion-ordered table with distinct names. -/
structure NameTable (α : Type) where
  entries : List (String × α)
  distinct : (entries.map Prod.fst).Nodup

namespace NameTable

variable {α : Type}

/-- The table without entries. -/
def empty : NameTable α := ⟨[], List.nodup_nil⟩

instance : EmptyCollection (NameTable α) := ⟨empty⟩

/-- Tables with the same entries are equal. -/
@[ext] theorem ext {left right : NameTable α} (same : left.entries = right.entries) :
    left = right := by
  cases left
  cases right
  cases same
  rfl

/-- The names of the table, in order of first insertion. -/
def keys (table : NameTable α) : List String := table.entries.map Prod.fst

/-- The value stored under a name. -/
def find? (table : NameTable α) (name : String) : Option α :=
  (table.entries.find? fun entry => entry.1 == name).map Prod.snd

/-- Whether a value is stored under a name. -/
def contains (table : NameTable α) (name : String) : Bool :=
  table.entries.any fun entry => entry.1 == name

/-- Store a value under a name: in place when the name is present, at the end otherwise. -/
def insert (table : NameTable α) (name : String) (value : α) : NameTable α where
  entries := replaceOrAppend (fun entry => entry.1 == name) (name, value) table.entries
  distinct := by
    rw [map_fst_replaceOrAppend]
    split
    · exact table.distinct
    · next missing =>
      refine List.nodup_append.mpr ⟨table.distinct, by simp, ?_⟩
      intro key present other single equal
      exact missing (List.mem_singleton.mp single ▸ equal ▸ present)

/-- Remove a name, keeping the order of the others. -/
def erase (table : NameTable α) (name : String) : NameTable α where
  entries := table.entries.filter fun entry => entry.1 != name
  distinct := List.Nodup.sublist (List.filter_sublist.map _) table.distinct

/-- Insert a list of entries from left to right. -/
def ofList (entries : List (String × α)) : NameTable α :=
  entries.foldl (fun table entry => table.insert entry.1 entry.2) empty

/-- Inserting keeps the names, and adds a missing one at the end. -/
theorem keys_insert (table : NameTable α) (name : String) (value : α) :
    (table.insert name value).keys =
      if name ∈ table.keys then table.keys else table.keys ++ [name] :=
  map_fst_replaceOrAppend name value table.entries

/-- Erasing removes exactly the erased name. -/
theorem keys_erase (table : NameTable α) (name : String) :
    (table.erase name).keys = table.keys.filter (· != name) := by
  simp only [keys, erase, List.filter_map]
  rfl

end NameTable

end DataclassSynthesis
