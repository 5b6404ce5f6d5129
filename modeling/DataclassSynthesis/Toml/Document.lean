import DataclassSynthesis.Toml.Expression

/-!
# TOML documents

A document is assembled from its expressions. A pair belongs to the table of the last header, and
a header must not define a table again; tables that other headers only passed through may still be
defined.
-/

namespace DataclassSynthesis.Toml

/-- A document that is being assembled: what it holds, and the path of the table that pairs are
added to. -/
structure Assembly where
  root : Entries
  current : List String

namespace Assembly

/-- Edit the table at a path of headers. -/
def editHeader (root : Entries) (path : List String)
    (edit : Origin → Entries → Option Entries) : Option Entries :=
  Entries.editAt Entries.openToHeaders .implied edit path .header root

/-- Give a table a header of its own. -/
def define (name : String) (entries : Entries) : Option Entries :=
  match entries.valueOf? name with
  | none => some (entries.add name (.table .header []))
  | some (.table .implied inner) => some (entries.replace name (.table .header inner))
  | some _ => none

/-- Start the next one of repeated tables. -/
def repeatTable (name : String) (entries : Entries) : Option Entries :=
  match entries.valueOf? name with
  | none => some (entries.add name (.tables [] []))
  | some (.tables earlier last) =>
    some (entries.replace name (.tables (earlier ++ [last]) []))
  | some _ => none

/-- Add one expression. -/
def step (assembly : Assembly) : Expression → Option Assembly
  | .pair key value => do
    let root ← editHeader assembly.root assembly.current (Entries.insertPair key value)
    pure { assembly with root := root }
  | .header key => do
    let root ← editHeader assembly.root key.path fun _ => define key.name
    pure ⟨root, key.path ++ [key.name]⟩
  | .repeatedHeader key => do
    let root ← editHeader assembly.root key.path fun _ => repeatTable key.name
    pure ⟨root, key.path ++ [key.name]⟩

end Assembly

/-- The mark that may stand in front of a text to tell its encoding. -/
def byteOrderMark : Char := '\ufeff'

/-- Read a document. -/
def read? (text : String) : Option Entries := do
  let chars := match text.toList with
    | first :: rest => if first = byteOrderMark then rest else first :: rest
    | [] => []
  let lines ← expressions.read? chars
  let assembly ← lines.foldlM Assembly.step ⟨[], []⟩
  pure assembly.root

end DataclassSynthesis.Toml
