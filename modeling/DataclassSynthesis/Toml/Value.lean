/-!
# TOML values

A value remembers how its tables came about, because that decides what may be added to them later:
an inline table is closed, a table made by dotted keys is open to dotted keys, and a table that a
header only passed through may still get a header of its own.
-/

namespace DataclassSynthesis.Toml

/-- How a table came about. -/
inductive Origin where
  /-- Written in braces. -/
  | inline
  /-- Made by the dotted key of a pair. -/
  | dotted
  /-- Passed through by a header of a table below it. -/
  | implied
  /-- Given a header of its own, or the document itself. -/
  | header
deriving DecidableEq

/-- A value of a document. Numbers without a use here, dates and times are kept as written. -/
inductive Value where
  | string (text : String)
  | integer (value : Int)
  | float (literal : String)
  | boolean (value : Bool)
  | moment (literal : String)
  | array (items : List Value)
  | table (origin : Origin) (entries : List (String × Value))
  /-- Tables with repeated headers; the last one is still being filled. -/
  | tables (earlier : List (List (String × Value))) (last : List (String × Value))

/-- The contents of a table. -/
abbrev Entries := List (String × Value)

namespace Entries

/-- The value of a key. -/
def valueOf? (entries : Entries) (key : String) : Option Value :=
  (List.find? (fun entry => entry.1 == key) entries).map Prod.snd

/-- Give a key that is present another value. -/
def replace (entries : Entries) (key : String) (value : Value) : Entries :=
  entries.map fun entry => if entry.1 == key then (key, value) else entry

/-- Add a key that is not present. -/
def add (entries : Entries) (key : String) (value : Value) : Entries := entries ++ [(key, value)]

/-- Edit the table at a path. Missing tables on the way are made with the origin `fresh`; a table
may be entered when `mayEnter` holds of its origin, and of repeated tables the last one is
entered. -/
def editAt (mayEnter : Origin → Bool) (fresh : Origin)
    (edit : Origin → Entries → Option Entries) :
    List String → Origin → Entries → Option Entries
  | [], origin, entries => edit origin entries
  | key :: path, _, entries =>
    match entries.valueOf? key with
    | none => do
      let inner ← editAt mayEnter fresh edit path fresh []
      pure (entries.add key (.table fresh inner))
    | some (.table origin inner) =>
      if mayEnter origin then do
        let inner ← editAt mayEnter fresh edit path origin inner
        pure (entries.replace key (.table origin inner))
      else none
    | some (.tables earlier last) => do
      let last ← editAt mayEnter fresh edit path .header last
      pure (entries.replace key (.tables earlier last))
    | some _ => none

/-- Whether a dotted key may enter a table. -/
def openToDots : Origin → Bool
  | .dotted | .implied => true
  | .inline | .header => false

/-- Whether a header may enter a table. -/
def openToHeaders : Origin → Bool
  | .inline => false
  | .dotted | .implied | .header => true

/-- A key with the path of tables before it. -/
structure Key where
  path : List String
  name : String

/-- Add a pair to the entries of a table. A dotted key ends in a table made by dotted keys and a
plain key in any other; the last part of the key must be new. -/
def insertPair (key : Key) (value : Value) (origin : Origin) (entries : Entries) :
    Option Entries :=
  editAt openToDots .dotted (fun reached inner =>
    if (reached == .dotted) == key.path.isEmpty then none
    else if (inner.valueOf? key.name).isSome then none
    else some (inner.add key.name value)) key.path origin entries

/-- The contents of an inline table. -/
def ofPairs? (pairs : List (Key × Value)) : Option Entries :=
  pairs.foldlM (fun entries (key, value) => insertPair key value .inline entries) []

end Entries

end DataclassSynthesis.Toml
