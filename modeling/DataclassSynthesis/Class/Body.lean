import DataclassSynthesis.NameTable
import DataclassSynthesis.Span
import DataclassSynthesis.Value.Basic

/-!
# Class bodies

A class body is the list of its statements in source order. Each statement annotates a name with a
type or assigns a value to it. The body alone determines the tables of a fresh class and the
ordered views from which attributes are collected.
-/

namespace DataclassSynthesis

/-- What a statement does to its name. -/
inductive Effect where
  | annotate (type : TypeId)
  | assign (value : Variable)

/-- One statement of a class body. -/
structure Statement where
  name : String
  effect : Effect
  span : Span

/-- The statements of a class body, in source order. -/
abbrev Body := List Statement

namespace Statement

/-- The type with which the statement annotates its name. -/
def annotated? (statement : Statement) : Option TypeId :=
  match statement.effect with
  | .annotate type => some type
  | .assign _ => none

/-- The value that the statement assigns to its name. -/
def assigned? (statement : Statement) : Option Variable :=
  match statement.effect with
  | .annotate _ => none
  | .assign value => some value

end Statement

/-- Names that begin and end with two underscores, and have something between them, belong to the
language itself. -/
def isDunder (name : String) : Bool :=
  decide (4 < name.length) && ['_', '_'].isPrefixOf name.toList &&
    ['_', '_'].isSuffixOf name.toList

/-- What a class body says about one name: its last type, its last value, and the span of its
first annotation, or of its first assignment when it is never annotated. -/
structure LocalSummary where
  type : Option TypeId
  value : Option Variable
  span : Span

/-- Whether the name is a method: never annotated, and assigned a function last. -/
def LocalSummary.isMethod (summary : LocalSummary) : Bool :=
  summary.type.isNone && summary.value.any Variable.isFunction

/-- The order in which the names of a body are listed. -/
inductive LocalOrder where
  /-- Annotated names only, each where it is annotated first. -/
  | firstAnnotated
  /-- Assigned names only, each where it is assigned last. -/
  | lastAssigned
deriving DecidableEq

namespace Body

/-- The statements about one name. -/
def about (body : Body) (name : String) : Body :=
  body.filter fun statement => statement.name == name

/-- The statements that annotate their name. -/
def annotations (body : Body) : List (String × TypeId) :=
  body.filterMap fun statement => statement.annotated?.map fun type => (statement.name, type)

/-- The statements that assign to their name. -/
def assignments (body : Body) : List (String × Variable) :=
  body.filterMap fun statement => statement.assigned?.map fun value => (statement.name, value)

/-- What the body says about one name. -/
def summary (body : Body) (name : String) : LocalSummary :=
  let statements := body.about name
  { type := (statements.filterMap Statement.annotated?).getLast?
    value := (statements.filterMap Statement.assigned?).getLast?
    span := match statements.find? (·.annotated?.isSome), statements.head? with
      | some statement, _ => statement.span
      | none, some statement => statement.span
      | none, none => Span.unknown }

/-- The names of a body in the given order, with repetitions. -/
def namesIn (body : Body) : LocalOrder → List String
  | .firstAnnotated => body.annotations.map Prod.fst
  | .lastAssigned => body.assignments.map Prod.fst

/-- The summaries of the names of a body, each name once. Names of the language itself are left
out, and so are methods unless they are allowed. -/
def locals (body : Body) (allowMethods : Bool) (order : LocalOrder) : NameTable LocalSummary :=
  let listed := (body.namesIn order).filter fun name =>
    !isDunder name && (allowMethods || !(body.summary name).isMethod)
  listed.foldl (fun table name =>
    match order with
    | .firstAnnotated => table.insert name (body.summary name)
    | .lastAssigned => (table.erase name).insert name (body.summary name)) NameTable.empty

/-- A name that is annotated again, with the spans of its first and of its second annotation. -/
structure Repetition where
  name : String
  first : Span
  second : Span
deriving DecidableEq

/-- The annotating statements that repeat a name for the first time, given the names and spans of
the statements before them. -/
def repetitionsAfter (earlier : List (String × Span)) : Body → List Repetition
  | [] => []
  | statement :: rest =>
    if statement.annotated?.isNone then repetitionsAfter earlier rest
    else
      let later := repetitionsAfter (earlier ++ [(statement.name, statement.span)]) rest
      match earlier.filter fun entry => entry.1 == statement.name with
      | [(_, first)] => ⟨statement.name, first, statement.span⟩ :: later
      | _ => later

/-- The names that are annotated more than once, in the order of their second annotations. -/
def repetitions (body : Body) : List Repetition := repetitionsAfter [] body

end Body

end DataclassSynthesis
