import DataclassSynthesis.Analysis.Match
import DataclassSynthesis.Dataclass.Constructor
import DataclassSynthesis.Dataclass.Inheritance
import DataclassSynthesis.Dataclass.Member
import DataclassSynthesis.Dataclass.Options

/-!
# Decorating a class

Decoration turns the annotated names of a class body into attributes, in the order of their first
annotations, merges them into the inherited ones, stores the result on the class, and adds a
constructor unless the class has one. Collecting reads the recorded body only, so it is not misled
by the edits that decoration makes to the tables of the class.
-/

namespace DataclassSynthesis

namespace Decoration

/-- Put an instance of the declared type in the place of a member. -/
def storeInstance (id : ClassId) (name : String) (type : TypeId) : AnalysisM Unit := do
  let state ← get
  AnalysisM.modifyClass id fun object => object.setMember name (state.instanceAt type)

/-- Adjust the tables for a name that is not stored. With a default it keeps its class member and
is annotated with the unwrapped type; without one it disappears. -/
def adjustInitVariable (id : ClassId) (name : String) (inner : TypeId) (assigned : Bool) :
    AnalysisM Unit :=
  AnalysisM.modifyClass id fun object =>
    if assigned then object.setAnnotated name inner else object.forget name

/-- Record the first binding of a default that does not have the declared type. -/
def checkDefault (name : String) (type : TypeId) (default : Option Variable) (span : Span) :
    AnalysisM Unit :=
  match default with
  | none => pure ()
  | some value => do
    let state ← get
    let bad ← AnalysisM.badMatchesAt value type state.point
    match bad.head? with
    | some first => AnalysisM.recordMismatch first name span
    | none => pure ()

/-- Edit the class for one annotated name of the given kind, and give its attribute. -/
def collectKind (id : ClassId) (name : String) (type : TypeId) (value : Option Variable) :
    MemberKind → AnalysisM (Option Attribute)
  | .classVariable => pure none
  | .initVariable inner => do
    adjustInitVariable id name inner value.isSome
    let _ ← AnalysisM.instantiate inner
    pure (some ⟨name, inner, true, value⟩)
  | .field descriptor => do
    storeInstance id name type
    let default := if descriptor.default.isSome then descriptor.effective else none
    pure (some ⟨name, type, descriptor.init, default⟩)
  | .plain => do
    storeInstance id name type
    pure (some ⟨name, type, true, value⟩)

/-- Process one name of the class body. -/
def collectLocal (id : ClassId) (name : String) (summary : LocalSummary) :
    AnalysisM (List Attribute) :=
  match summary.type with
  | none => pure []
  | some type => do
    let state ← get
    let kind := MemberKind.of state.types type summary.value
    match ← collectKind id name type summary.value kind with
    | none => pure []
    | some attr => do
      checkDefault name attr.type attr.default summary.span
      pure [attr]

/-- Process the names of the class body in order. -/
def collect (id : ClassId) : List (String × LocalSummary) → AnalysisM (List Attribute)
  | [] => pure []
  | (name, summary) :: rest => do
    let first ← collectLocal id name summary
    let others ← collect id rest
    pure (first ++ others)

/-- Report every name that the body annotates more than once. -/
def reportRepetitions : List Body.Repetition → AnalysisM Unit
  | [] => pure ()
  | repetition :: rest => do
    AnalysisM.warn (.annotatedTwice repetition.name repetition.first repetition.second)
    reportRepetitions rest

/-- Report a required constructor parameter that follows one with a default. -/
def reportOrder (object : ClassObject) (attrs : List Attribute) : AnalysisM Unit :=
  match Attribute.requiredAfterDefault attrs with
  | some attr => AnalysisM.warn (.requiredAfterDefault object.name attr.name object.span)
  | none => pure ()

/-- Add the constructor, unless it is not wanted or the class has one. -/
def installConstructor (options : Options) (id : ClassId) (attrs : List Attribute) :
    AnalysisM Unit := do
  let object ← AnalysisM.getClass id
  if options.init && !object.members.contains constructorName then
    let state ← get
    let constructor ← AnalysisM.ofExcept (state.constructor? id attrs)
    AnalysisM.modifyClass id fun current => current.setMember constructorName constructor

/-- Decorate a class with the given options. The result is the current point at the end. -/
def decorate (options : Options) (id : ClassId) : AnalysisM PointId := do
  let object ← AnalysisM.getClass id
  reportRepetitions object.body.repetitions
  let own ← collect id (object.body.locals true .firstAnnotated).entries
  let state ← get
  let inherited ← AnalysisM.ofExcept (state.classes.inherited id)
  let attrs := Attribute.mergeAll inherited own
  reportOrder object attrs
  AnalysisM.modifyClass id fun current => current.setFields (some attrs)
  installConstructor options id attrs
  let state ← get
  pure state.point

end Decoration

end DataclassSynthesis
