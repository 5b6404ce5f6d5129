import DataclassSynthesis.Class.Definition
import DataclassSynthesis.Class.Table
import DataclassSynthesis.Log
import DataclassSynthesis.Value.Typing

/-!
# The state of an analysis

An analysis owns the types, the classes, the program points and the log, and stands at a current
program point. Operations run in a monad that keeps the state when they fail, so that what a
failed operation leaves behind can be observed.
-/

namespace DataclassSynthesis

/-- The state of an analysis. -/
structure Analysis where
  types : TypeContext
  classes : ClassTable
  program : Program
  log : Log
  point : PointId

/-- An operation on the state of an analysis, which may fail. -/
abbrev AnalysisM := EStateM DecorateError Analysis

namespace Analysis

/-- The state before anything has been analysed. -/
def initial (config : WarningConfig) : Analysis where
  types := .initial
  classes := .empty
  program := .initial
  log := .empty config
  point := Program.entry

/-- The class with a given identity, or the error that there is none. -/
def class? (state : Analysis) (id : ClassId) : Except DecorateError ClassObject :=
  match state.classes.get? id with
  | some object => .ok object
  | none => .error (.unknownClass id)

/-- The value that stands for an instance of a type. -/
def instanceValue (state : Analysis) (type : TypeId) : Value :=
  if state.types.isAny type then .unknown else .instanceOf type

/-- An instance of a type, at the current point. -/
def instanceAt (state : Analysis) (type : TypeId) : Variable :=
  .single (state.instanceValue type) state.point

/-- The class object of a class, at the current point. -/
def classObject? (state : Analysis) (id : ClassId) : Except DecorateError Variable := do
  let object ← state.class? id
  pure (.single (.classObject object.type) state.point)

/-- The class object of a named type, at the current point. -/
def builtin? (state : Analysis) (name : String) : Except DecorateError Variable :=
  match state.types.resolve name with
  | .ok type => .ok (.single (.classObject type) state.point)
  | .error error => .error (.type error)

end Analysis

namespace AnalysisM

/-- Run a computation that may fail but changes nothing. -/
def ofExcept {α : Type} : Except DecorateError α → AnalysisM α
  | .ok value => pure value
  | .error error => throw error

/-- Run a computation on the types. -/
def onTypes {α : Type} (action : TypeM α) : AnalysisM α :=
  modifyGet fun state =>
    let (result, types) := action state.types
    (result, { state with types := types })

/-- The class with a given identity. -/
def getClass (id : ClassId) : AnalysisM ClassObject := do
  let state ← get
  ofExcept (state.class? id)

/-- Edit the class with a given identity; it is an error that there is none. -/
def modifyClass (id : ClassId) (edit : ClassObject → ClassObject) : AnalysisM Unit := do
  let _ ← getClass id
  modify fun state => { state with classes := state.classes.modify id edit }

/-- Report a warning. -/
def warn (warning : Warning) : AnalysisM Unit :=
  modify fun state => { state with log := state.log.warn warning }

/-- Record an error. -/
def recordError (error : CheckError) : AnalysisM Unit :=
  modify fun state => { state with log := state.log.addError error }

/-- Continue the current point with a new one and move there. -/
def advance (label : String) : AnalysisM PointId :=
  modifyGet fun state =>
    let (next, program) := state.program.extend state.point label
    (next, { state with program := program, point := next })

/-- Add a side branch without moving there. -/
def branch (source : PointId) (label : String) : AnalysisM PointId :=
  modifyGet fun state =>
    let (next, program) := state.program.extend source label
    (next, { state with program := program })

/-- Create an instance of a type, at a new point. -/
def instantiate (type : TypeId) : AnalysisM Variable := do
  let state ← get
  let next ← advance "instantiate"
  pure (.single (state.instanceValue type) next)

end AnalysisM

end DataclassSynthesis
