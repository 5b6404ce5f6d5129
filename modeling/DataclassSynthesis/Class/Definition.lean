import DataclassSynthesis.Class.Body

/-!
# Class definitions

A class definition collects the statements of a class body. A statement without a span of its own
is placed on a line of its own below the class statement, indented by four columns.
-/

namespace DataclassSynthesis

/-- A class statement: its name, its direct bases, its body and its own location. -/
structure ClassDefinition where
  name : String
  bases : List ClassId
  body : Body
  span : Span

namespace ClassDefinition

/-- A class statement without a body, on the first line unless a location is given. -/
def start (name : String) (bases : List ClassId) (span : Option Span) : ClassDefinition :=
  ⟨name, bases, [], span.getD ⟨0, 0, 1, 1⟩⟩

/-- The place of the next statement, one line per statement before it. -/
def nextSpan (definition : ClassDefinition) : Span where
  line := definition.span.line + UInt32.ofNat definition.body.length + 1
  column := 5

/-- Add a statement at a given place. -/
def add (definition : ClassDefinition) (name : String) (effect : Effect) (span : Span) :
    ClassDefinition :=
  { definition with body := definition.body ++ [⟨name, effect, span⟩] }

/-- The statement `name: type`. -/
def annotate (definition : ClassDefinition) (name : String) (type : TypeId)
    (span : Option Span) : ClassDefinition :=
  definition.add name (.annotate type) (span.getD definition.nextSpan)

/-- The statement `name = value`. -/
def assign (definition : ClassDefinition) (name : String) (value : Variable) : ClassDefinition :=
  definition.add name (.assign value) definition.nextSpan

/-- The statement `name: type = value`, which annotates and assigns at one place. -/
def declare (definition : ClassDefinition) (name : String) (type : TypeId) (value : Variable) :
    ClassDefinition :=
  let span := definition.nextSpan
  (definition.add name (.annotate type) span).add name (.assign value) span

/-- The definition of a method, which assigns the function to its name. -/
def method (definition : ClassDefinition) (function : Function) : ClassDefinition :=
  definition.assign function.name (.single (.function function) Program.entry)

end ClassDefinition

end DataclassSynthesis
