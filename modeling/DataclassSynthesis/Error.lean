import DataclassSynthesis.Type.Display
import DataclassSynthesis.Warning

/-!
# Errors

A decoration error ends the call that raises it. A check error is recorded, and the analysis goes
on.
-/

namespace DataclassSynthesis

/-- Why a call of a decorator, of a field description or of a function has no result. -/
inductive DecorateError where
  /-- Two keyword arguments exclude each other. -/
  | duplicateKeyword (function name : String) (span : Span)
  | unknownKeywords (function : String) (names : List String) (span : Span)
  | argumentCount (function : String) (expected actual : Nat) (span : Span)
  | notCallable (value : String) (span : Span)
  /-- A keyword argument that must be a literal is none. -/
  | nonConstantKeyword (function name expected : String) (span : Span)
  | unknownClass (id : ClassId)
  | type (error : TypeError)
deriving DecidableEq

namespace DecorateError

/-- The wording of an error. -/
def message : DecorateError → String
  | duplicateKeyword function name _ =>
    s!"Duplicate keyword argument '{name}' in call to {function}"
  | unknownKeywords function names _ =>
    let listed := commaSeparated names
    s!"Invalid keyword argument(s) {listed} in call to {function}"
  | argumentCount function expected actual _ =>
    s!"Function {function} expects {expected} positional argument(s), got {actual}"
  | notCallable value _ => s!"'{value}' is not callable"
  | nonConstantKeyword function name expected _ =>
    s!"Keyword argument '{name}' to {function} must be a constant {expected}"
  | unknownClass id => s!"Unknown class id {id.index}"
  | type error => error.message

/-- The place of the call, when the error is about one. -/
def span? : DecorateError → Option Span
  | duplicateKeyword _ _ span | unknownKeywords _ _ span | argumentCount _ _ _ span
  | notCallable _ span | nonConstantKeyword _ _ _ span => some span
  | unknownClass _ | type _ => none

/-- The code of an error as it is printed. -/
def code : DecorateError → String
  | duplicateKeyword .. => "E4002"
  | unknownKeywords .. => "E4003"
  | argumentCount .. => "E4004"
  | notCallable .. => "E4005"
  | nonConstantKeyword .. => "E4006"
  | unknownClass .. => "E4007"
  | type .. => "E4008"

end DecorateError

/-- A problem of a class that is recorded while it is processed. -/
inductive CheckError where
  /-- The default of an attribute does not have the declared type. -/
  | mismatch (name declared assigned value : String) (span : Span)
  /-- A warning that the configuration promotes. -/
  | denied (code : WarningCode) (message : String) (span : Span)
deriving DecidableEq

namespace CheckError

/-- The wording of a recorded error. -/
def message : CheckError → String
  | mismatch name _ _ _ _ => s!"Type annotation for {name} does not match type of assignment"
  | denied _ message _ => message

/-- The place that a recorded error points at. -/
def span : CheckError → Span
  | mismatch _ _ _ _ span => span
  | denied _ _ span => span

/-- The code of a recorded error; a promoted warning keeps its own. -/
def code : CheckError → String
  | mismatch .. => "E4001"
  | denied code _ _ => code.display

end CheckError

end DataclassSynthesis
