import DataclassSynthesis.Dataclass.Arguments

/-!
# Decorator options

The options with which the decorator can be called. Each must be a boolean literal. Only the
option for the constructor changes what is generated.
-/

namespace DataclassSynthesis

/-- The qualified name of the decorator. -/
def decoratorName : String := "dataclasses.dataclass"

/-- The options of one decoration. -/
structure Options where
  init : Bool := true
  repr : Bool := true
  eq : Bool := true
  order : Bool := false
  unsafeHash : Bool := false
  frozen : Bool := false
deriving DecidableEq

namespace Options

/-- The keywords that name the options. -/
def keywords : List String := ["init", "repr", "eq", "order", "unsafe_hash", "frozen"]

/-- Set the option that a keyword names. -/
def set (options : Options) (keyword : String) (value : Bool) : Options :=
  match keyword with
  | "init" => { options with init := value }
  | "repr" => { options with repr := value }
  | "eq" => { options with eq := value }
  | "order" => { options with order := value }
  | "unsafe_hash" => { options with unsafeHash := value }
  | "frozen" => { options with frozen := value }
  | _ => options

/-- Set the options of a list of keyword arguments, up to the first value that is no literal. -/
def setAll (span : Span) (options : Options) :
    List (String × Variable) → Except DecorateError Options
  | [] => .ok options
  | (name, value) :: rest =>
    match value.constantBool? with
    | some literal => setAll span (options.set name literal) rest
    | none => .error (.nonConstantKeyword decoratorName name "bool" span)

/-- The options of a call of the decorator. -/
def ofArguments (arguments : CallArguments) : Except DecorateError Options := do
  arguments.check decoratorName 1 keywords
  setAll arguments.span {} arguments.keywords.entries

end Options

end DataclassSynthesis
