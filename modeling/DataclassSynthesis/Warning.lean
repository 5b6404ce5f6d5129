import DataclassSynthesis.Span

/-!
# Warnings

Warnings report classes that are probably not meant as written. Each kind has a code and a name
for configuration. A configuration decides per code whether a warning is dropped, recorded, or
promoted to an error.
-/

namespace DataclassSynthesis

/-- The kinds of warnings. -/
inductive WarningCode where
  | annotatedTwice
  | requiredAfterDefault
  | nonConstantKeyword
deriving DecidableEq

namespace WarningCode

/-- Every code, in numeric order. -/
def all : List WarningCode := [annotatedTwice, requiredAfterDefault, nonConstantKeyword]

/-- The code as it is printed. -/
def display : WarningCode → String
  | annotatedTwice => "W2001"
  | requiredAfterDefault => "W2002"
  | nonConstantKeyword => "W2003"

/-- The name by which configuration refers to the code. -/
def configName : WarningCode → String
  | annotatedTwice => "duplicate-annotation"
  | requiredAfterDefault => "required-after-default"
  | nonConstantKeyword => "non-constant-keyword"

/-- The code with a given configuration name. -/
def ofConfigName? (name : String) : Option WarningCode :=
  all.find? fun code => code.configName == name

/-- The codes that are only reported on request. -/
def isOptIn : WarningCode → Bool
  | annotatedTwice | requiredAfterDefault => true
  | nonConstantKeyword => false

end WarningCode

/-- A warning with what it is about. -/
inductive Warning where
  | annotatedTwice (name : String) (first second : Span)
  | requiredAfterDefault (className name : String) (span : Span)
  | nonConstantKeyword (name : String) (fallback : Bool) (span : Span)
deriving DecidableEq

namespace Warning

/-- The kind of a warning. -/
def code : Warning → WarningCode
  | annotatedTwice .. => .annotatedTwice
  | requiredAfterDefault .. => .requiredAfterDefault
  | nonConstantKeyword .. => .nonConstantKeyword

/-- The place that a warning points at. -/
def span : Warning → Span
  | annotatedTwice _ _ second => second
  | requiredAfterDefault _ _ span => span
  | nonConstantKeyword _ _ span => span

/-- The wording of a warning. -/
def message : Warning → String
  | annotatedTwice name _ _ => s!"Attribute '{name}' is annotated more than once"
  | requiredAfterDefault className name _ =>
    s!"Required parameter '{name}' follows a parameter with a default in {className}.__init__"
  | nonConstantKeyword name fallback _ =>
    let assumed := if fallback then "True" else "False"
    s!"Keyword argument '{name}' is not a constant; assuming {assumed}"

end Warning

/-- Which warnings are dropped and which are promoted to errors. -/
structure WarningConfig where
  disabled : WarningCode → Bool
  denied : WarningCode → Bool
  strict : Bool

namespace WarningConfig

/-- Every warning is recorded. -/
def everything : WarningConfig := ⟨fun _ => false, fun _ => false, false⟩

/-- Every warning is promoted to an error. -/
def strictest : WarningConfig := { everything with strict := true }

/-- Every warning is recorded except those reported on request. -/
def standard : WarningConfig := { everything with disabled := WarningCode.isOptIn }

/-- Whether a code is reported at all. -/
def isEnabled (config : WarningConfig) (code : WarningCode) : Bool := !config.disabled code

/-- Whether a code is promoted to an error. -/
def isDenied (config : WarningConfig) (code : WarningCode) : Bool :=
  config.strict || config.denied code

/-- Report a code. -/
def enable (config : WarningConfig) (code : WarningCode) : WarningConfig :=
  { config with disabled := fun other => other != code && config.disabled other }

/-- Drop a code. -/
def disable (config : WarningConfig) (code : WarningCode) : WarningConfig :=
  { config with disabled := fun other => other == code || config.disabled other }

/-- Promote a code to an error, without reporting it when it is dropped. -/
def promote (config : WarningConfig) (code : WarningCode) : WarningConfig :=
  { config with denied := fun other => other == code || config.denied other }

end WarningConfig

end DataclassSynthesis
