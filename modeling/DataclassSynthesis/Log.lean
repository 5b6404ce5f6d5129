import DataclassSynthesis.Error

/-!
# The log

The log collects check errors and warnings in the order in which they arise. The configuration
decides where a warning goes, and nothing else.
-/

namespace DataclassSynthesis

/-- What has been recorded so far. -/
structure Log where
  errors : List CheckError
  warnings : List Warning
  config : WarningConfig

namespace Log

/-- The log in which nothing is recorded. -/
def empty (config : WarningConfig) : Log := ⟨[], [], config⟩

/-- Record an error. -/
def addError (log : Log) (error : CheckError) : Log := { log with errors := log.errors ++ [error] }

/-- Drop a warning, record it as an error or record it as a warning, as configured. -/
def warn (log : Log) (warning : Warning) : Log :=
  if !log.config.isEnabled warning.code then log
  else if log.config.isDenied warning.code then
    log.addError (.denied warning.code warning.message warning.span)
  else { log with warnings := log.warnings ++ [warning] }

/-- Whether errors are recorded. -/
def hasErrors (log : Log) : Bool := !log.errors.isEmpty

/-- Whether nothing is recorded. -/
def isEmpty (log : Log) : Bool := log.errors.isEmpty && log.warnings.isEmpty

end Log

end DataclassSynthesis
