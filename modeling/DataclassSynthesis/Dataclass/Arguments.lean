import DataclassSynthesis.Analysis.Call

/-!
# Argument checks

Field descriptions and the decorator take few positional arguments and a fixed set of keywords.
Too many positional arguments are reported before unknown keywords.
-/

namespace DataclassSynthesis

namespace CallArguments

/-- The keywords of a call that are not among the accepted ones, in call order. -/
def unknownKeywords (arguments : CallArguments) (accepted : List String) : List String :=
  arguments.keywords.keys.filter fun name => !accepted.contains name

/-- Check the number of positional arguments and the keywords of a call. -/
def check (arguments : CallArguments) (function : String) (maxPositional : Nat)
    (accepted : List String) : Except DecorateError Unit :=
  if maxPositional < arguments.positional.length then
    .error (.argumentCount function maxPositional arguments.positional.length arguments.span)
  else
    match arguments.unknownKeywords accepted with
    | [] => .ok ()
    | unknown => .error (.unknownKeywords function unknown arguments.span)

end CallArguments

end DataclassSynthesis
