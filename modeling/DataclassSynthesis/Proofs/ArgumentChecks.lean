import DataclassSynthesis.Dataclass.Arguments

/-!
# Outcomes of the argument check

The check of the arguments of a call has three outcomes. Too many positional arguments are refused,
then the unknown keywords, all of them in call order, and nothing else.
-/

namespace DataclassSynthesis

namespace CallArguments

variable {arguments : CallArguments} {maxPositional : Nat} {accepted : List String}

/-- The unknown keywords are the given ones that are not accepted, in the order of the call. -/
theorem unknownKeywords_eq (arguments : CallArguments) (accepted : List String) :
    arguments.unknownKeywords accepted = arguments.keywords.keys.filter (· ∉ accepted) := by
  simp only [unknownKeywords, List.contains_eq_mem, decide_not]

theorem unknownKeywords_eq_nil_iff :
    arguments.unknownKeywords accepted = [] ↔
      ∀ name ∈ arguments.keywords.keys, name ∈ accepted := by
  simp [unknownKeywords_eq, List.filter_eq_nil_iff]

theorem check_of_many (function : String) (many : maxPositional < arguments.positional.length) :
    arguments.check function maxPositional accepted =
      .error (.argumentCount function maxPositional arguments.positional.length arguments.span) :=
  if_pos many

theorem check_of_unknown (function : String) (few : arguments.positional.length ≤ maxPositional)
    (unknown : arguments.unknownKeywords accepted ≠ []) :
    arguments.check function maxPositional accepted =
      .error (.unknownKeywords function (arguments.unknownKeywords accepted) arguments.span) := by
  rw [check, if_neg (Nat.not_lt.mpr few)]
  split
  · next none => exact (unknown none).elim
  · rfl

/-- A call with few positional arguments and accepted keywords passes the check. -/
theorem check_of_known (function : String) (few : arguments.positional.length ≤ maxPositional)
    (known : arguments.unknownKeywords accepted = []) :
    arguments.check function maxPositional accepted = .ok () := by
  rw [check, if_neg (Nat.not_lt.mpr few), known]

end CallArguments

end DataclassSynthesis
