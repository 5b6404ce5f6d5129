import DataclassSynthesis.Type.Context

/-!
# Assignability

A source type is assignable to a target type when every value of the source may be stored where
the target is declared. The unknown type matches in both directions and the empty type is
assignable to everything; unions are decomposed on the left before the right; `object` takes
everything; numbers widen along the numeric tower; classes are nominal through their bases;
containers are invariant up to unknown and bare arguments; functions are contravariant in their
parameters and covariant in their result.
-/

namespace DataclassSynthesis

namespace Scalar

/-- Numbers widen along the numeric tower, and any other scalar stands for itself only. -/
def assignable (source target : Scalar) : Bool :=
  match source.numericRank, target.numericRank with
  | some narrow, some wide => decide (narrow ≤ wide)
  | _, _ => source == target

end Scalar

namespace TypeContext

/-- Whether two container arguments match: equal, or one of them unknown. -/
def argumentsMatch (context : TypeContext) (source target : TypeId) : Bool :=
  source == target || context.isAny source || context.isAny target

/-- Whether two containers match. A bare container matches every argument list. -/
def containersMatch (context : TypeContext) (sourceName targetName : String)
    (sources targets : List TypeId) : Bool :=
  sourceName == targetName &&
    (sources.isEmpty || targets.isEmpty ||
      (sources.length == targets.length &&
        (sources.zip targets).all fun (source, target) => context.argumentsMatch source target))

/-- One level of the relation between two types, given the answers for pairs of components.
The identifiers name the two types themselves. -/
def assignableStep {m : Type → Type} [Monad m] (context : TypeContext)
    (holds : TypeId → TypeId → m Bool) (source target : TypeId) : Ty → Ty → m Bool
  | .any, _ | _, .any | .never, _ => pure true
  | .union members, _ => members.allM fun member => holds member target
  | _, .union members => members.anyM fun member => holds source member
  | _, .scalar .object => pure true
  | .scalar narrow, .scalar wide => pure (narrow.assignable wide)
  | .nominal id _ bases, other =>
    match other with
    | .nominal otherId _ _ =>
      if id = otherId then pure true else bases.anyM fun base => holds base target
    | _ => bases.anyM fun base => holds base target
  | .container sourceName sources, .container targetName targets =>
    pure (context.containersMatch sourceName targetName sources targets)
  | .callable sources sourceResult _, .callable targets targetResult _ =>
    if sources.length = targets.length then do
      let accepted ← (sources.zip targets).allM fun (mine, theirs) => holds theirs mine
      if accepted then holds sourceResult targetResult else pure false
    else pure false
  | _, _ => pure false

/-- Assignability decided by at most `bound` nested steps; nothing when the bound is too small.
An identifier without a type is assignable to itself only. -/
def assignableWithin (context : TypeContext) : Nat → TypeId → TypeId → Option Bool
  | 0, _, _ => none
  | bound + 1, source, target =>
    if source = target then some true
    else match context.get? source, context.get? target with
      | some sourceType, some targetType =>
        context.assignableStep (assignableWithin context bound) source target
          sourceType targetType
      | _, _ => some false

/-- Whether a value of the source type may be stored where the target type is declared. The
nested steps of a decision are at distinct pairs of types of the context, except for the last,
so the bound is large enough whenever any bound is. -/
def isAssignable (context : TypeContext) (source target : TypeId) : Bool :=
  (context.assignableWithin (context.size * context.size + 1) source target).getD false

end TypeContext

end DataclassSynthesis
