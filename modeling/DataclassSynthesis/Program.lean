/-!
# Program points

An analysis runs along a growing graph of program points. Every point but the entry has one
predecessor, which need not exist: a side branch may hang off a point that was never created. A
value that was produced at one point is visible at another when the first lies on the chain of
predecessors of the second.
-/

namespace DataclassSynthesis

/-- The identity of a program point within a program. -/
structure PointId where
  index : Nat
deriving DecidableEq

/-- The written form of a program point. -/
def PointId.display (point : PointId) : String := s!"n{point.index}"

/-- A program point: the step that created it, and the point it continues. -/
structure Point where
  label : String
  predecessor : Option PointId
deriving DecidableEq

/-- The program points created so far, each identified by its position. -/
structure Program where
  points : List Point
deriving DecidableEq

namespace Program

/-- The identity of the entry point. -/
def entry : PointId := ⟨0⟩

/-- The program that consists of its entry. -/
def initial : Program := ⟨[⟨"entry", none⟩]⟩

/-- The number of points. -/
def size (program : Program) : Nat := program.points.length

/-- The point with a given identity. -/
def get? (program : Program) (point : PointId) : Option Point := program.points[point.index]?

/-- The predecessor of a point; the entry and missing points have none. -/
def predecessor? (program : Program) (point : PointId) : Option PointId :=
  (program.get? point).bind Point.predecessor

/-- Add a point that continues an existing or missing one. -/
def extend (program : Program) (source : PointId) (label : String) : PointId × Program :=
  (⟨program.size⟩, ⟨program.points ++ [⟨label, some source⟩]⟩)

/-- Whether the source is met within a number of predecessor steps from a point. -/
def reachesWithin (program : Program) (source : PointId) : Nat → PointId → Bool
  | 0, current => current == source
  | steps + 1, current =>
    current == source ||
      match program.predecessor? current with
      | some previous => reachesWithin program source steps previous
      | none => false

/-- Whether the target can be reached from the source; every point reaches itself. A chain of
predecessors that repeats no point has at most one step per point of the program. -/
def isReachable (program : Program) (source target : PointId) : Bool :=
  program.reachesWithin source program.size target

end Program

end DataclassSynthesis
