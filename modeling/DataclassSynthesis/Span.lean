/-!
# Source spans

A span is a byte range together with the one-based line and column of its start.
-/

namespace DataclassSynthesis

/-- A byte range of a source text and the position of its start. -/
structure Span where
  start : UInt64 := 0
  stop : UInt64 := 0
  line : UInt32 := 0
  column : UInt32 := 0
deriving DecidableEq

namespace Span

/-- The span that is used where no location is known. -/
def unknown : Span := {}

/-- The number of bytes covered; the difference wraps when the range is reversed. -/
def length (span : Span) : UInt64 := span.stop - span.start

/-- Whether the range covers no byte. -/
def isEmpty (span : Span) : Bool := span.start == span.stop

/-- The smallest span around both, at the smaller line and the smaller column of the two. -/
def merge (left right : Span) : Span where
  start := min left.start right.start
  stop := max left.stop right.stop
  line := min left.line right.line
  column := min left.column right.column

end Span

end DataclassSynthesis
