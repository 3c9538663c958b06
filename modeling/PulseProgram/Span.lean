/-!
# Spans of clock steps

A span runs from its first step up to, but excluding, its last bound. The latch
words of an update and the trigger pulse of a table row each occupy one.
-/

namespace PulseProgram

/-- The steps from `start` up to, but excluding, `stop`. Nothing keeps the two bounds in order. -/
structure Span where
  start : Nat
  stop : Nat
deriving DecidableEq

namespace Span

/-- The number of steps; a span that stops before it starts has none. -/
def length (span : Span) : Nat := span.stop - span.start

/-- The span as a half-open interval, the way messages show it. -/
def text (span : Span) : String :=
  "[" ++ toString span.start ++ ", " ++ toString span.stop ++ ")"

end Span

end PulseProgram
