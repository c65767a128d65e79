/-!
# Instants

A point in time, as a file system stores it: whole seconds since the start of 1970 in UTC, and the
nanoseconds that follow them. The nanoseconds always count forward, before 1970 too, so that
`secs` is the instant rounded down.
-/

namespace Docroot.Time

/-- Seconds since 1970-01-01 00:00:00 UTC, and nanoseconds after them. A leap second is written as
    the second before it with a thousand million nanoseconds or more. -/
structure Instant where
  secs : Int
  nanos : Nat := 0
  deriving DecidableEq, Repr, Inhabited

namespace Instant

/-- The instant rounded down to whole seconds. -/
def floor (t : Instant) : Instant := ⟨t.secs, 0⟩

/-- Not later: by seconds, then by nanoseconds. -/
def le (s t : Instant) : Bool := s.secs < t.secs || (s.secs == t.secs && s.nanos ≤ t.nanos)

end Instant

end Docroot.Time
