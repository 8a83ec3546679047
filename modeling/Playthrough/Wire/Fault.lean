/-!
# Faults of a written message

Why a line does not spell a message. The line is read from left to right and the first fault
counts.

## Main definitions

* `Wire.Fault` — the three kinds of fault.
-/

namespace Playthrough

namespace Wire

/-- Why a line does not spell a message of the wanted kind. -/
inductive Fault where
  /-- The line ends inside a value, or holds none. -/
  | truncated
  /-- The line is not written according to the grammar, or exceeds one of its limits. -/
  | malformed
  /-- The line is written according to the grammar and says something else. -/
  | mismatched
  deriving DecidableEq, Repr, Inhabited

end Wire

end Playthrough
