import Polyhierarchy.EngineError
/-!
# Deadlines

A long operation looks at its deadline between its steps and gives up once the deadline has passed.
All that an operation can notice of the clock is at which of its looks the deadline has passed, so
a deadline is the number of looks that it lets pass.

## Main definitions

* `Deadline` — never, or after a number of looks.
* `Deadline.ofTimeout` — the deadline of an operation that may take some time.
* `Deadline.look` — a look at the deadline.
-/

namespace Polyhierarchy

/-- When an operation has to give up. -/
inductive Deadline
  | never
  | afterLooks (left : Nat)
  deriving DecidableEq

namespace Deadline

/-- The deadline of an operation that may take so many milliseconds: without a bound it never
passes, and a bound of zero has passed at the first look. A clock that stands still lets every
other bound pass. -/
def ofTimeout : Option Nat → Deadline
  | some 0 => afterLooks 0
  | _ => never

/-- Whether the deadline has passed. -/
def isExpired : Deadline → Bool
  | never => false
  | afterLooks left => left == 0

/-- The deadline after a look at it, or the error of an operation that has to give up. -/
def look (purpose : String) : Deadline → Except EngineError Deadline
  | never => .ok never
  | afterLooks 0 => .error (.deadlineExceeded purpose)
  | afterLooks (left + 1) => .ok (afterLooks left)

end Deadline

end Polyhierarchy
