import GameFleet.Number.Double

/-!
# Retrying (specification §4.1)

- `RetryPolicy`: how often a task may run and how the wait between runs grows.
- `RetryPolicy.delay`: the wait after a failed run: the first wait times a power of the multiplier,
  and never more than the longest wait.
-/

namespace GameFleet

/-- How often a task may run, and how long to wait between runs. -/
structure RetryPolicy where
  /-- How many runs there may be; a task runs once in any case. -/
  maxRuns : Nat := 0
  /-- The wait after the first run, in milliseconds. -/
  initialDelay : Nat := 1000
  /-- The longest wait, in milliseconds. -/
  maxDelay : Nat := 30000
  /-- By how much the wait grows from one run to the next. -/
  multiplier : Double := .ofNat 2
  deriving DecidableEq, Inhabited

namespace RetryPolicy

/-- The power of the multiplier after a run; it stops growing at 64. -/
def growth (run : Nat) : Nat := min (run - 1) 64

/-- The milliseconds between failed run number `run` and the next. A product that is no finite
number counts as the longest wait. -/
def delay (p : RetryPolicy) (run : Nat) : Nat :=
  let raw := (Double.ofNat p.initialDelay).mul (p.multiplier.atLeastZero.pow (growth run))
  let longest := Double.ofNat p.maxDelay
  (if raw.isFinite then raw.least longest else longest).atLeastZero.toWord64

end RetryPolicy

end GameFleet
