/-!
# Draining (specification §4.2)

Work that must not be broken off is tracked from its start to its end. Once draining has begun, no
more of it starts, and whoever drains waits until none is left.

- `Drain`: whether draining has begun, and how much tracked work there is: the
  `ShutdownCoordinator`.
- `Drain.enter?`: tracked work starts, unless it is refused: `run` takes a `ShutdownToken`.
- `Drain.settle`: tracked work has ended, however it ended, and the token is released.
-/

namespace GameFleet

/-- How far draining has come. -/
structure Drain where
  /-- No more tracked work starts. -/
  draining : Bool := false
  /-- How much tracked work has started and not ended. -/
  inFlight : Nat := 0
  deriving DecidableEq, Repr, Inhabited

namespace Drain

/-- Tracked work starts; none when it is refused. -/
def enter? (d : Drain) : Option Drain :=
  if d.draining then none else some { d with inFlight := d.inFlight + 1 }

/-- Tracked work has ended. -/
def settle (d : Drain) : Drain := { d with inFlight := d.inFlight - 1 }

/-- Draining begins. -/
def begin (d : Drain) : Drain := { d with draining := true }

/-- Whether no tracked work is left. -/
def isSettled (d : Drain) : Bool := d.inFlight = 0

@[simp] theorem draining_begin (d : Drain) : d.begin.draining = true := rfl

@[simp] theorem inFlight_begin (d : Drain) : d.begin.inFlight = d.inFlight := rfl

@[simp] theorem draining_settle (d : Drain) : d.settle.draining = d.draining := rfl

/-- Work is refused exactly when draining has begun. -/
theorem enter?_eq_none_iff (d : Drain) : d.enter? = none ↔ d.draining = true := by
  unfold enter?
  split <;> simp_all

/-- Work that was admitted is counted until it has ended. -/
theorem settle_of_enter? {d e : Drain} (h : d.enter? = some e) : e.settle = d := by
  unfold enter? at h
  split at h
  · cases h
  · cases h
    rfl

end Drain

end GameFleet
