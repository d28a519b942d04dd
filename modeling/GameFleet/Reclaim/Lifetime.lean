import GameFleet.Reclaim.Cycle
import GameFleet.Termination

/-!
# Reclaiming instances that run too long (specification §4.4)

This is the `LongRunningServerReaper`. The players of an instance that will soon have run too long
are warned in every cycle; one that has is told so and removed.

- `Lifetime.warn`, `Lifetime.evict`: the steps for an instance.
- `Lifetime.survey`: the survey. The steps that warn come before those that remove.
-/

namespace GameFleet.Lifetime

/-- Whole hours of a span. -/
def hours (d : Span) : Nat := d.seconds / 3600

def warning (maxAge : Span) : String :=
  "The server has been running for too long and will be automatically terminated when it reaches "
    ++ Text.natText (hours maxAge) ++ " hours"

def lastNotice : String :=
  "The server has been running for too long and is now being terminated."

def reason (maxAge : Span) : String :=
  "exceeded " ++ Text.natText (hours maxAge) ++ " hours of runtime"

/-- Warns the players of an instance. -/
def warn (s : FleetSettings) (i : Instance) : Op Unit := Op.say i (warning s.maxAge) s.probeTimeout

/-- Tells the players of an instance, as far as possible, and removes it. -/
def evict (s : FleetSettings) (i : Instance) : Op Unit := do
  Op.bestEffort (Op.say i lastNotice s.probeTimeout)
  let _ ← Termination.remove i.id (reason s.maxAge)

/-- The verdict on an instance. -/
def verdict (s : FleetSettings) (now : Timestamp) (i : Instance) : Verdict :=
  Verdict.lifetime (i.age now) s.warnAfter s.maxAge

/-- The survey of a cycle. -/
def survey (s : FleetSettings) : Op Batch := do
  let now : Timestamp ← Op.ask .now
  let rows : List Instance ← Op.call (.listInstances none)
  let warned := rows.filter (verdict s now · = .warn)
  let evicted := rows.filter (verdict s now · = .evict)
  return ⟨.lifetime, [], warned.map (fun i => .of i "warn" (warn s i))
    ++ evicted.map fun i => .of i "terminate" (evict s i)⟩

end GameFleet.Lifetime
