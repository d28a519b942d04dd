import GameFleet.Reclaim.Cycle
import GameFleet.Termination

/-!
# Reclaiming instances that never became ready (specification §4.4)

This is the `PendingServerReaper`. Pending instances that are too old are removed one after another,
and their owners are told.

- `Stuck.reclaim`: what is done with one instance.
- `Stuck.survey`: the cycle. Everything is done in the survey; it leaves no steps.
-/

namespace GameFleet.Stuck

/-- Why an instance is removed. -/
def reason (minutes : Nat) : String :=
  "stuck in pending for over " ++ Text.natText minutes ++ " minutes"

/-- What the owner of a removed instance is told. -/
def notice (id : InstanceId) (minutes : Nat) : String :=
  "Your server " ++ id.text ++ " was terminated after being stuck in pending for over "
    ++ Text.natText minutes ++ " minutes."

/-- Removes an instance and tells its owner; gives the text of a failure. -/
def reclaim (minutes : Nat) (i : Instance) : Op (Option String) := do
  match ← Op.attempt (Termination.remove i.id (reason minutes)) with
  | .ok true =>
    Op.tell i.owner (notice i.id minutes)
    return none
  | .ok false => return none
  | .error f => return some (stepFailure i.id "terminate" f)

/-- Removes the instances among some that are too old; gives the texts of failures. -/
def reclaimAll (maxAge : Span) (now : Timestamp) : List Instance → Op (List String)
  | [] => return []
  | i :: rest => do
    if Verdict.stuck i.status (i.age now) maxAge = .evict then
      let failure ← reclaim (maxAge.seconds / 60) i
      return failure.toList ++ (← reclaimAll maxAge now rest)
    else reclaimAll maxAge now rest

/-- The survey of a cycle. -/
def survey (s : FleetSettings) : Op Batch := do
  let now : Timestamp ← Op.ask .now
  let rows : List Instance ← Op.call (.listInstances (some .pending))
  return ⟨.stuck, ← reclaimAll s.pendingMaxAge now rows, []⟩

end GameFleet.Stuck
