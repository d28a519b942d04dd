import GameFleet.Console.Status
import GameFleet.Reclaim.Cycle
import GameFleet.Termination

/-!
# Reclaiming idle instances (specification §4.4)

This is the `EmptyServerReaper`. The survey judges each ready instance by the activity row that the
last cycle wrote, and enqueues a task for each one to be evicted, unless the same task is waiting.
The others are asked how many play on them, and what is known about them is written down for the
next cycle. An instance that does not answer counts as empty.

- `Idle.enqueueRemoval`: the task that removes an instance.
- `Idle.refresh`: the step for an instance that stays.
- `Idle.survey`: the survey.
-/

namespace GameFleet.Idle

/-- The payload of the task that removes an instance after idle minutes. -/
def removal (id : InstanceId) (minutes : Nat) : DeletionOrder :=
  ⟨id, some ("empty for " ++ Text.natText minutes ++ " minutes")⟩

/-- Enqueues the removal of an instance, unless it is waiting already. -/
def enqueueRemoval (i : Instance) (threshold : Span) : Op Unit := do
  let minutes := threshold.seconds / 60
  let payload := (removal i.id minutes).toJson
  let queued : Bool ← Op.ask (.isQueued DeletionOrder.kind payload)
  unless queued do
    Op.ask (.enqueue {
      kind := DeletionOrder.kind
      payload
      policy := DeletionOrder.policy
      onSuccess := some (.evictionNotice i.owner i.id minutes) })

/-- How many play on an instance. -/
def players (i : Instance) (timeout : Span) : Op Nat := do
  let transcript ← Op.command i "status" timeout
  return (Console.Report.read transcript.toList).players

/-- Looks at an instance and writes down what is known about it, if it still has a row. -/
def refresh (i : Instance) (previous : Option Activity) (timeout : Span) : Op Unit := do
  let seen ← Op.attempt (players i timeout)
  let now : Timestamp ← Op.ask .now
  let next := Activity.next i.id previous seen.toOption now
  let row : Option Instance ← Op.call (.findInstance i.id)
  if row.isSome then Op.call (.recordActivity next)

/-- Judges instances one after another: enqueues removals, and gathers the steps for the others. -/
def judge (s : FleetSettings) (activities : List Activity) (now : Timestamp) :
    List Instance → Op (List Branch)
  | [] => return []
  | i :: rest => do
    let previous := activities.reverse.find? (·.server = i.id)
    let threshold := s.idle.forVariant i.variant
    if Verdict.idle previous threshold now = .evict then
      enqueueRemoval i threshold
      judge s activities now rest
    else
      let steps ← judge s activities now rest
      return .of i "record activity" (refresh i previous s.probeTimeout) :: steps

/-- The survey of a cycle. -/
def survey (s : FleetSettings) : Op Batch := do
  let rows : List Instance ← Op.call (.listInstances (some .ready))
  let activities : List Activity ← Op.call .listActivities
  let now : Timestamp ← Op.ask .now
  return ⟨.idle, [], ← judge s activities now rows⟩

end GameFleet.Idle
