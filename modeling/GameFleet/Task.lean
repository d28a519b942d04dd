import GameFleet.Instance
import GameFleet.Json.Value
import GameFleet.Retry

/-!
# Tasks (specification §3)

- `FollowUp`: what is done once a task has succeeded or been given up.
- `TaskOrder`: what a task is enqueued with.
- `Task`: a task in the queue.
-/

namespace GameFleet

/-- What is done once a task has ended. -/
inductive FollowUp where
  /-- The owner is told that an instance was removed after idle minutes. -/
  | evictionNotice (owner : OwnerId) (id : InstanceId) (minutes : Nat)
  /-- Whoever gave the task a name is told. -/
  | report (name : String)
  deriving DecidableEq, Inhabited

/-- What a task is enqueued with. -/
structure TaskOrder where
  /-- Names what processes it. -/
  kind : String
  payload : Json.Value
  policy : RetryPolicy := {}
  /-- Done once it has succeeded. -/
  onSuccess : Option FollowUp := none
  /-- Done once it has failed for the last time. -/
  onError : Option FollowUp := none

/-- A task in the queue. -/
structure Task extends TaskOrder where
  id : String
  /-- The number of its next run, from 1. -/
  attempt : Nat
  /-- The earliest time of its next run, in milliseconds. -/
  due : Nat
  /-- Its place among the tasks that are due at the same time. -/
  seq : Nat

end GameFleet
