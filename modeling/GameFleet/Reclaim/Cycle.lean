import GameFleet.Request
import GameFleet.Reclaim.Verdict
import GameFleet.Settings

/-!
# Reclamation cycles (specification §4.4)

A policy runs in cycles. A cycle first surveys the fleet, one call after another; the survey may
fail and end the cycle, or note failures and go on. It gives a batch of steps, one for each
instance to be treated, that do not depend on each other and may go on in any order. The cycle
fails with all failures of the survey and of the steps, in this order.

- `Policy`: the four policies: `idle` is the `EmptyServerReaper`, `stuck` the
  `PendingServerReaper`, `lifetime` the `LongRunningServerReaper`, and `credit` the
  `CreditExhaustionReaper`.
- `Branch`: the step for one instance.
- `Batch`: what a survey gives.
- `Batch.outcome`: how a cycle ends.
- `Op.say`, `Op.tell`: a message on an instance's console, and one to its owner.
-/

namespace GameFleet

/-- What instances are reclaimed for. -/
inductive Policy where
  /-- Nobody plays on them. -/
  | idle
  /-- They never became ready. -/
  | stuck
  /-- They run too long. -/
  | lifetime
  /-- Their owners have no credits. -/
  | credit
  deriving DecidableEq, Repr, Inhabited

namespace Policy

def name : Policy → String
  | idle => "empty_server_reaper"
  | stuck => "pending_server_reaper"
  | lifetime => "long_running_server_reaper"
  | credit => "credit_exhaustion_reaper"

/-- How often a policy runs. -/
def period (p : Policy) (periods : LoopPeriods) : Span :=
  match p with
  | idle => periods.idle
  | stuck => periods.stuck
  | lifetime => periods.lifetime
  | credit => periods.credit

end Policy

/-- The step of a cycle for one instance. -/
structure Branch where
  /-- The instance it treats. -/
  id : InstanceId
  /-- What it does, as it is named when it fails. -/
  label : String
  work : Running Unit

/-- The text of a failed step. -/
def stepFailure (id : InstanceId) (label : String) (f : Failure) : String :=
  id.text ++ " (" ++ label ++ "): " ++ f.message

namespace Branch

/-- The step that does an operation. -/
def of (i : Instance) (label : String) (work : Op Unit) : Branch := ⟨i.id, label, work.run⟩

/-- The text of the step's failure, if it has ended in one. -/
def failure? (b : Branch) : Option String :=
  match b.work with
  | .done (.error f) => some (stepFailure b.id b.label f)
  | _ => none

end Branch

/-- What a survey gives. -/
structure Batch where
  policy : Policy
  /-- The failures of the survey. -/
  failures : List String
  branches : List Branch

namespace Batch

/-- How a cycle ends whose steps have ended. -/
def outcome (b : Batch) : Outcome Unit :=
  let failures := b.failures ++ b.branches.filterMap Branch.failure?
  if failures.isEmpty then .ok () else .error (.reclamation b.policy.name failures)

end Batch

namespace Op

/-- The failure of an instance that has no console. -/
def noConsole (i : Instance) : Failure :=
  .internal ("instance " ++ i.id.text ++ " has no console endpoint")

/-- A command on an instance's console, and its answer. -/
def command (i : Instance) (command : String) (timeout : Span) : Op String :=
  match i.console? with
  | none => throw (noConsole i)
  | some (console, password) => Op.call (.console { console, password, command, timeout })

/-- A message to those who play on an instance. -/
def say (i : Instance) (message : String) (timeout : Span) : Op Unit := do
  let _ ← command i ("say " ++ message) timeout

/-- A message to an owner; it does not matter when it does not arrive. -/
def tell (owner : OwnerId) (message : String) : Op Unit :=
  bestEffort (Op.call (.notify owner message))

end Op

end GameFleet
