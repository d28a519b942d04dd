import GameFleet.Simulation.Outage
import GameFleet.Webhook

/-!
# The journal

What was asked of the collaborators, call by call.

- `Journal`: the entries.
- `Call.entry?`: what is noted of a call. Of reads only those that failed are noted, except that
  balances always are.
-/

namespace GameFleet

open Json

/-- What was asked, an array for each call. -/
abbrev Journal := List Value

namespace Journal

/-- The entry of a name and what goes with it. -/
def entry (name : String) (details : List Value) : Value := .array (.string name :: details)

/-- The last part of the entry of a call that failed. -/
def failed : Value := .string "failed"

end Journal

namespace Console

/-- What is noted of a command. -/
def details (q : ConsoleQuery) : List Value :=
  [.string q.console.host, .nat q.console.port, .string q.password, .string q.command,
    .nat q.timeout.millis]

end Console

namespace Call

/-- Whether a call only reads. -/
def isRead : Call → Bool
  | identity _ => true
  | ban .. => true
  | overrides _ => true
  | lockInstance _ => true
  | ownersInTransaction _ => true
  | findInstance _ => true
  | listInstances _ => true
  | ownersInstances _ => true
  | listActivities => true
  | _ => false

/-- What goes with the name of a call in its entry. -/
def details : Call → List Value
  | begin => []
  | commit => []
  | write row => [row.id.toJson, row.status.toJson]
  | recordActivity a =>
    [a.server.toJson, .opt (·.toJson) a.emptySince, a.checkedAt.toJson]
  | deploy order => [order.toJson]
  | destroy id region => [id.toJson, .string region]
  | console query => Console.details query
  | notify owner message => [owner.toJson, .string message]
  | log e => [.string e.actor, .string e.message, e.createdAt.toJson]
  | c => [.string c.key]

/-- What is noted of a call, if anything is. -/
def entry? (c : Call) (isFailed : Bool) : Option Value :=
  if isFailed then some (Journal.entry c.name (c.details ++ [Journal.failed]))
  else if c.isRead then none
  else some (Journal.entry c.name c.details)

end Call

end GameFleet
