import GameFleet.Request

/-!
# Calls that are made to fail

- `Call.name`, `Call.key`: how calls are named, and whom or what they are about.
- `Outage`: calls that are made to fail, and `Outage.meet` the failure that a call meets.
- `Ambush`: rows that vanish when a call comes.
-/

namespace GameFleet

namespace Call

/-- The name of a kind of calls. -/
def name : Call → String
  | identity _ => "identity"
  | ban .. => "ban"
  | balance _ => "balance"
  | overrides _ => "overrides"
  | begin => "txn.begin"
  | lockInstance _ => "txn.find_by_id"
  | ownersInTransaction _ => "txn.list_by_owner"
  | write _ => "txn.upsert"
  | commit => "txn.commit"
  | findInstance _ => "fleet.find_by_id"
  | listInstances _ => "fleet.list_all"
  | ownersInstances _ => "fleet.list_by_owner"
  | removeInstance _ => "fleet.delete"
  | listActivities => "activity.list_all"
  | recordActivity _ => "activity.upsert"
  | removeActivity _ => "activity.delete"
  | deploy _ => "deploy"
  | destroy .. => "destroy"
  | console _ => "probe"
  | notify .. => "notify"
  | log _ => "event"
  | errand _ => "errand"

/-- Whom or what a call is about. -/
def key : Call → String
  | identity owner => owner.text
  | ban owner _ => owner.text
  | balance owner => owner.text
  | overrides guild => guild
  | lockInstance id => id.text
  | ownersInTransaction owner => owner.text
  | write row => row.owner.text
  | findInstance id => id.text
  | ownersInstances owner => owner.text
  | removeInstance id => id.text
  | recordActivity a => a.server.text
  | removeActivity id => id.text
  | deploy order => order.owner.text
  | destroy id _ => id.text
  | console query => query.console.host
  | notify owner _ => owner.text
  | log e => e.actor
  | begin => ""
  | commit => ""
  | listInstances _ => ""
  | listActivities => ""
  | errand _ => ""

/-- Whether a call has a name, and a key if one is given. -/
def isNamed (c : Call) (name : String) (key : Option String) : Bool :=
  c.name == name && (key.map (· == c.key)).getD true

end Call

/-- Calls that are made to fail. -/
structure Outage where
  /-- The name of the calls. -/
  call : String
  /-- Whom or what they are about; none for all of them. -/
  key : Option String
  failure : Failure
  /-- How many more of them are let pass. -/
  skip : Nat
  /-- How many more of them fail; none for all of them. -/
  times : Option Nat

namespace Outage

/-- Whether an outage decides about a call. -/
def decides (c : Call) (f : Outage) : Bool := c.isNamed f.call f.key && f.times != some 0

/-- The failure that a call meets, if any, and the outages afterwards. The first outage that decides
about the call decides alone. -/
def meet (c : Call) : List Outage → Option Failure × List Outage
  | [] => (none, [])
  | f :: rest =>
    if f.decides c then
      if f.skip = 0 then (some f.failure, { f with times := f.times.map (· - 1) } :: rest)
      else (none, { f with skip := f.skip - 1 } :: rest)
    else
      let (met, rest) := meet c rest
      (met, f :: rest)

end Outage

/-- Rows that vanish when a call comes, once. -/
structure Ambush where
  /-- The name of the call. -/
  call : String
  /-- Whom or what it is about; none for any. -/
  key : Option String
  /-- The rows that vanish. -/
  victim : Instance → Bool

end GameFleet
