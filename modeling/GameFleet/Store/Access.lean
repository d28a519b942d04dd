import GameFleet.Admission
import GameFleet.Store.Command

/-!
# The fleet in a database (specification §2, persistence)

What the fleet asks of its rows, and the statements that answer it.

- `Store.upsertInstance` and the others: one query for each thing that is asked.
- `Store.query?`: the query for a call, if it is one that the database answers.
-/

namespace GameFleet.Store

/-- Writing an instance may run into the rule that an owner has one active instance; the owner is
told so. -/
def instanceRefusal (f : GameFleet.Failure) : Outcome Unit :=
  match f with
  | .store e =>
    .error (if e.hasCode Failure.uniqueViolation then .user Admission.alreadyRunning else f)
  | _ => .error f

/-- Writes the row of an instance. -/
def upsertInstance (now : Timestamp) (i : Instance) : Query Unit :=
  (Query.insert (Schema.instances.insertion (i.toRow now).params Schema.instanceReplaced)).refine
    instanceRefusal

/-- Closes the transaction in which an instance was written. -/
def commitInstance : Query Unit := Query.commit.refine instanceRefusal

/-- Removes the row of an instance. -/
def deleteInstance (id : InstanceId) : Query Unit :=
  Query.execute (Schema.instances.deletion (.uuid id.uuid))

/-- The instances that a selection reads. -/
def readInstances (s : Selection) : Query (List Instance) := do
  let rows : List InstanceRow ← Query.read .instances s.statement
  ExceptT.mk (pure (readAll rows))

/-- The instance that a selection of one row reads. -/
def readInstance? (s : Selection) : Query (Option Instance) := do
  let rows : List InstanceRow ← Query.read .instances s.statement
  match rows.head? with
  | none => return none
  | some r =>
    let i : Instance ← ExceptT.mk (pure r.read)
    return some i

/-- The selection of the instance with an identifier. -/
def instanceNamed (id : InstanceId) : Selection :=
  { table := Schema.instances, having := [("id", .uuid id.uuid)], one := true }

/-- The instance with an identifier. -/
def findInstance (id : InstanceId) : Query (Option Instance) := readInstance? (instanceNamed id)

/-- The same, locked until the transaction ends. -/
def lockInstance (id : InstanceId) : Query (Option Instance) :=
  readInstance? { instanceNamed id with locked := true }

/-- All instances, or those of one status, the oldest first. -/
def listInstances (status : Option Status) : Query (List Instance) :=
  readInstances {
    table := Schema.instances, oldestFirst := true
    having := status.toList.map fun s => ("status", .text s.text) }

/-- The instances of an owner, the oldest first. -/
def ownersInstances (owner : OwnerId) : Query (List Instance) :=
  readInstances {
    table := Schema.instances, oldestFirst := true, having := [("owner_id", .text owner.text)] }

/-- Writes an activity row. It does not matter when its instance is gone. -/
def upsertActivity (a : Activity) : Query Unit :=
  (Query.insert (Schema.activities.insertion a.params Schema.activityReplaced)).refine fun f =>
    match f with
    | .store e => if e.hasCode Failure.foreignKeyViolation then .ok () else .error f
    | _ => .error f

/-- Removes the activity row of an instance. -/
def deleteActivity (id : InstanceId) : Query Unit :=
  Query.execute (Schema.activities.deletion (.uuid id.uuid))

/-- The activity row of an instance. -/
def findActivity (id : InstanceId) : Query (Option Activity) := do
  let s : Selection :=
    { table := Schema.activities, having := [("instance_id", .uuid id.uuid)], one := true }
  let rows : List Activity ← Query.read .activities s.statement
  return rows.head?

/-- All activity rows. -/
def listActivities : Query (List Activity) :=
  Query.read .activities { table := Schema.activities : Selection }.statement

/-- The row of an owner. -/
def findOwner (owner : OwnerId) : Query (Option OwnerRow) := do
  let s : Selection :=
    { table := Schema.owners, having := [("id", .text owner.text)], one := true }
  let rows : List OwnerRow ← Query.read .owners s.statement
  return rows.head?

/-- The credits of an owner; one without a row has none. -/
def balance (owner : OwnerId) : Query Int := do
  return ((← findOwner owner).map (·.credits)).getD 0

/-- The name of an owner in the game. -/
def identity (owner : OwnerId) : Query (Option String) := do
  return (← findOwner owner).bind OwnerRow.identity?

/-- A ban on a name in the game or on an owner. -/
def ban (owner : OwnerId) (identity : String) : Query (Option Ban) := do
  let s : Selection :=
    { table := Schema.bans, one := true
      having := [("external_identity", .text identity), ("owner_id", .text owner.text)] }
  let rows : List Ban ← Query.read .bans s.statement
  return rows.head?

/-- The parameters of a guild; one without a row has none. -/
def overrides (guild : String) : Query (List (String × String)) := do
  let s : Selection :=
    { table := Schema.guilds, having := [("guild_id", .text guild)], one := true }
  let rows : List GuildRow ← Query.read .guilds s.statement
  return (rows.head?.map fun r => overridesOf r.overrides).getD []

/-- Appends an event under an identifier. -/
def appendEvent (id : Uuid) (e : Event) : Query Unit :=
  Query.insert (Schema.events.insertion
    [.uuid id, .text e.actor, .text e.message, .moment e.createdAt])

/-- The query for a call at some time, if it is one that the database answers. A fresh identifier
is used where a row needs one. -/
def query? (now : Timestamp) (fresh : Uuid) : (c : Call) → Option (Query c.Result)
  | .identity owner => some (identity owner)
  | .ban owner name => some (ban owner name)
  | .balance owner => some (balance owner)
  | .overrides guild => some (overrides guild)
  | .begin => some Query.begin
  | .lockInstance id => some (lockInstance id)
  | .ownersInTransaction owner => some (ownersInstances owner)
  | .write row => some (upsertInstance now row)
  | .commit => some commitInstance
  | .findInstance id => some (findInstance id)
  | .listInstances status => some (listInstances status)
  | .ownersInstances owner => some (ownersInstances owner)
  | .removeInstance id => some (deleteInstance id)
  | .listActivities => some listActivities
  | .recordActivity a => some (upsertActivity a)
  | .removeActivity id => some (deleteActivity id)
  | .log e => some (appendEvent fresh e)
  | .deploy _ => none
  | .destroy .. => none
  | .console _ => none
  | .notify .. => none
  | .errand _ => none

end GameFleet.Store
