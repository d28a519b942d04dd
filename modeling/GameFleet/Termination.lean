import GameFleet.Instance.Json
import GameFleet.Json.Untyped
import GameFleet.Request

/-!
# Termination (specification §4.6)

An instance is destroyed first and its rows are removed afterwards, so that a failure leaves the
row for the next attempt. Every step may be done twice.

- `Termination.terminate`: the steps.
- `Termination.remove`: termination of the instance with an identifier, if it has a row:
  `delete_instance`.
- `Termination.removeOwned`: termination of all instances of an owner: `delete_for_owner`.
- `DeletionOrder`: the payload of a task that removes an instance, and `Termination.process` what
  is done with it.
-/

namespace GameFleet

namespace Termination

/-- What is logged of an instance that was terminated. -/
def message (i : Instance) (reason : String) : String :=
  "Instance " ++ i.id.text ++ " in " ++ i.region ++ " terminated: " ++ reason ++ "."

/-- Destroys an instance, then removes its rows, then logs it. -/
def terminate (i : Instance) (reason : String) : Op Unit := do
  Op.call (.destroy i.id i.region)
  Op.call (.removeInstance i.id)
  Op.call (.removeActivity i.id)
  Op.record i.owner.text (message i reason)

/-- Terminates the instance with an identifier; false when it has no row. -/
def remove (id : InstanceId) (reason : String) : Op Bool := do
  let row : Option Instance ← Op.call (.findInstance id)
  match row with
  | none => return false
  | some i =>
    terminate i reason
    return true

def nothingOwned : String := "You don't have any server to terminate."

/-- Terminates instances one after another; the first failure ends it. -/
def terminateAll (reason : String) : List Instance → Op (List InstanceId)
  | [] => return []
  | i :: rest => do
    terminate i reason
    let ids ← terminateAll reason rest
    return i.id :: ids

/-- Terminates all instances of an owner. -/
def removeOwned (owner : OwnerId) : Op (List InstanceId) := do
  let rows : List Instance ← Op.call (.ownersInstances owner)
  if rows.isEmpty then
    Op.record owner.text "Owner tried to terminate a server but has none."
    throw (.user nothingOwned)
  terminateAll "terminated by its owner" rows

end Termination

/-- The payload of a task that removes an instance. -/
structure DeletionOrder where
  id : InstanceId
  reason : Option String
  deriving DecidableEq, Inhabited

namespace DeletionOrder

open Json

/-- The kind of the tasks that remove an instance. -/
def kind : String := "delete-instance"

/-- Removing an instance is tried ten times in about an hour. -/
def policy : RetryPolicy :=
  { maxRuns := 10, initialDelay := 60000, maxDelay := 600000, multiplier := .ofNat 2 }

def toJson (d : DeletionOrder) : Value :=
  .record [("instance_id", d.id.toJson), ("reason", .text? d.reason)]

def shape : Shape DeletionOrder :=
  DeletionOrder.mk <$> .required "instance_id" InstanceId.decoder
    <*> .defaulted "reason" Decoder.string

def decoder : Decoder DeletionOrder := shape.decode

/-- The payload names the instance. -/
theorem member?_toJson (d : DeletionOrder) :
    d.toJson.member? "instance_id" = some d.id.toJson := by
  simp only [toJson, Value.record, Table.ofList, List.foldl_cons, List.foldl_nil, Value.member?]
  rw [Table.lookup_put_of_ne _ _ (by decide), Table.lookup_put_self]

end DeletionOrder

namespace Termination

/-- Removes the instance that a payload names. -/
def process (payload : Json.Value) : Op Json.Value := do
  match DeletionOrder.decoder (.ofValue payload) with
  | .error _ => throw (.internal ("decode " ++ DeletionOrder.kind ++ " payload"))
  | .ok order =>
    let deleted ← remove order.id (order.reason.getD "deleted by background task")
    return .record [("instance_id", order.id.toJson), ("deleted", .bool deleted)]

end Termination

end GameFleet
