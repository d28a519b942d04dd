import GameFleet.Text.Blank
import GameFleet.Text.Numeral
import GameFleet.Time.Timestamp
import GameFleet.Uuid

/-!
# Game server instances (specification §3)

- `Instance`: a game server of the fleet, from the moment its place is reserved.
- `Status`: whether it is still being deployed or ready.
- `Deployment`: what deploying it gives: where it is reached and with which passwords.
- `Instance.pending`, `Instance.promoted`: the reserved instance, and the instance once deployed.
- `Activity`: what is known about whether anybody plays on it.
-/

namespace GameFleet

/-- What names an instance. -/
structure InstanceId where
  uuid : Uuid
  deriving DecidableEq, Inhabited

namespace InstanceId

def text (id : InstanceId) : String := id.uuid.text

def read? (s : String) : Option InstanceId := (Uuid.read? s).map InstanceId.mk

end InstanceId

/-- Whoever asked for an instance and controls it. -/
structure OwnerId where
  text : String
  deriving DecidableEq, Inhabited, Repr

/-- How far an instance has come. -/
inductive Status where
  | pending
  | ready
  deriving DecidableEq, Repr, Inhabited

namespace Status

def text : Status → String
  | pending => "pending"
  | ready => "ready"

/-- The status with a name, spelled exactly. -/
def named? (s : String) : Option Status :=
  if s = "pending" then some pending else if s = "ready" then some ready else none

/-- The status with a name, in any letter case and between blanks. -/
def read? (s : String) : Option Status := named? (Text.lowered (Text.trimmed s))

end Status

/-- Where something is reached. -/
structure Endpoint where
  host : String
  port : Nat
  deriving DecidableEq, Repr, Inhabited

namespace Endpoint

def text (e : Endpoint) : String := e.host ++ ":" ++ Text.natText e.port

end Endpoint

/-- Where the parts of an instance are reached. -/
structure Endpoints where
  /-- Where players connect. -/
  game : Endpoint
  /-- The relay for spectators, where there is one. -/
  spectator : Option Endpoint
  /-- The remote console. -/
  console : Endpoint
  deriving DecidableEq, Repr, Inhabited

/-- The passwords of an instance. -/
structure Credentials where
  server : String
  console : String
  spectator : Option String
  deriving DecidableEq, Inhabited

namespace Credentials

/-- The credentials as they may be shown: which are there, but none of them. -/
def redacted (c : Credentials) : String :=
  "Credentials \x7b server_password: \"<redacted>\", rcon_password: \"<redacted>\", "
    ++ "spectator_password: "
    ++ (if c.spectator.isSome then "Some(\"<redacted>\")" else "None") ++ " \x7d"

end Credentials

/-- What deploying an instance gives. -/
structure Deployment where
  endpoints : Endpoints
  credentials : Credentials
  deriving DecidableEq, Inhabited

/-- A game server of the fleet. -/
structure Instance where
  id : InstanceId
  owner : OwnerId
  status : Status
  region : String
  variant : String
  guild : Option String
  /-- None while the instance is pending. -/
  endpoints : Option Endpoints
  /-- None while the instance is pending. -/
  credentials : Option Credentials
  createdAt : Timestamp
  deriving DecidableEq, Inhabited

namespace Instance

/-- The instance that is reserved before anything is deployed. -/
def pending (id : InstanceId) (owner : OwnerId) (region variant : String)
    (guild : Option String) (now : Timestamp) : Instance :=
  ⟨id, owner, .pending, region, variant, guild, none, none, now⟩

/-- The instance once it is deployed. -/
def promoted (i : Instance) (d : Deployment) : Instance :=
  { i with status := .ready, endpoints := some d.endpoints, credentials := some d.credentials }

/-- Whether the instance takes its owner's place. -/
def isActive (i : Instance) : Bool := i.status == .pending || i.status == .ready

/-- The signed nanoseconds since the instance was reserved. -/
def age (i : Instance) (now : Timestamp) : Int := now.since i.createdAt

/-- Where the remote console is and its password, once the instance is deployed. -/
def console? (i : Instance) : Option (Endpoint × String) := do
  let endpoints ← i.endpoints
  let credentials ← i.credentials
  return (endpoints.console, credentials.console)

@[simp] theorem promoted_id (i : Instance) (d : Deployment) : (i.promoted d).id = i.id := rfl

@[simp] theorem promoted_owner (i : Instance) (d : Deployment) :
    (i.promoted d).owner = i.owner := rfl

/-- Both statuses take the owner's place. -/
theorem isActive_eq_true (i : Instance) : i.isActive = true := by
  unfold isActive
  cases i.status <;> rfl

end Instance

/-- What is known about whether anybody plays on an instance. -/
structure Activity where
  server : InstanceId
  /-- Since when nobody has been seen on it; none while somebody plays. -/
  emptySince : Option Timestamp
  /-- When it was last looked at. -/
  checkedAt : Timestamp
  deriving DecidableEq, Inhabited

/-- Something worth telling that happened in the fleet. -/
structure Event where
  message : String
  /-- The owner or policy it is about. -/
  actor : String
  createdAt : Timestamp
  deriving DecidableEq, Inhabited, Repr

end GameFleet
