import GameFleet.Failure
import GameFleet.Instance
import GameFleet.Json.Printer
import GameFleet.Store.Statement
import GameFleet.Text.Quoted

/-!
# Rows (specification §2, persistence)

- `Store.InstanceRow`: the row of an instance. Its fields may be absent independently of each other.
- `Instance.toRow`, `InstanceRow.read`: writing an instance as a row and reading it back. Addresses
  need a host and a port that is one; of the endpoints, the spectators' may be missing.
- `InstanceRow.overwritten`: a row after some columns were replaced.
- Rows of the other tables, and what is read from them.
-/

namespace GameFleet

namespace Store

/-- The row of an instance. -/
structure InstanceRow where
  id : Uuid
  owner : String
  status : String
  region : String
  variant : String
  guild : Option String
  gameHost : Option String
  gamePort : Option Int
  spectatorHost : Option String
  spectatorPort : Option Int
  consoleHost : Option String
  consolePort : Option Int
  serverPassword : Option String
  consolePassword : Option String
  spectatorPassword : Option String
  createdAt : Timestamp
  updatedAt : Timestamp
  deriving DecidableEq, Inhabited

/-- The address of a host and a port, if both are there and the port has 16 bits. -/
def endpoint? (host : Option String) (port : Option Int) : Option Endpoint := do
  let host ← host
  let port ← port
  if 0 ≤ port ∧ port ≤ Text.maxWord16 then some ⟨host, port.toNat⟩ else none

namespace InstanceRow

/-- The addresses in a row. -/
def endpoints? (r : InstanceRow) : Option Endpoints := do
  let game ← endpoint? r.gameHost r.gamePort
  let console ← endpoint? r.consoleHost r.consolePort
  return ⟨game, endpoint? r.spectatorHost r.spectatorPort, console⟩

/-- The passwords in a row. -/
def credentials? (r : InstanceRow) : Option Credentials := do
  let server ← r.serverPassword
  let console ← r.consolePassword
  return ⟨server, console, r.spectatorPassword⟩

/-- The failure for a row whose status is none. -/
def unknownStatus (r : InstanceRow) : GameFleet.Failure :=
  .internal ("instance " ++ r.id.text ++ " has unknown status " ++ Text.quoted r.status)

/-- The instance in a row. -/
def read (r : InstanceRow) : Outcome Instance :=
  match Status.read? r.status with
  | none => .error r.unknownStatus
  | some status => .ok {
      id := ⟨r.id⟩, owner := ⟨r.owner⟩, status, region := r.region, variant := r.variant
      guild := r.guild, endpoints := r.endpoints?, credentials := r.credentials?
      createdAt := r.createdAt }

/-- The values of the columns, in their order. -/
def params (r : InstanceRow) : List Param :=
  [.uuid r.id, .text r.owner, .text r.status, .text r.region, .text r.variant, .text? r.guild,
    .text? r.gameHost, .whole? r.gamePort, .text? r.spectatorHost, .whole? r.spectatorPort,
    .text? r.consoleHost, .whole? r.consolePort, .text? r.serverPassword,
    .text? r.consolePassword, .text? r.spectatorPassword, .moment r.createdAt,
    .moment r.updatedAt]

/-- The row after the columns named were replaced by those of another row. -/
def overwritten (columns : List String) (old new : InstanceRow) : InstanceRow :=
  let pick {α : Type} (name : String) (field : InstanceRow → α) : α :=
    field (if columns.contains name then new else old)
  { id := pick "id" (·.id)
    owner := pick "owner_id" (·.owner)
    status := pick "status" (·.status)
    region := pick "region" (·.region)
    variant := pick "variant" (·.variant)
    guild := pick "guild_id" (·.guild)
    gameHost := pick "game_host" (·.gameHost)
    gamePort := pick "game_port" (·.gamePort)
    spectatorHost := pick "tv_host" (·.spectatorHost)
    spectatorPort := pick "tv_port" (·.spectatorPort)
    consoleHost := pick "rcon_host" (·.consoleHost)
    consolePort := pick "rcon_port" (·.consolePort)
    serverPassword := pick "server_password" (·.serverPassword)
    consolePassword := pick "rcon_password" (·.consolePassword)
    spectatorPassword := pick "tv_password" (·.spectatorPassword)
    createdAt := pick "created_at" (·.createdAt)
    updatedAt := pick "updated_at" (·.updatedAt) }

end InstanceRow

/-- The instances in rows; the first row that cannot be read ends it. -/
def readAll : List InstanceRow → Outcome (List Instance)
  | [] => .ok []
  | r :: rest => do
    let i ← r.read
    return i :: (← readAll rest)

end Store

open Store

/-- The row of an instance that is written at some time. -/
def Instance.toRow (i : Instance) (now : Timestamp) : InstanceRow :=
  let spectator := i.endpoints.bind (·.spectator)
  { id := i.id.uuid, owner := i.owner.text, status := i.status.text, region := i.region
    variant := i.variant, guild := i.guild
    gameHost := i.endpoints.map (·.game.host)
    gamePort := i.endpoints.map fun e => (e.game.port : Int)
    spectatorHost := spectator.map (·.host)
    spectatorPort := spectator.map fun e => (e.port : Int)
    consoleHost := i.endpoints.map (·.console.host)
    consolePort := i.endpoints.map fun e => (e.console.port : Int)
    serverPassword := i.credentials.map (·.server)
    consolePassword := i.credentials.map (·.console)
    spectatorPassword := i.credentials.bind (·.spectator)
    createdAt := i.createdAt, updatedAt := now }

/-- The values of an activity row, in the order of the columns. -/
def Activity.params (a : Activity) : List Param :=
  [.uuid a.server.uuid, .moment? a.emptySince, .moment a.checkedAt]

namespace Store

/-- The row of an owner. -/
structure OwnerRow where
  identity : Option String
  credits : Int
  deriving DecidableEq, Inhabited

namespace OwnerRow

/-- The owner's name in the game, without blanks around it; none when nothing is left. -/
def identity? (r : OwnerRow) : Option String :=
  (r.identity.map Text.trimmed).filter (· ≠ "")

end OwnerRow

/-- The row of a guild's parameters. -/
structure GuildRow where
  overrides : Json.Value
  deriving Inhabited

/-- A parameter as text; null is none. What is no text stands as JSON. -/
def overrideText? : Json.Value → Option String
  | .null => none
  | .string s => some s
  | v => some v.text

/-- The parameters of a guild by name; whatever is no object has none. -/
def overridesOf : Json.Value → List (String × String)
  | .object members => members.filterMap fun (name, v) => (overrideText? v).map (name, ·)
  | _ => []

end Store

end GameFleet
