import GameFleet.Request

/-!
# Admission (specification §4.3)

An owner may have one instance. Admission reserves the owner's place with a pending row, deploys
the instance, and then replaces the row by a ready one, provided it is still there: an instance
whose row was removed meanwhile is destroyed.

- `Admission.gates`: what an owner has to pass before a place is reserved: the identity, the ban
  gate and the credit gate.
- `Admission.reserve`: the transaction that reserves a place.
- `Admission.promote`: the transaction that replaces the row.
- `Admission.grant`: the whole admission; tracked, it is `execute` of the `AdmissionController`.
-/

namespace GameFleet

/-- What an owner asks for. -/
structure AdmissionRequest where
  region : String
  variant : String
  owner : OwnerId
  guild : Option String
  deriving DecidableEq, Inhabited

namespace Admission

def missingIdentity : String :=
  "Before creating a server, please link your game account. "
    ++ "It is required to give you admin access to the server."

def insufficientCredits : String := "You have insufficient credits to start a server."

def alreadyRunning : String :=
  "You already have a server running. Please terminate it before creating a new one."

def reclaimedDuringDeploy : String :=
  "Your server took too long to start and was cleaned up. Please try again."

/-- What a banned owner is told. -/
def banned (b : Ban) : String :=
  "You are banned and cannot create servers. Reason: " ++ b.reason.getD "No reason provided"

/-- An owner without credits passes no gate, and the attempt is logged. -/
def creditGate (owner : OwnerId) : Op Unit := do
  let balance : Int ← Op.call (.balance owner)
  if balance ≤ 0 then
    Op.record owner.text "Owner tried to create a server but has no credits."
    throw (.user insufficientCredits)

/-- The owner's name in the game, once the owner has passed every gate. -/
def gates (billing : Bool) (owner : OwnerId) : Op String := do
  let identity : Option String ← Op.call (.identity owner)
  let some identity := identity | throw (.user missingIdentity)
  let ban : Option Ban ← Op.call (.ban owner identity)
  if let some ban := ban then throw (.user (banned ban))
  if billing then creditGate owner
  return identity

/-- Writes the pending row unless the owner's place is taken. -/
def reserve (pending : Instance) : Op Unit := Op.transaction do
  let rows : List Instance ← Op.call (.ownersInTransaction pending.owner)
  if rows.any Instance.isActive then throw (.user alreadyRunning)
  Op.call (.write pending)
  Op.call .commit

/-- Replaces the pending row by a ready one; false when there is no row any more. -/
def promote (ready : Instance) : Op Bool := Op.transaction do
  let row : Option Instance ← Op.call (.lockInstance ready.id)
  if row.isNone then
    Op.ask .abandon
    return false
  Op.call (.write ready)
  Op.call .commit
  return true

/-- The parameters of a guild; none without a guild. -/
def overridesOf : Option String → Op (List (String × String))
  | none => return []
  | some guild => Op.call (.overrides guild)

/-- What is logged of an instance that was created. -/
def createdMessage (i : Instance) : String :=
  "Owner created a server in region " ++ i.region ++ " with variant " ++ i.variant ++ "."

/-- Reserves a place for an owner who passed the gates. -/
def reserveFor (r : AdmissionRequest) : Op Instance := do
  let id : Uuid ← Op.ask .freshId
  let now : Timestamp ← Op.ask .now
  let pending := Instance.pending ⟨id⟩ r.owner r.region r.variant r.guild now
  reserve pending
  return pending

/-- Deploys a reserved instance. When it fails, the pending row stays. -/
def deployPending (pending : Instance) (identity : String) : Op Instance := do
  let overrides ← overridesOf pending.guild
  let order : DeployOrder :=
    { id := pending.id, region := pending.region, variant := pending.variant
      owner := pending.owner, identity, guild := pending.guild, overrides }
  let deployment : Deployment ← Op.call (.deploy order)
  return pending.promoted deployment

/-- Admits an owner: gates, reservation, deployment, promotion. -/
def grant (billing : Bool) (r : AdmissionRequest) : Op Instance := do
  let identity ← gates billing r.owner
  let pending ← reserveFor r
  let ready ← deployPending pending identity
  if ← promote ready then
    Op.record r.owner.text (createdMessage ready)
    return ready
  else
    Op.bestEffort (Op.call (.destroy ready.id ready.region))
    throw (.user reclaimedDuringDeploy)

end Admission

end GameFleet
