import GameFleet.Instance.Json
import GameFleet.Json.Bytes
import GameFleet.Net.Url
import GameFleet.Request

/-!
# Collaborators behind web addresses (specification §2, webhook collaborators)

The provisioner and the notifier are reached by posting JSON.

- `Webhook.Post`: what is posted.
- `Webhook.Reply`: what comes back.
- `Post.exchange`: what a peer at some place is asked for, and what comes back when it replies.
- `Webhook.deployPost`, `Webhook.deployment`: a deployment is asked for, and its reply read.
- `Webhook.destroyPost`, `Webhook.destroyed`: the same for destroying an instance, which succeeds
  when there is none.
- `Webhook.noticePost`, `Webhook.notified`: the same for telling an owner something.
-/

namespace GameFleet

open Json

/-- What a provisioner is told of an instance to be deployed. -/
def DeployOrder.toJson (o : DeployOrder) : Value := .record
  [("instance_id", o.id.toJson), ("region", .string o.region), ("variant", .string o.variant),
    ("owner_id", o.owner.toJson), ("owner_identity", .string o.identity),
    ("guild_id", .text? o.guild),
    ("overrides", .record (o.overrides.map fun (n, v) => (n, .string v)))]

namespace Webhook

/-- What is posted. -/
structure Post where
  url : String
  body : Value

/-- What comes back. -/
inductive Reply where
  /-- Nothing came in time, or nobody was reached. -/
  | unanswered
  /-- A status and the bytes of the body; none when the body broke off. -/
  | answered (status : Nat) (body : Option (List UInt8))

/-- Statuses whose replies end with their heads. -/
def bodiless : List Nat := [101, 204, 304]

/-- The reply that begins with a status. One that announces another reply, or is no status at all,
never ends in an answer. -/
def Reply.ofStatus (status : Nat) (body : Option (List UInt8)) : Reply :=
  if status = 101 ∨ (200 ≤ status ∧ status ≤ 999) then
    .answered status (if bodiless.contains status then some [] else body)
  else .unanswered

/-- What a peer at some place is asked for, if a post reaches it. -/
def Post.target? (p : Post) (place : Url) : Option String := do
  let u ← Url.read? p.url
  if u.scheme = place.scheme ∧ u.host = place.host ∧ u.port = place.port then some u.requested
  else none

/-- What a peer at some place is asked for, and what comes back when it replies `r`. -/
def Post.exchange (p : Post) (place : Url) (r : Reply) : Option String × Reply :=
  match p.target? place with
  | some target => (some target, r)
  | none => (none, .unanswered)

/-- The name that the program goes by. -/
def userAgent : String := "quickserver-control"

/-- A base address without blanks around it and slashes at its end. -/
def trimmedBase (base : String) : String :=
  String.ofList (((Text.trim base.toList).reverse.dropWhile (· = '/')).reverse)

/-- What asks for a deployment. -/
def deployPost (base : String) (o : DeployOrder) : Post where
  url := trimmedBase base ++ "/deploy"
  body := o.toJson

/-- What a requester is told when the provisioner says nothing about why there is no room. -/
def noRoom (region : String) : String :=
  "There is no capacity left in " ++ region
    ++ " right now. Please try another region or try again later."

/-- The text of a body, with replacements for what is no text. -/
def bodyText (body : Option (List UInt8)) : String :=
  String.ofList (Utf8.decodeLossy (body.getD []))

/-- The deployment in a body. -/
def readDeployment? (body : Option (List UInt8)) : Option Deployment := do
  decodeBytes? Deployment.decoder (← body)

/-- Whether a status says that there is no room. -/
def saysNoRoom (status : Nat) : Bool := status = 503 || status = 429

/-- Whether a status says that something went wrong, on either side. -/
def saysFailed (status : Nat) : Bool := 400 ≤ status && status < 600

/-- What the reply to a deployment says. -/
def deployment (o : DeployOrder) : Reply → Outcome Deployment
  | .unanswered => .error (.internal ("deploy " ++ o.id.text))
  | .answered status body =>
    if saysNoRoom status then
      let text := Text.trimmed (bodyText body)
      .error (.noCapacity (if text = "" then noRoom o.region else text))
    else if saysFailed status then .error (.internal ("deploy " ++ o.id.text))
    else
      match readDeployment? body with
      | some d => .ok d
      | none => .error (.internal ("parse deploy response for " ++ o.id.text))

/-- What asks for the end of an instance. -/
def destroyPost (base : String) (id : InstanceId) (region : String) : Post where
  url := trimmedBase base ++ "/destroy"
  body := .record [("instance_id", id.toJson), ("region", .string region)]

/-- What the reply to the end of an instance says. -/
def destroyed (id : InstanceId) : Reply → Outcome Unit
  | .unanswered => .error (.internal ("destroy " ++ id.text))
  | .answered status _ =>
    if status ≠ 404 ∧ saysFailed status then .error (.internal ("destroy " ++ id.text)) else .ok ()

/-- What tells an owner something. -/
def noticePost (url : String) (owner : OwnerId) (message : String) : Post where
  url := Text.trimmed url
  body := .record [("owner_id", owner.toJson), ("message", .string message)]

/-- What the reply to a notice says. -/
def notified : Reply → Outcome Unit
  | .answered status _ =>
    if saysFailed status then .error (.internal "send owner notification") else .ok ()
  | .unanswered => .error (.internal "send owner notification")

end Webhook

end GameFleet
