import GameFleet.Instance
import GameFleet.Json.Decode

/-!
# Instances as JSON

Every record is written as an object with all its fields; what is absent is null. It is read as an
object or as an array of its fields in the order in which they are written here.
-/

namespace GameFleet

open Json

/-- An optional value, null when it is absent. -/
def Json.Value.opt {α : Type} (f : α → Value) : Option α → Value
  | none => .null
  | some a => f a

namespace InstanceId

def toJson (id : InstanceId) : Value := .string id.text

def decoder : Decoder InstanceId := fun t => InstanceId.mk <$> Decoder.uuid t

/-- Different instances are told apart. -/
theorem toJson_injective {id k : InstanceId} (h : id.toJson = k.toJson) : id = k := by
  cases id
  cases k
  exact congrArg mk (Uuid.text_injective (Value.string.inj h))

end InstanceId

namespace OwnerId

def toJson (o : OwnerId) : Value := .string o.text

def decoder : Decoder OwnerId := fun t => OwnerId.mk <$> Decoder.string t

end OwnerId

namespace Status

def toJson (s : Status) : Value := .string s.text

def decoder : Decoder Status := Decoder.choice named?

end Status

namespace Timestamp

def toJson (t : Timestamp) : Value := .string t.text

end Timestamp

namespace Endpoint

def toJson (e : Endpoint) : Value := .record [("host", .string e.host), ("port", .nat e.port)]

def shape : Shape Endpoint :=
  Endpoint.mk <$> .required "host" Decoder.string
    <*> .required "port" (Decoder.natural Text.maxWord16)

def decoder : Decoder Endpoint := shape.decode

end Endpoint

namespace Endpoints

def toJson (e : Endpoints) : Value := .record
  [("game", e.game.toJson), ("spectator", .opt Endpoint.toJson e.spectator),
    ("rcon", e.console.toJson)]

def shape : Shape Endpoints :=
  Endpoints.mk <$> .required "game" Endpoint.decoder
    <*> .optional "spectator" Endpoint.decoder
    <*> .required "rcon" Endpoint.decoder

def decoder : Decoder Endpoints := shape.decode

end Endpoints

namespace Credentials

def toJson (c : Credentials) : Value := .record
  [("server_password", .string c.server), ("rcon_password", .string c.console),
    ("spectator_password", .text? c.spectator)]

def shape : Shape Credentials :=
  Credentials.mk <$> .required "server_password" Decoder.string
    <*> .required "rcon_password" Decoder.string
    <*> .optional "spectator_password" Decoder.string

def decoder : Decoder Credentials := shape.decode

end Credentials

namespace Deployment

def toJson (d : Deployment) : Value := .record
  [("endpoints", d.endpoints.toJson), ("credentials", d.credentials.toJson)]

def shape : Shape Deployment :=
  Deployment.mk <$> .required "endpoints" Endpoints.decoder
    <*> .required "credentials" Credentials.decoder

def decoder : Decoder Deployment := shape.decode

end Deployment

namespace Instance

def toJson (i : Instance) : Value := .record
  [("id", i.id.toJson), ("owner_id", i.owner.toJson), ("status", i.status.toJson),
    ("region", .string i.region), ("variant", .string i.variant), ("guild_id", .text? i.guild),
    ("endpoints", .opt Endpoints.toJson i.endpoints),
    ("credentials", .opt Credentials.toJson i.credentials),
    ("created_at", i.createdAt.toJson)]

def shape : Shape Instance :=
  Instance.mk <$> .required "id" InstanceId.decoder
    <*> .required "owner_id" OwnerId.decoder
    <*> .required "status" Status.decoder
    <*> .required "region" Decoder.string
    <*> .required "variant" Decoder.string
    <*> .optional "guild_id" Decoder.string
    <*> .optional "endpoints" Endpoints.decoder
    <*> .optional "credentials" Credentials.decoder
    <*> .required "created_at" Decoder.timestamp

def decoder : Decoder Instance := shape.decode

end Instance

namespace Activity

def toJson (a : Activity) : Value := .record
  [("instance_id", a.server.toJson), ("empty_since", .opt Timestamp.toJson a.emptySince),
    ("last_checked_at", a.checkedAt.toJson)]

def shape : Shape Activity :=
  Activity.mk <$> .required "instance_id" InstanceId.decoder
    <*> .optional "empty_since" Decoder.timestamp
    <*> .required "last_checked_at" Decoder.timestamp

def decoder : Decoder Activity := shape.decode

end Activity

namespace Event

def toJson (e : Event) : Value := .record
  [("message", .string e.message), ("actor_id", .string e.actor),
    ("created_at", e.createdAt.toJson)]

def shape : Shape Event :=
  Event.mk <$> .required "message" Decoder.string
    <*> .required "actor_id" Decoder.string
    <*> .required "created_at" Decoder.timestamp

def decoder : Decoder Event := shape.decode

end Event

end GameFleet
