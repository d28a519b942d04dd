import GameFleet.Admission
import GameFleet.Http.MediaType
import GameFleet.Http.Target
import GameFleet.Instance.Json
import GameFleet.Json.Printer
import GameFleet.Text.Percent

/-!
# The web interface (specification §8)

- `Http.Message`, `Http.Reply`: what a client sends and what it gets.
- `Http.Route`: what a message asks for: the state of the program, an admission, the removal of an
  owner's instances, or something that is refused at once.
- `Reply.ofFailure`: how a failure is told to a client. Of failures inside the fleet nothing is
  told.
-/

namespace GameFleet.Http

open Json

/-- What a client sends. -/
structure Message where
  method : String
  target : String
  contentType : Option String
  body : String
  deriving DecidableEq, Inhabited

/-- The body of a reply. -/
inductive Body where
  | empty
  /-- There is a body, but only the head was asked for. -/
  | omitted
  | text (s : String)
  | json (v : Value)
  deriving Inhabited

/-- What a client gets. -/
structure Reply where
  status : Nat
  body : Body
  deriving Inhabited

/-- What a message asks for. -/
inductive Route where
  /-- The state of the program; its body is left out when only the head is asked for. -/
  | health (headOnly : Bool)
  | create (r : AdmissionRequest)
  | remove (owner : OwnerId)
  | refused (r : Reply)

/-- The state of the program. -/
structure Health where
  draining : Bool
  inFlight : Nat
  queueRunning : Bool
  queueDepth : Nat
  billing : Bool

/-- The version of the program. -/
def version : String := "0.2.0"

namespace Health

def toJson (h : Health) : Value := .record
  [("status", .string (if h.draining then "draining" else "ok")), ("version", .string version),
    ("draining", .bool h.draining), ("in_flight", .nat h.inFlight),
    ("queue_running", .bool h.queueRunning), ("queue_depth", .nat h.queueDepth),
    ("billing_enabled", .bool h.billing)]

end Health

namespace Reply

/-- The reply that an instance was created. -/
def created (i : Instance) : Reply := ⟨201, .json i.toJson⟩

/-- The reply that instances were removed. -/
def deleted (ids : List InstanceId) : Reply :=
  ⟨200, .json (.record [("deleted", .array (ids.map (·.toJson)))])⟩

/-- The reply to a request that failed. -/
def ofFailure (f : Failure) : Reply :=
  ⟨f.httpStatus,
    .json (.record [("error", .string f.publicMessage), ("kind", .string f.label)])⟩

/-- The reply with the state of the program. -/
def health (headOnly : Bool) (h : Health) : Reply :=
  ⟨200, if headOnly then .omitted else .json h.toJson⟩

def notFound : Reply := ⟨404, .empty⟩

def wrongMethod : Reply := ⟨405, .empty⟩

def invalidUrl : Reply := ⟨400, .text "Invalid URL"⟩

def notJson : Reply := ⟨415, .text "Expected request with \x60Content-Type"⟩

/-- The reply to a body with a fault. -/
def ofFault : Fault → Reply
  | .malformed => ⟨400, .text "Failed to parse the request body as JSON"⟩
  | .unfit => ⟨422, .text "Failed to deserialize the JSON body into the target type"⟩

end Reply

/-- The body of an admission. -/
def admissionShape : Shape AdmissionRequest :=
  (fun region variant owner guild => ⟨region, variant, ⟨owner⟩, guild⟩)
    <$> Shape.required "region" Decoder.string
    <*> .required "variant" Decoder.string
    <*> .required "owner_id" Decoder.string
    <*> .defaulted "guild_id" Decoder.string

namespace Route

/-- An admission as a message asks for it. What follows the value in its body is passed over. -/
def ofAdmission (m : Message) : Route :=
  if !(m.contentType.map MediaType.isJson).getD false then .refused .notJson
  else
    match admissionShape.decode (Tree.read m.body.toList).1 with
    | .ok r => .create r
    | .error f => .refused (.ofFault f)

/-- A removal as the owner in the path asks for it. -/
def ofRemoval (owner : List Char) : Route :=
  match Text.percentDecode? (String.ofList owner) with
  | some owner => .remove ⟨owner⟩
  | none => .refused .invalidUrl

/-- The owner in a path. -/
def ownerIn? (path : List Char) : Option (List Char) :=
  match Text.splitAtChar '/' path with
  | [[], first, owner, last] =>
    if first = "owners".toList ∧ last = "instance".toList then some owner else none
  | _ => none

/-- What a message asks for. The query of its target does not matter. -/
def of (m : Message) : Route :=
  let path := Target.pathOf m.target.toList
  if path = "/healthz".toList then
    if m.method = "GET" ∨ m.method = "HEAD" then .health (m.method = "HEAD")
    else .refused .wrongMethod
  else if path = "/instances".toList then
    if m.method = "POST" then ofAdmission m else .refused .wrongMethod
  else
    match ownerIn? path with
    | some owner => if m.method = "DELETE" then ofRemoval owner else .refused .wrongMethod
    | none => .refused .notFound

end Route

end GameFleet.Http
