import GameFleet.Failure
import GameFleet.Program
import GameFleet.Task

/-!
# What operations ask for (specification §6)

Operations of the fleet ask collaborators: the fleet's rows and transactions on them, the activity
rows, the provisioner, the consoles of instances, the ledger and directories, the event log, and
the notifier. Every such call may fail. Besides, they ask for the time, for new identifiers and
for the task queue, which always answer.

- `Call`: a call to a collaborator, and `Call.Result` what it gives.
- `Request`: anything an operation asks for, and `Request.Answer` what it gives.
- `Op`: an operation.
-/

namespace GameFleet

/-- A ban, perhaps with a reason. -/
structure Ban where
  reason : Option String
  deriving DecidableEq, Repr, Inhabited

/-- What an instance is to be deployed with. -/
structure DeployOrder where
  id : InstanceId
  region : String
  variant : String
  owner : OwnerId
  /-- The owner's name in the game, which gets the rights of an administrator. -/
  identity : String
  guild : Option String
  /-- Parameters of the guild, by name. -/
  overrides : List (String × String)
  deriving DecidableEq, Inhabited

/-- A command for the console of an instance. -/
structure ConsoleQuery where
  console : Endpoint
  password : String
  command : String
  /-- How long the answer may take. -/
  timeout : Span
  deriving DecidableEq, Inhabited

/-- Work that is done outside the fleet. -/
inductive Errand where
  /-- A task of a kind that the fleet does not know is processed. -/
  | process (kind : String) (payload : Json.Value)
  /-- A named action is taken. -/
  | action (name : String)
  /-- Whoever named a task is told how it ended. -/
  | report (name : String) (outcome : Except Failure Json.Value)

/-- A call to a collaborator. -/
inductive Call where
  /-- The name of an owner in the game. -/
  | identity (owner : OwnerId)
  /-- A ban on an owner or a name in the game. -/
  | ban (owner : OwnerId) (identity : String)
  /-- The credits of an owner. -/
  | balance (owner : OwnerId)
  /-- The parameters of a guild. -/
  | overrides (guild : String)
  /-- A transaction is opened. -/
  | begin
  /-- In the transaction: the row of an instance, locked. -/
  | lockInstance (id : InstanceId)
  /-- In the transaction: the rows of an owner. -/
  | ownersInTransaction (owner : OwnerId)
  /-- In the transaction: a row is written. -/
  | write (row : Instance)
  /-- The transaction is closed, and what it wrote stands. -/
  | commit
  /-- The row of an instance. -/
  | findInstance (id : InstanceId)
  /-- All rows, or those of one status. -/
  | listInstances (status : Option Status)
  /-- The rows of an owner. -/
  | ownersInstances (owner : OwnerId)
  /-- The row of an instance is removed, if it is there. -/
  | removeInstance (id : InstanceId)
  /-- All activity rows. -/
  | listActivities
  /-- An activity row is written. -/
  | recordActivity (a : Activity)
  /-- The activity row of an instance is removed, if it is there. -/
  | removeActivity (id : InstanceId)
  /-- An instance is deployed. -/
  | deploy (order : DeployOrder)
  /-- An instance is destroyed, if it is there. -/
  | destroy (id : InstanceId) (region : String)
  /-- A command is given to a console. -/
  | console (query : ConsoleQuery)
  /-- An owner is told something. -/
  | notify (owner : OwnerId) (message : String)
  /-- An event is logged. -/
  | log (e : Event)
  /-- Work outside the fleet is done. -/
  | errand (e : Errand)

/-- What a call gives when it does not fail. -/
def Call.Result : Call → Type
  | identity _ => Option String
  | ban .. => Option Ban
  | balance _ => Int
  | overrides _ => List (String × String)
  | lockInstance _ => Option Instance
  | ownersInTransaction _ => List Instance
  | findInstance _ => Option Instance
  | listInstances _ => List Instance
  | ownersInstances _ => List Instance
  | listActivities => List Activity
  | deploy _ => Deployment
  | console _ => String
  | errand _ => Json.Value
  | begin => Unit
  | write _ => Unit
  | commit => Unit
  | removeInstance _ => Unit
  | recordActivity _ => Unit
  | removeActivity _ => Unit
  | destroy .. => Unit
  | notify .. => Unit
  | log _ => Unit

/-- Anything an operation asks for. -/
inductive Request where
  | call (c : Call)
  /-- The time. -/
  | now
  /-- An identifier that was never given before. -/
  | freshId
  /-- The open transaction is given up, and what it wrote is lost. -/
  | abandon
  /-- Whether a task with this payload is waiting. -/
  | isQueued (kind : String) (payload : Json.Value)
  /-- A task is enqueued. -/
  | enqueue (order : TaskOrder)

/-- What a request gives. -/
def Request.Answer : Request → Type
  | call c => Except Failure c.Result
  | now => Timestamp
  | freshId => Uuid
  | abandon => Unit
  | isQueued .. => Bool
  | enqueue _ => Unit

/-- An operation on its way. -/
abbrev Running (α : Type) := Program Request Request.Answer (Except Failure α)

/-- An operation: it asks for things, and it may fail. -/
abbrev Op (α : Type) := ExceptT Failure (Program Request Request.Answer) α

namespace Op

variable {α : Type}

/-- Asks for something that is always answered. -/
def ask (r : Request) : Op r.Answer := ExceptT.lift (Program.request r)

/-- Calls a collaborator; its failure is the operation's. -/
def call (c : Call) : Op c.Result := ExceptT.mk (Program.request (Request.call c))

/-- An operation that gives its failure as a value. -/
def attempt (op : Op α) : Op (Except Failure α) := ExceptT.lift op.run

/-- An operation whose failure does not matter. -/
def bestEffort (op : Op α) : Op Unit := do
  let _ ← attempt op

/-- An operation inside a transaction, which is given up when the operation fails. -/
def transaction (body : Op α) : Op α := do
  call .begin
  match ← attempt body with
  | .ok a => return a
  | .error f =>
    ask .abandon
    throw f

/-- Logs an event about somebody; it does not matter when that fails. -/
def record (actor message : String) : Op Unit := do
  let now ← ask .now
  bestEffort (call (.log ⟨message, actor, now⟩))

end Op

end GameFleet
