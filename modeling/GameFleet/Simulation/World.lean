import GameFleet.Control.State
import GameFleet.Simulation.Journal
import GameFleet.Simulation.Rows

/-!
# Collaborators in memory

The collaborators of the fleet are played by tables. What they do can be watched and steered: every
call is noted in a journal, calls can be made to fail, rows can be made to vanish, deployments can
be held up, and tasks and actions take the course that was laid down for them.

- `World`: the collaborators.
- `World.perform`: what a call gives and changes.
- `World.serve`: a call with everything that befalls it.
- `World.surroundings`: the surroundings that they make for the program.
-/

namespace GameFleet

open Json

/-- How a task or an action goes out. -/
inductive Course where
  | panics
  | fails (f : Failure)
  /-- It gives a value; none stands for what it was given. -/
  | gives (v : Option Value)

/-- One run of a task: how long it takes, if any time at all, and how it goes out. -/
structure Turn where
  millis : Option Nat := none
  course : Course := .gives none

/-- What processes tasks of a kind. -/
structure TaskScript where
  kind : String
  /-- One for each run; the last stands for all that follow. -/
  turns : List Turn
  /-- How many runs there were. -/
  runs : Nat := 0

/-- What a thread waits for. -/
inductive Pause where
  /-- A deployment is held up until it is let go. -/
  | held
  /-- A deployment was let go. -/
  | letGo
  /-- A task takes its time. -/
  | asleep (due : Nat) (course : Course)
  /-- A named action waits until it is told how to go out. -/
  | gated (name : String) (course : Option Course)

/-- The collaborators. -/
structure World where
  /-- When the clock started. -/
  start : Timestamp
  rows : List Instance := []
  /-- The rows as they were when lists of them were frozen, while they are. -/
  frozen : Option (List Instance) := none
  activities : List Activity := []
  identities : List (String × String) := []
  /-- Bans, by owner or by the name in the game. -/
  bans : List (String × Ban) := []
  credits : List (String × Int) := []
  guilds : List (String × List (String × String)) := []
  /-- What consoles answer, by host. -/
  consoles : List (String × String) := []
  /-- Where instances are deployed. -/
  host : String
  /-- The rows that were written in open transactions, by thread. -/
  transactions : List (Nat × List Instance) := []
  outages : List Outage := []
  ambushes : List Ambush := []
  /-- Deployments are held up. -/
  holding : Bool := false
  scripts : List TaskScript := []
  /-- What threads wait for, in the order in which they began to. -/
  pauses : List (Nat × Pause) := []
  /-- How many identifiers were made. -/
  made : Nat := 0
  /-- What was noted, the last first. -/
  journal : Journal := []

namespace World

/-! ### What deployments give -/

def gamePort : Nat := 27015

def spectatorPort : Nat := 27020

/-- Where the parts of an instance on a host are reached. -/
def endpointsAt (host : String) : Endpoints where
  game := ⟨host, gamePort⟩
  spectator := some ⟨host, spectatorPort⟩
  console := ⟨host, gamePort⟩

/-- The passwords of every instance. -/
def credentials : Credentials where
  server := "server-pw"
  console := "rcon-pw"
  spectator := some "tv-pw"

/-- What deploying an instance on a host gives. -/
def deploymentAt (host : String) : Deployment := ⟨endpointsAt host, credentials⟩

/-- The failure of a command for a console that does not answer. -/
def silence (q : ConsoleQuery) : Failure :=
  .internal ("rcon query to " ++ q.console.text ++ " timed out after "
    ++ Text.natText q.timeout.millis ++ "ms")

/-! ### Calls -/

/-- Notes something in the journal. -/
def note (w : World) (entry : Value) : World := { w with journal := entry :: w.journal }

/-- Notes a call, if it is to be noted. -/
def noteCall (w : World) (c : Call) (isFailed : Bool) : World :=
  ((c.entry? isFailed).map w.note).getD w

/-- The rows as a thread sees them in its transaction. -/
def view (w : World) (thread : Nat) : List Instance :=
  Rows.overlaid Instance.id w.rows ((w.transactions.lookup thread).getD [])

/-- The transactions without that of a thread. -/
def otherTransactions (w : World) (thread : Nat) : List (Nat × List Instance) :=
  w.transactions.filter (·.1 ≠ thread)

/-- A thread has written a row in its transaction. -/
def write (w : World) (thread : Nat) (row : Instance) : World :=
  let written := (w.transactions.lookup thread).getD []
  { w with transactions := (thread, written ++ [row]) :: w.otherTransactions thread }

/-- What was written in the transaction of a thread stands. -/
def commit (w : World) (thread : Nat) : World :=
  { w with rows := w.view thread, transactions := w.otherTransactions thread }

/-- The rows that lists are made of. -/
def listed (w : World) : List Instance := w.frozen.getD w.rows

/-- The ban on a name in the game, or else on an owner. -/
def ban? (w : World) (owner : OwnerId) (identity : String) : Option Ban :=
  (w.bans.lookup identity).or (w.bans.lookup owner.text)

/-- The rows of an owner, the oldest first. -/
def owned (owner : OwnerId) (rows : List Instance) : List Instance :=
  Rows.oldestFirst (rows.filter (·.owner = owner))

/-- What a call gives, and the collaborators afterwards. -/
def perform (w : World) (thread : Nat) : (c : Call) → Outcome c.Result × World
  | .identity owner => (.ok (w.identities.lookup owner.text), w)
  | .ban owner identity => (.ok (w.ban? owner identity), w)
  | .balance owner => (.ok ((w.credits.lookup owner.text).getD 0), w)
  | .overrides guild => (.ok ((w.guilds.lookup guild).getD []), w)
  | .begin => (.ok (), { w with transactions := (thread, []) :: w.otherTransactions thread })
  | .lockInstance id => (.ok (Rows.find? Instance.id id (w.view thread)), w)
  | .ownersInTransaction owner => (.ok (owned owner (w.view thread)), w)
  | .write row => (.ok (), w.write thread row)
  | .commit => (.ok (), w.commit thread)
  | .findInstance id => (.ok (Rows.find? Instance.id id w.rows), w)
  | .listInstances status =>
    (.ok (Rows.oldestFirst (w.listed.filter fun i => (status.map (· == i.status)).getD true)), w)
  | .ownersInstances owner => (.ok (owned owner w.rows), w)
  | .removeInstance id => (.ok (), { w with rows := Rows.drop Instance.id id w.rows })
  | .listActivities => (.ok w.activities, w)
  | .recordActivity a =>
    (.ok (), { w with activities := Rows.put Activity.server a w.activities })
  | .removeActivity id =>
    (.ok (), { w with activities := Rows.drop Activity.server id w.activities })
  | .deploy _ => (.ok (deploymentAt w.host), w)
  | .destroy .. => (.ok (), w)
  | .console q => (((w.consoles.lookup q.console.host).map .ok).getD (.error (silence q)), w)
  | .notify .. => (.ok (), w)
  | .log _ => (.ok (), w)
  | .errand _ => (.ok .null, w)

/-- The rows vanish that a call was waited for with. -/
def spring (w : World) (c : Call) : World :=
  let (sprung, ambushes) := w.ambushes.partition fun a => c.isNamed a.call a.key
  { w with ambushes, rows := w.rows.filter fun i => !sprung.any (·.victim i) }

/-- The failure that a call meets, if any, once rows have vanished for it. -/
def meet (w : World) (c : Call) : Option Failure × World :=
  let w := w.spring c
  let (met, outages) := Outage.meet c w.outages
  (met, { w with outages })

/-- A call that is answered at once. -/
def answer (w : World) (thread : Nat) (c : Call) : Outcome c.Result × World :=
  let (met, w) := w.meet c
  let w := w.noteCall c met.isSome
  match met with
  | some f => (.error f, w)
  | none => w.perform thread c

/-! ### Threads that wait -/

/-- What a thread waits for. -/
def pause? (w : World) (thread : Nat) : Option Pause := w.pauses.lookup thread

/-- A thread waits for something. -/
def pausing (w : World) (thread : Nat) (p : Pause) : World :=
  { w with pauses := w.pauses ++ [(thread, p)] }

/-- A thread waits no more. -/
def resumed (w : World) (thread : Nat) : World :=
  { w with pauses := w.pauses.filter (·.1 ≠ thread) }

/-- Pauses with the first one changed that can be. -/
def changeFirst (change : Pause → Option Pause) : List (Nat × Pause) → List (Nat × Pause)
  | [] => []
  | (thread, p) :: rest =>
    match change p with
    | some changed => (thread, changed) :: rest
    | none => (thread, p) :: changeFirst change rest

/-- The deployment is let go that has been held up longest. -/
def release (w : World) : World :=
  { w with pauses := changeFirst (fun | .held => some .letGo | _ => none) w.pauses }

/-- The action of a name that began to wait last is told how to go out. -/
def finish (w : World) (name : String) (course : Course) : World :=
  let told : Pause → Option Pause
    | .gated n none => if n = name then some (.gated n (some course)) else none
    | _ => none
  { w with pauses := (changeFirst told w.pauses.reverse).reverse }

/-- A deployment that goes on. -/
def deploy (w : World) (order : DeployOrder) : Served (Outcome Deployment) World :=
  let (met, w) := w.meet (.deploy order)
  match met with
  | none => .answered (.ok (deploymentAt w.host)) w
  | some f =>
    .answered (.error f) (w.note (Journal.entry (Call.deploy order).name
      [order.owner.toJson, Journal.failed]))

/-- A deployment, which is noted when it begins and may be held up. -/
def serveDeploy (w : World) (thread : Nat) (order : DeployOrder) :
    Served (Outcome Deployment) World :=
  match w.pause? thread with
  | none =>
    let w := w.noteCall (.deploy order) false
    if w.holding then .waiting (w.pausing thread .held) else w.deploy order
  | some .letGo => (w.resumed thread).deploy order
  | some _ => .waiting w

/-- How something goes out that was given a value. -/
def concluded (w : World) (given : Value) : Course → Served (Outcome Value) World
  | .panics => .panicked w
  | .fails f => .answered (.error f) w
  | .gives v => .answered (.ok (v.getD given)) w

/-- The next run of a task of a kind. -/
def nextTurn (w : World) (kind : String) : Turn × World :=
  match w.scripts.find? (·.kind = kind) with
  | none => ({}, w)
  | some s =>
    let turn := ((s.turns[s.runs]?).or s.turns.getLast?).getD {}
    (turn, { w with scripts := Rows.put TaskScript.kind { s with runs := s.runs + 1 } w.scripts })

/-- A task that is processed, at some time. -/
def serveTask (w : World) (thread now : Nat) (kind : String) (payload : Value) :
    Served (Outcome Value) World :=
  match w.pause? thread with
  | none =>
    let time := w.start.plus (.ofMillis now)
    let w := w.note (Journal.entry "process" [.string kind, payload, time.toJson])
    let (turn, w) := w.nextTurn kind
    match turn.millis with
    | none => w.concluded payload turn.course
    | some n => .waiting (w.pausing thread (.asleep (now + n) turn.course))
  | some (.asleep due course) =>
    if due ≤ now then (w.resumed thread).concluded payload course else .waiting w
  | some _ => .waiting w

/-- A named action. -/
def serveAction (w : World) (thread : Nat) (name : String) : Served (Outcome Value) World :=
  match w.pause? thread with
  | none =>
    .waiting ((w.note (Journal.entry "started" [.string name])).pausing thread (.gated name none))
  | some (.gated _ (some course)) => (w.resumed thread).concluded .null course
  | some _ => .waiting w

/-- A failure as it is noted. -/
def failureJson (f : Failure) : Value :=
  .record [("error", .string f.label), ("message", .string f.message)]

/-- A report on the end of a task, which is noted. -/
def report (w : World) (name : String) : Outcome Value → World
  | .ok v => w.note (Journal.entry "on_success" [.string name, v])
  | .error f => w.note (Journal.entry "on_error" [.string name, failureJson f])

/-- A call of a thread at some time, with everything that befalls it. -/
def serve (w : World) (thread now : Nat) : (c : Call) → Served (Outcome c.Result) World
  | .deploy order => w.serveDeploy thread order
  | .errand (.process kind payload) => w.serveTask thread now kind payload
  | .errand (.action name) => w.serveAction thread name
  | .errand (.report name o) => .answered (.ok Value.null) (w.report name o)
  | c =>
    let (o, w) := w.answer thread c
    .answered o w

/-- A thread leaves: it waits no more, and its transaction is lost. -/
def abandon (w : World) (thread : Nat) : World :=
  let w := w.resumed thread
  if (w.transactions.lookup thread).isSome then
    { w with transactions := w.otherTransactions thread }.note (Journal.entry "txn.rollback" [])
  else w

/-- A new identifier. -/
def fresh (w : World) : Uuid × World := (.numbered w.made, { w with made := w.made + 1 })

/-- When the pause of a thread ends by itself. -/
def wakes (w : World) (thread : Nat) : Option Nat :=
  match w.pause? thread with
  | some (.asleep due _) => some due
  | _ => none

/-- The surroundings that the collaborators make for the program. -/
def surroundings (start : Timestamp) (settings : FleetSettings) (tick : Nat) :
    Surroundings World where
  start
  settings
  tick
  serve := serve
  fresh := fresh
  abandon := abandon
  wakes := wakes

end World

end GameFleet
