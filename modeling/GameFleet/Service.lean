import GameFleet.Console.Exchange
import GameFleet.Control.Serve
import GameFleet.Store.Connection
import GameFleet.Store.Vacant
import GameFleet.Webhook

/-!
# The whole program (specification §2, control binary)

The program reads its settings, connects to the database, migrates it, starts everything that runs
by itself, and answers messages until it is stopped. Here it runs on a database without rows, and
none of the other collaborators is reached.

- `Service.Site`: where it runs.
- `Service.settle`: what it does before it starts, and why it may not get further.
- `Service.session`: its whole run.
-/

namespace GameFleet.Service

/-- Where the program runs. -/
structure Site where
  database : Store.Vacant := {}
  /-- With what the database turns connections away. -/
  turnedAway : Option String := none
  /-- Somebody else listens on the address. -/
  addressTaken : Bool := false

/-- Why the program ends without having served. -/
inductive StartFailure where
  | settings (e : SettingsError)
  | store (f : Failure)
  | addressTaken

namespace StartFailure

/-- The text of a failure of the database. -/
def storeText : Failure → String
  | .store e => e.message
  | f => f.message

def message : StartFailure → String
  | settings e => e.message
  | store f => storeText f
  | addressTaken => "Address already in use (os error 98)"

end StartFailure

/-- The failure of a connection that is not opened, if it is not. -/
def connectionFailure? (site : Site) (url : String) : Option Store.Failure :=
  (Store.Connection.refusal? url).or
    (site.turnedAway.map fun m => .connection ("error returned from database: " ++ m))

/-- The settings, once the database is connected and migrated; and the database. -/
def settle (now : Timestamp) (site : Site) (env : Environment) :
    Except StartFailure ControlSettings × Store.Vacant :=
  match ControlSettings.ofEnvironment env with
  | .error e => (.error (.settings e), site.database)
  | .ok s =>
    match connectionFailure? site s.databaseUrl with
    | some f => (.error (.store (.store f)), site.database)
    | none =>
      let (migrated, database) := site.database.perform (Store.Migrator.up now none)
      (migrated.map (fun _ => s) |>.mapError .store, database)

/-! ### Collaborators -/

/-- The collaborators of the program. -/
structure Peers where
  database : Store.Vacant
  /-- The threads whose transactions are open. -/
  transactions : List Nat := []
  /-- How many identifiers were made. -/
  made : Nat := 0

namespace Peers

/-- A new identifier. -/
def fresh (p : Peers) : Uuid × Peers := (.numbered p.made, { p with made := p.made + 1 })

/-- What comes of a call to somebody outside the database, who is not reached. Without a notifier
notices only go to the log of the program. -/
def unreached (notifier : Option String) : (c : Call) → Outcome c.Result
  | .deploy order => Webhook.deployment order .unanswered
  | .destroy id _ => Webhook.destroyed id .unanswered
  | .console q => .error (Console.ExchangeError.unreachable.failure q.console.text q.timeout)
  | .notify .. => if notifier.isNone then .ok () else Webhook.notified .unanswered
  | _ => .error (.internal "nobody was reached")

/-- The threads whose transactions are open after a call that did not fail. -/
def opened (transactions : List Nat) (thread : Nat) : Call → List Nat
  | .begin => thread :: transactions
  | .commit => transactions.filter (· ≠ thread)
  | _ => transactions

/-- What comes of a call of a thread at some time. -/
def answer (p : Peers) (notifier : Option String) (thread : Nat) (now : Timestamp) (c : Call) :
    Outcome c.Result × Peers :=
  let (id, p) := p.fresh
  match Store.query? now id c with
  | none => (unreached notifier c, p)
  | some q =>
    match p.database.perform q with
    | (.ok a, database) =>
      (.ok a, { p with database, transactions := opened p.transactions thread c })
    | (.error f, database) => (.error f, { p with database })

/-- A thread leaves; its transaction is rolled back, if one is open. -/
def abandon (p : Peers) (thread : Nat) : Peers :=
  if p.transactions.contains thread then
    { p with
      database := (p.database.perform Store.Query.rollback).2
      transactions := p.transactions.filter (· ≠ thread) }
  else p

/-- The surroundings that the collaborators make for the program. -/
def surroundings (start : Timestamp) (s : ControlSettings) : Surroundings Peers where
  start
  settings := s.fleet
  tick := s.fleet.tick.millis
  serve p thread now c :=
    let (o, p) := p.answer s.notifierUrl thread (start.plus (.ofMillis now)) c
    .answered o p
  fresh := fresh
  abandon := abandon
  wakes _ _ := none

end Peers

/-! ### A run -/

/-- What comes of a run. -/
structure Session where
  /-- Why it ended without having served, if it did. -/
  failure : Option StartFailure := none
  replies : List Http.Reply := []
  /-- The statements that were sent before the program was started, in order. -/
  boot : List String := []
  /-- The statements that were sent afterwards, in order. -/
  sent : List String := []

/-- Answers messages one after another. -/
def replies {ω : Type} (S : Surroundings ω) (c : Control ω) :
    List Http.Message → List Http.Reply × Control ω
  | [] => ([], c)
  | m :: rest =>
    let (reply, c) := c.request S m
    let (more, c) := replies S c rest
    (reply :: more, c)

/-- The program once it has settled. -/
def serve (now : Timestamp) (site : Site) (s : ControlSettings) (database : Store.Vacant)
    (messages : List Http.Message) : Session :=
  let S := Peers.surroundings now s
  let quiet := { database with sent := [] }
  let (c, loops) := Control.bringUp S { world := { database := quiet } }
  let boot := database.sent.reverse
  if site.addressTaken then
    { failure := some .addressTaken, boot, sent := c.world.database.sent.reverse }
  else
    let (replies, c) := replies S c messages
    let c := c.shutDown S loops
    { replies, boot, sent := c.world.database.sent.reverse }

/-- The whole run of the program: it starts, answers messages, and is stopped. -/
def session (now : Timestamp) (site : Site) (env : Environment) (messages : List Http.Message) :
    Session :=
  match settle now site env with
  | (.error f, database) => { failure := some f, boot := database.sent.reverse }
  | (.ok s, database) => serve now site s database messages

end GameFleet.Service
