import GameFleet.Control.Run
import GameFleet.Http.Route

/-!
# Serving (specification §2, control binary)

- `Control.await`: something is started, and its end awaited.
- `Control.request`: a message is answered.
- `Control.bringUp`, `Control.shutDown`: everything that runs by itself is started, and in the end
  all of it is stopped.
-/

namespace GameFleet.Control

variable {ω : Type}

/-- Starts something and waits for its end. -/
def await (S : Surroundings ω) (c : Control ω) (started : Control ω → Control ω × Nat) :
    Option Ending × Control ω :=
  let (c, tid) := started c
  let c := (c.complete S tid).rest S
  (c.ending? tid, c)

/-- The state of the program. -/
def health (S : Surroundings ω) (c : Control ω) : Http.Health where
  draining := c.drain.draining
  inFlight := c.drain.inFlight
  queueRunning := c.running
  queueDepth := c.queue.size
  billing := S.settings.billing

/-- The work of an admission. -/
def admission (S : Surroundings ω) (r : AdmissionRequest) : Work :=
  .of (Admission.grant S.settings.billing r) .admitted

/-- The work of removing an owner's instances. -/
def removal (owner : OwnerId) : Work := .of (Termination.removeOwned owner) .removed

/-- The reply to a request that has ended. -/
def replyOf : Option Ending → Http.Reply
  | some (.finished (.ok (.admitted i))) => .created i
  | some (.finished (.ok (.removed ids))) => .deleted ids
  | some (.finished (.error f)) => .ofFailure f
  | _ => ⟨500, .empty⟩

/-- Answers a message. -/
def request (S : Surroundings ω) (c : Control ω) (m : Http.Message) : Http.Reply × Control ω :=
  match Http.Route.of m with
  | .health headOnly => (.health headOnly (c.health S), c)
  | .refused r => (r, c)
  | .create r =>
    let (e, c) := c.await S fun c => c.begin true (admission S r)
    (replyOf e, c)
  | .remove owner =>
    let (e, c) := c.await S fun c => c.begin true (removal owner)
    (replyOf e, c)

/-- The policies whose loops run. Credits only count where they are billed. -/
def policies (s : FleetSettings) : List Policy :=
  [.idle, .stuck, .lifetime] ++ if s.billing then [.credit] else []

/-- Loops start one after another; their threads. -/
def startLoops (c : Control ω) : List Policy → Control ω × List Nat
  | [] => (c, [])
  | p :: rest =>
    let (c, tid) := c.startLoop p
    let (c, tids) := c.startLoops rest
    (c, tid :: tids)

/-- Starts everything that runs by itself, and lets it run; the threads of the loops. -/
def bringUp (S : Surroundings ω) (c : Control ω) : Control ω × List Nat :=
  let c := (c.register DeletionOrder.kind Termination.process).startQueue
  let (c, tids) := c.startLoops (policies S.settings)
  (c.rest S, tids)

/-- Stops everything: no more messages are received, the loops end, what is tracked ends, and the
queue ends. -/
def shutDown (S : Surroundings ω) (c : Control ω) (loops : List Nat) : Control ω :=
  (c.await S fun c => c.stop (Stage.shutdown loops) .stopped).2

end GameFleet.Control
