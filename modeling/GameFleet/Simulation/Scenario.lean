import GameFleet.Control.Serve
import GameFleet.Simulation.World

/-!
# Scenarios

A scenario is the program among collaborators in memory, and somebody who uses it step by step:
starts operations and waits for them or leaves them to go on under a name, starts and stops what
repeats itself, lets time pass, and sends messages. After every step the program runs until it has
to wait.

- `Scenario`: how far it has come.
- `Scenario.run`, `Scenario.launch`: something is started, waited for or not.
- `Scenario.poll`: what has become of something that goes on under a name.
- `Scenario.request`: a message is sent and its reply awaited.
-/

namespace GameFleet

/-- The program among collaborators in memory. -/
structure Scenario where
  surroundings : Surroundings World
  control : Control World
  /-- What goes on under a name. -/
  names : List (String × Nat) := []
  /-- The loops of the policies. -/
  loops : List (Policy × Nat) := []

/-- What has become of something. -/
inductive Outlook where
  | unknown
  | running
  | ended (e : Ending)

namespace Scenario

/-- The scenario that begins with some collaborators. -/
def start (surroundings : Surroundings World) (world : World) : Scenario where
  surroundings
  control := { world }

/-- The scenario with the program changed, which then runs until it has to wait. -/
def change (s : Scenario) (f : Control World → Control World) : Scenario :=
  { s with control := (f s.control).rest s.surroundings }

/-- The scenario with the collaborators changed. -/
def edit (s : Scenario) (f : World → World) : Scenario :=
  s.change fun c => { c with world := f c.world }

/-- Starts something and waits for its end. -/
def run (s : Scenario) (started : Control World → Control World × Nat) :
    Option Ending × Scenario :=
  let (e, c) := s.control.await s.surroundings started
  (e, { s with control := c })

/-- Starts something that goes on under a name. -/
def launch (s : Scenario) (name : String) (started : Control World → Control World × Nat) :
    Scenario :=
  let (c, tid) := started s.control
  { s with control := c.rest s.surroundings, names := (name, tid) :: s.names.filter (·.1 ≠ name) }

/-- What has become of what goes on under a name. Its end is told once. -/
def poll (s : Scenario) (name : String) : Outlook × Scenario :=
  match s.names.lookup name with
  | none => (.unknown, s)
  | some tid =>
    match s.control.ending? tid with
    | none => (.running, s)
    | some e => (.ended e, { s with names := s.names.filter (·.1 ≠ name) })

/-- Breaks off what goes on under a name. -/
def cancel (s : Scenario) (name : String) : Scenario :=
  match s.names.lookup name with
  | none => s
  | some tid => s.change fun c => c.breakOff s.surroundings tid .cancelled

/-- Time passes, and whatever is due happens when it is due. -/
def sleep (s : Scenario) (millis : Nat) : Scenario :=
  { s with control := s.control.passTo s.surroundings (s.control.elapsed + millis) }

/-- Time leaps. -/
def advance (s : Scenario) (millis : Nat) : Scenario :=
  { s with control := s.control.leapTo s.surroundings (s.control.elapsed + millis) }

/-- The loop of a policy starts. One that was started before is told to stop. -/
def startLoop (s : Scenario) (p : Policy) : Scenario :=
  let stopped := ((s.loops.lookup p).map s.control.signal).getD s.control
  let (c, tid) := stopped.startLoop p
  { s with control := c.rest s.surroundings, loops := (p, tid) :: s.loops.filter (·.1 ≠ p) }

/-- The loop of a policy is stopped, if there is one, and its end awaited. -/
def stopLoop (s : Scenario) (p : Policy) : Scenario :=
  match s.loops.lookup p with
  | none => s
  | some tid =>
    let (_, s) := s.run fun c => c.stop (Stage.stopLoop tid) .stopped
    { s with loops := s.loops.filter (·.1 ≠ p) }

/-- Tasks of a kind take the course that is laid down for them. -/
def script (s : Scenario) (kind : String) (turns : List Turn) : Scenario :=
  let s := s.edit fun w =>
    { w with scripts := Rows.put TaskScript.kind { kind, turns } w.scripts }
  s.change fun c => c.register kind fun payload => Op.call (.errand (.process kind payload))

/-- A task comes; its identifier. -/
def enqueue (s : Scenario) (o : TaskOrder) : String × Scenario :=
  let s := s.change fun c => c.enqueue s.surroundings o
  (((s.control.queue.tasks.getLast?).map Task.id).getD "", s)

/-- Sends a message and waits for the reply. -/
def request (s : Scenario) (m : Http.Message) : Http.Reply × Scenario :=
  let (reply, c) := s.control.request s.surroundings m
  (reply, { s with control := c })

end Scenario

end GameFleet
