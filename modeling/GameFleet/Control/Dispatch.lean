import GameFleet.Control.State

/-!
# Dispatching tasks (specification §4.1)

One dispatch takes the next task that is due and has it processed. A task that nobody processes is
dropped, one that is refused because of draining waits again as it was, and one that failed waits
for its next run or is given up.

- `FollowUp.work`: what is done once a task has ended.
- `Control.stepDispatch`: a step of a dispatch.
-/

namespace GameFleet

namespace FollowUp

/-- What an owner is told whose instance was removed after idle minutes. -/
def evictionText (id : InstanceId) (minutes : Nat) : String :=
  "Your server " ++ id.text ++ " has been terminated due to inactivity for "
    ++ Text.natText minutes ++ " minutes."

/-- Whether the result of a removal says that there was something to remove. -/
def saysDeleted (v : Json.Value) : Bool :=
  match v.member? "deleted" with
  | some (.bool b) => b
  | _ => false

/-- What is done once a task has ended. -/
def work : FollowUp → Outcome Json.Value → Op Unit
  | evictionNotice owner id minutes, .ok v =>
    if saysDeleted v then Op.tell owner (evictionText id minutes) else return ()
  | evictionNotice .., .error _ => return ()
  | report name, o => Op.bestEffort (Op.call (.errand (.report name o)))

end FollowUp

namespace Control

variable {ω : Type}

/-- What a dispatch goes on with once its task has ended. -/
def follow (f : Option FollowUp) (o : Outcome Json.Value) : Dispatch :=
  match f with
  | none => .following (.done (.ok ()))
  | some f => .following (f.work o).run

/-- What becomes of a task after a run. -/
def conclude (c : Control ω) (tid : Nat) (t : Task) (o : Outcome Json.Value) :
    Dispatch × Control ω :=
  match o with
  | .ok v => (follow t.onSuccess (.ok v), c)
  | .error .shuttingDown =>
    (.done true, { c with queue := c.queue.putBack t }.leaveLine tid)
  | .error f =>
    if t.attempt < t.policy.maxRuns then
      (.done true, { c with queue := c.queue.retry c.elapsed t }.leaveLine tid)
    else (follow t.onError (.error f), c)

/-- A task that was taken starts to be processed. -/
def start (c : Control ω) (tid : Nat) (t : Task) : Dispatch × Control ω :=
  match c.processors t.kind with
  | none => (.done true, c.leaveLine tid)
  | some process =>
    match c.drain.enter? with
    | none => (.done true, { c with queue := c.queue.putBack t }.leaveLine tid)
    | some drain => (.processing t (process t.payload).run, { c with drain })

/-- The next task is taken. -/
def take (c : Control ω) (tid : Nat) : Dispatch × Control ω :=
  match c.queue.takeDue c.elapsed with
  | none => (.done false, c.leaveLine tid)
  | some (t, queue) => (.holding t, { c with queue })

/-- A step of a dispatch. -/
def stepDispatch (S : Surroundings ω) (c : Control ω) (tid : Nat) :
    Dispatch → Served Dispatch (Control ω)
  | .arriving => .answered .inLine { c with line := c.line ++ [tid] }
  | .inLine =>
    if c.line.head? = some tid then
      let (d, c) := c.take tid
      .answered d c
    else .waiting c
  | .holding t =>
    let (d, c) := c.start tid t
    .answered d c
  | .processing t (.done o) =>
    let (d, c) := (c.settle true).conclude tid t o
    .answered d c
  | .processing t (.ask r next) =>
    (c.ask S tid r).map (fun a => .processing t (next a)) id
  | .following (.done _) => .answered (.done true) (c.leaveLine tid)
  | .following (.ask r next) => (c.ask S tid r).map (fun a => .following (next a)) id
  | .done _ => .waiting c

end Control

end GameFleet
