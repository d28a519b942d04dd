import GameFleet.TaskQueue
import GameFleet.Work

/-!
# Threads (specification §5)

Everything that goes on at the same time is a thread: operations and cycles, dispatches of tasks,
the ticker that dispatches them regularly, the loops of the policies, and whoever waits for these
to end.

- `Thread`: a thread, and how far it has come.
- `Dispatch`: how far the dispatch of one task has come.
- `Ticker`, `PolicyLoop`: what repeats itself: the timer of the task queue (§4.1), and the policy
  runner (§4.4).
- `Stage`: a stage of stopping things; a thread goes through several, one after another.
- `Ending`: how a thread has ended.
-/

namespace GameFleet

/-- How a thread has ended. -/
inductive Ending where
  /-- The operation has ended. -/
  | finished (o : Outcome Yield)
  /-- The dispatch has ended; whether it had a task. -/
  | dispatched (took : Bool)
  /-- All tracked work has ended. -/
  | drained
  /-- What was to be stopped has ended. -/
  | stopped
  /-- It broke off by itself. -/
  | panicked
  /-- It was broken off. -/
  | cancelled

/-- How far the dispatch of one task has come. Dispatches form a line, and only the first goes
on. -/
inductive Dispatch where
  | arriving
  | inLine
  /-- A task was taken. -/
  | holding (t : Task)
  /-- The task is processed, tracked. -/
  | processing (t : Task) (p : Running Json.Value)
  /-- What follows the end of a task is done. -/
  | following (p : Running Unit)
  | done (took : Bool)

/-- When something that repeats itself is to happen again: a period after it was to happen, or, when
it is more than five milliseconds late, a period after now. -/
def nextBeat (due now period : Nat) : Nat :=
  if due + 5 < now then now + period else due + period

/-- What dispatches tasks regularly. -/
structure Ticker where
  /-- When it dispatches next; none before it has begun. -/
  due : Option Nat := none
  /-- It was told to stop. -/
  stopping : Bool := false
  /-- The dispatch that goes on. -/
  current : Option Dispatch := none

/-- What runs the cycles of a policy regularly. -/
structure PolicyLoop where
  policy : Policy
  /-- When its next cycle starts; none before it has begun. -/
  due : Option Nat := none
  /-- It was told to stop. -/
  stopping : Bool := false
  /-- The cycle that goes on, tracked. -/
  current : Option Work := none

/-- A stage of stopping things. -/
inductive Stage where
  /-- No more requests are received. -/
  | closeServer
  /-- All requests that were received have ended. -/
  | awaitRequests
  /-- A ticker or loop is told to stop. -/
  | signal (thread : Nat)
  /-- A thread has ended. -/
  | await (thread : Nat)
  /-- Draining begins. -/
  | beginDrain
  /-- No tracked work is left. -/
  | awaitSettled
  /-- The ticker in charge, if there is one, is told to stop, and is in charge no more. -/
  | dismissTicker
  /-- The queue counts as stopped. -/
  | clearRunning

/-- A thread, and how far it has come. -/
inductive Thread where
  /-- Work that has not started; whether it is tracked. -/
  | arriving (tracked : Bool) (w : Work)
  | working (tracked : Bool) (w : Work)
  | dispatching (d : Dispatch)
  | ticking (t : Ticker)
  | looping (l : PolicyLoop)
  /-- Stages to go through, and how the thread ends then. -/
  | staged (stages : List Stage) (e : Ending)
  | ended (e : Ending)

namespace Dispatch

/-- Whether tracked work goes on in a dispatch. -/
def isTracked : Dispatch → Bool
  | processing .. => true
  | _ => false

end Dispatch

namespace Thread

/-- Whether tracked work goes on in a thread. -/
def isTracked : Thread → Bool
  | working tracked _ => tracked
  | dispatching d => d.isTracked
  | ticking t => (t.current.map Dispatch.isTracked).getD false
  | looping l => l.current.isSome
  | _ => false

/-- Whether a thread has ended. -/
def isEnded : Thread → Bool
  | ended _ => true
  | _ => false

/-- The thread when it is told to stop. -/
def signalled : Thread → Thread
  | ticking t => ticking { t with stopping := true }
  | looping l => looping { l with stopping := true }
  | t => t

end Thread

/-- The stages of draining. -/
def Stage.draining : List Stage := [.beginDrain, .awaitSettled]

/-- The stages of stopping a loop. -/
def Stage.stopLoop (thread : Nat) : List Stage := [.signal thread, .await thread]

/-- The stages of stopping the queue. -/
def Stage.stopQueue : List Stage := [.dismissTicker]

/-- The stages of stopping the program: the server, the loops one after another, and the queue. -/
def Stage.shutdown (loops : List Nat) : List Stage :=
  [.closeServer, .awaitRequests] ++ loops.flatMap stopLoop ++ draining ++ stopQueue

end GameFleet
