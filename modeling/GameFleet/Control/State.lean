import GameFleet.Control.Thread
import GameFleet.Drain

/-!
# The control program (specification §2, control binary)

- `Surroundings`: what the program runs in.
- `Control`: its state: the collaborators, the time, tracked work, the queue, and the threads.
- `Control.ask`: how what a thread asks for is answered.
-/

namespace GameFleet

/-- What comes of asking for something. -/
inductive Served (α σ : Type) where
  | answered (a : α) (s : σ)
  /-- The answer is not there yet. -/
  | waiting (s : σ)
  /-- Whoever asked breaks off. -/
  | panicked (s : σ)

/-- The same with its parts changed. -/
def Served.map {α β σ τ : Type} (f : α → β) (g : σ → τ) : Served α σ → Served β τ
  | answered a s => .answered (f a) (g s)
  | waiting s => .waiting (g s)
  | panicked s => .panicked (g s)

/-- What is answered with parts changed was answered. -/
theorem Served.of_map_eq_answered {α β σ τ : Type} {f : α → β} {g : σ → τ} {x : Served α σ} {b : β}
    {t : τ} (h : x.map f g = .answered b t) : ∃ a s, x = .answered a s ∧ b = f a ∧ t = g s := by
  cases x with
  | answered a s =>
    cases h
    exact ⟨a, s, rfl, rfl, rfl⟩
  | waiting s => cases h
  | panicked s => cases h

/-- What the program runs in. -/
structure Surroundings (ω : Type) where
  /-- When the program starts. -/
  start : Timestamp
  settings : FleetSettings
  /-- The milliseconds from one dispatch of the ticker to the next. -/
  tick : Nat
  /-- A thread calls a collaborator at some time, or asks again for the answer. -/
  serve : ω → (thread now : Nat) → (c : Call) → Served (Except Failure c.Result) ω
  /-- A new identifier. -/
  fresh : ω → Uuid × ω
  /-- A thread leaves what it has begun with the collaborators. -/
  abandon : ω → (thread : Nat) → ω
  /-- When the answer that a thread waits for will be there, if that is known. -/
  wakes : ω → (thread : Nat) → Option Nat

/-- The state of the program. -/
structure Control (ω : Type) where
  /-- The collaborators. -/
  world : ω
  /-- The milliseconds since the start. -/
  elapsed : Nat := 0
  drain : Drain := {}
  queue : TaskQueue := {}
  /-- What processes the tasks of each kind. -/
  processors : String → Option (Json.Value → Op Json.Value) := fun _ => none
  /-- The threads that dispatch, in the order they came. Only the first goes on. -/
  line : List Nat := []
  /-- The ticker in charge. -/
  ticker : Option Nat := none
  /-- The queue counts as running. -/
  running : Bool := false
  /-- Requests are received. -/
  serving : Bool := true
  /-- The threads of the requests that were received. -/
  requests : List Nat := []
  threads : List Thread := []

namespace Control

variable {ω : Type}

/-- The time. -/
def now (S : Surroundings ω) (c : Control ω) : Timestamp := S.start.plus (.ofMillis c.elapsed)

/-- The state with a thread gone on. -/
def put (c : Control ω) (tid : Nat) (t : Thread) : Control ω :=
  { c with threads := c.threads.set tid t }

/-- The state with another thread, and its number. -/
def spawn (c : Control ω) (t : Thread) : Control ω × Nat :=
  ({ c with threads := c.threads ++ [t] }, c.threads.length)

/-- Whether a thread has ended. -/
def hasEnded (c : Control ω) (tid : Nat) : Bool := ((c.threads[tid]?).map Thread.isEnded).getD true

/-- A task comes. -/
def enqueue (S : Surroundings ω) (c : Control ω) (o : TaskOrder) : Control ω :=
  let (id, world) := S.fresh c.world
  { c with world, queue := c.queue.enqueue ("task-" ++ id.text) c.elapsed o }

/-- How what a thread asks for is answered. -/
def ask (S : Surroundings ω) (c : Control ω) (tid : Nat) :
    (r : Request) → Served r.Answer (Control ω)
  | .call q => (S.serve c.world tid c.elapsed q).map id fun world => { c with world }
  | .now => .answered (c.now S) c
  | .freshId =>
    let (id, world) := S.fresh c.world
    .answered id { c with world }
  | .abandon => .answered () { c with world := S.abandon c.world tid }
  | .isQueued kind payload => .answered (c.queue.isQueued kind payload) c
  | .enqueue o => .answered () (c.enqueue S o)

/-- The state after some tracked work has ended. -/
def settle (c : Control ω) (tracked : Bool) : Control ω :=
  if tracked then { c with drain := c.drain.settle } else c

/-- A thread leaves the line. -/
def leaveLine (c : Control ω) (tid : Nat) : Control ω := { c with line := c.line.erase tid }

/-- A thread breaks off or is broken off. What it held is given back: its tracked work has ended, it
leaves the line, and collaborators are left. -/
def breakOff (S : Surroundings ω) (c : Control ω) (tid : Nat) (e : Ending) : Control ω :=
  match c.threads[tid]? with
  | none => c
  | some t =>
    if t.isEnded then c
    else
      let c := { c with world := S.abandon c.world tid }
      ((c.settle t.isTracked).leaveLine tid).put tid (.ended e)

end Control

end GameFleet
