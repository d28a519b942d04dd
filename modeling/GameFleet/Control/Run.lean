import GameFleet.Control.Step
import GameFleet.Sorting

/-!
# Running the control program

Threads run one after another, each until it has to wait, and time stands still while any of them
can go on. Then the time passes to the next moment at which something happens by itself.

- `Control.goOn`: a thread runs until it has to wait.
- `Control.rest`: all threads run until all have to wait.
- `Control.alarm?`: when a thread that waits goes on by itself.
- `Control.passTo`: time passes, moment by moment.
- `Control.leapTo`: time leaps, and what was due on the way happens late.
- `Control.complete`: a thread runs to its end, and the others while it waits.
-/

namespace GameFleet.Control

variable {ω : Type}

/-- More steps than are ever taken at one moment. -/
def patience : Nat := 1000000

/-- The choices that a thread has. -/
def choices (c : Control ω) (tid : Nat) : List Nat :=
  match c.threads[tid]? with
  | some (.working _ w) => w.steps
  | some (.looping { current := some w, .. }) => w.steps
  | _ => [0]

/-- A step with the first choice that goes on. -/
def stepAny (S : Surroundings ω) (c : Control ω) (tid : Nat) : List Nat → Bool × Control ω
  | [] => (false, c)
  | choice :: others =>
    let (moved, c) := c.step S tid choice
    if moved then (true, c) else c.stepAny S tid others

/-- A step of a thread. Work whose every part has ended takes its last step. -/
def stepOn (S : Surroundings ω) (c : Control ω) (tid : Nat) : Bool × Control ω :=
  match c.choices tid with
  | [] => c.step S tid 0
  | choices => c.stepAny S tid choices

/-- A thread runs until it has to wait; whether it went on at all. -/
def goOnFor (S : Surroundings ω) : (steps : Nat) → Control ω → (tid : Nat) → Bool × Control ω
  | 0, c, _ => (false, c)
  | steps + 1, c, tid =>
    let (moved, c) := c.stepOn S tid
    if moved then (true, (goOnFor S steps c tid).2) else (false, c)

/-- A thread runs until it has to wait; whether it went on at all. -/
def goOn (S : Surroundings ω) (c : Control ω) (tid : Nat) : Bool × Control ω :=
  goOnFor S patience c tid

/-- Threads run one after another; whether any went on. -/
def sweep (S : Surroundings ω) (c : Control ω) : List Nat → Bool × Control ω
  | [] => (false, c)
  | tid :: others =>
    let (moved, c) := c.goOn S tid
    let (more, c) := c.sweep S others
    (moved || more, c)

/-- All threads run, again and again, until all have to wait. -/
def restFor (S : Surroundings ω) : (rounds : Nat) → Control ω → Control ω
  | 0, c => c
  | rounds + 1, c =>
    let (moved, c) := c.sweep S (List.range c.threads.length)
    if moved then restFor S rounds c else c

/-- All threads run until all have to wait. -/
def rest (S : Surroundings ω) (c : Control ω) : Control ω := restFor S patience c

/-- When a thread that waits goes on by itself. -/
def alarm? (S : Surroundings ω) (c : Control ω) (tid : Nat) : Option Nat :=
  match c.threads[tid]? with
  | some (.ticking { current := none, due, .. }) => due
  | some (.looping { current := none, due, .. }) => due
  | some (.ended _) => none
  | _ => S.wakes c.world tid

/-- The moments at which threads go on by themselves, each with its thread. -/
def alarms (S : Surroundings ω) (c : Control ω) : List (Nat × Nat) :=
  (List.range c.threads.length).filterMap fun tid => (c.alarm? S tid).map fun due => (due, tid)

/-- The next moment at which a thread goes on by itself. -/
def nextAlarm? (S : Surroundings ω) (c : Control ω) : Option Nat :=
  (((c.alarms S).map Prod.fst).filter (c.elapsed < ·)).min?

/-- Time passes up to some moment, and whatever is due on the way happens when it is due. -/
def passFor (S : Surroundings ω) (target : Nat) : (moments : Nat) → Control ω → Control ω
  | 0, c => { c with elapsed := target }.rest S
  | moments + 1, c =>
    match (c.nextAlarm? S).filter (· ≤ target) with
    | some due => passFor S target moments ({ c with elapsed := due }.rest S)
    | none => { c with elapsed := target }.rest S

/-- Time passes up to some moment. There is at most one stop in each millisecond. -/
def passTo (S : Surroundings ω) (target : Nat) (c : Control ω) : Control ω :=
  passFor S target (target - c.elapsed) c

/-- Time leaps to some moment. Whatever was due on the way happens then, in the order in which it
was due. -/
def leapTo (S : Surroundings ω) (target : Nat) (c : Control ω) : Control ω :=
  let c := { c with elapsed := target }
  let late := Sorting.sorted (fun a b => a.1 ≤ b.1) ((c.alarms S).filter (·.1 ≤ target))
  (c.sweep S (late.map Prod.snd)).2.rest S

/-- A thread runs to its end. While it waits the others run, and when all wait time passes. -/
def completeFor (S : Surroundings ω) (tid : Nat) : (moments : Nat) → Control ω → Control ω
  | 0, c => c
  | moments + 1, c =>
    let c := (c.goOn S tid).2.rest S
    if c.hasEnded tid then c
    else
      match c.nextAlarm? S with
      | none => c
      | some due => completeFor S tid moments { c with elapsed := due }

/-- A thread runs to its end, if it ever comes there. -/
def complete (S : Surroundings ω) (tid : Nat) (c : Control ω) : Control ω :=
  completeFor S tid patience c

/-- How a thread has ended, if it has. -/
def ending? (c : Control ω) (tid : Nat) : Option Ending :=
  match c.threads[tid]? with
  | some (.ended e) => some e
  | _ => none

end GameFleet.Control
