import GameFleet.Control.Dispatch

/-!
# Steps of the control program (specification §5)

The threads take turns in any order. A step of one thread asks for one thing, or changes what the
threads share once.

- `Control.step`: a step of a thread, and whether it went on.
-/

namespace GameFleet.Control

variable {ω : Type}

/-- The state after a step of a thread, and whether it went on. -/
def resume {α : Type} (S : Surroundings ω) (tid : Nat) (wrap : α → Thread) :
    Served α (Control ω) → Bool × Control ω
  | .answered a c => (true, c.put tid (wrap a))
  | .waiting c => (false, c)
  | .panicked c => (true, c.breakOff S tid .panicked)

/-- A step of work: what it asks for is answered. -/
def stepWork (S : Surroundings ω) (c : Control ω) (tid choice : Nat) (w : Work) :
    Served Work (Control ω) :=
  match w.pose? choice with
  | none => .waiting c
  | some ⟨r, next⟩ => (c.ask S tid r).map next id

/-- Work starts, unless it is to be tracked and is refused. -/
def stepArriving (c : Control ω) (tid : Nat) (tracked : Bool) (w : Work) : Bool × Control ω :=
  if tracked then
    match c.drain.enter? with
    | none => (true, c.put tid (.ended (.finished (.error .shuttingDown))))
    | some drain => (true, { c with drain }.put tid (.working true w))
  else (true, c.put tid (.working false w))

/-- A step of work that has started. -/
def stepWorking (S : Surroundings ω) (c : Control ω) (tid choice : Nat) (tracked : Bool)
    (w : Work) : Bool × Control ω :=
  match w.outcome? with
  | some o => (true, (c.settle tracked).put tid (.ended (.finished o)))
  | none => resume S tid (.working tracked) (c.stepWork S tid choice w)

/-- A step of a dispatch by itself. -/
def stepDispatching (S : Surroundings ω) (c : Control ω) (tid : Nat) (d : Dispatch) :
    Bool × Control ω :=
  match d with
  | .done took => (true, c.put tid (.ended (.dispatched took)))
  | d => resume S tid .dispatching (c.stepDispatch S tid d)

/-- Whether something that repeats itself stops now: it was told to, and it is not its turn, or it
is and stopping comes first. -/
def stopsNow (stopping isDue : Bool) (choice : Nat) : Bool :=
  stopping && (!isDue || choice == 0)

/-- A step of the ticker. Its first turn is one period after it has begun. -/
def stepTicker (S : Surroundings ω) (c : Control ω) (tid choice : Nat) (t : Ticker) :
    Bool × Control ω :=
  match t.current with
  | some (.done _) => (true, c.put tid (.ticking { t with current := none }))
  | some d => resume S tid (fun d => .ticking { t with current := some d }) (c.stepDispatch S tid d)
  | none =>
    match t.due with
    | none => (true, c.put tid (.ticking { t with due := some (c.elapsed + S.tick) }))
    | some due =>
      let isDue := decide (due ≤ c.elapsed)
      if stopsNow t.stopping isDue choice then (true, c.put tid (.ended .stopped))
      else if isDue then
        (true, c.put tid (.ticking { t with
          due := some (nextBeat due c.elapsed S.tick), current := some .arriving }))
      else (false, c)

/-- The milliseconds from one cycle of a policy to the next. -/
def cyclePeriod (S : Surroundings ω) (p : Policy) : Nat := (p.period S.settings.periods).millis

/-- A cycle of a loop starts, unless it is refused because of draining. -/
def startCycle (S : Surroundings ω) (c : Control ω) (tid : Nat) (l : PolicyLoop) : Control ω :=
  match c.drain.enter? with
  | none => c.put tid (.looping l)
  | some drain =>
    { c with drain }.put tid
      (.looping { l with current := some (.ofPolicy l.policy S.settings) })

/-- A step of a loop. Its first turn comes at once. There is no loop without a period. -/
def stepLoop (S : Surroundings ω) (c : Control ω) (tid choice : Nat) (l : PolicyLoop) :
    Bool × Control ω :=
  match l.current with
  | some w =>
    match w.outcome? with
    | some _ => (true, (c.settle true).put tid (.looping { l with current := none }))
    | none => resume S tid (fun w => .looping { l with current := some w })
        (c.stepWork S tid choice w)
  | none =>
    match l.due with
    | none =>
      if cyclePeriod S l.policy = 0 then (true, c.breakOff S tid .panicked)
      else (true, c.put tid (.looping { l with due := some c.elapsed }))
    | some due =>
      let isDue := decide (due ≤ c.elapsed)
      if stopsNow l.stopping isDue choice then (true, c.put tid (.ended .stopped))
      else if isDue then
        (true, c.startCycle S tid
          { l with due := some (nextBeat due c.elapsed (cyclePeriod S l.policy)) })
      else (false, c)

/-- A thread is told to stop. -/
def signal (c : Control ω) (tid : Nat) : Control ω :=
  match c.threads[tid]? with
  | none => c
  | some t => c.put tid t.signalled

/-- What a stage leads to: further stages, and the state after it; none while it has to wait. -/
def pass? (c : Control ω) : Stage → Option (List Stage × Control ω)
  | .closeServer => some ([], { c with serving := false })
  | .awaitRequests => if c.requests.all c.hasEnded then some ([], c) else none
  | .signal t => some ([], c.signal t)
  | .await t => if c.hasEnded t then some ([], c) else none
  | .beginDrain => some ([], { c with drain := c.drain.begin })
  | .awaitSettled => if c.drain.isSettled then some ([], c) else none
  | .dismissTicker =>
    match c.ticker with
    | none => some ([], c)
    | some t => some ([.await t, .clearRunning], { c with ticker := none }.signal t)
  | .clearRunning => some ([], { c with running := false })

/-- A step of a thread that goes through stages. -/
def stepStaged (c : Control ω) (tid : Nat) (e : Ending) : List Stage → Bool × Control ω
  | [] => (true, c.put tid (.ended e))
  | stage :: rest =>
    match c.pass? stage with
    | none => (false, c)
    | some (stages, c) => (true, c.put tid (.staged (stages ++ rest) e))

/-- A step of a thread, and whether it went on. The choice picks a step of a cycle, and whether a
ticker or loop that was told to stop does so when it is its turn. -/
def step (S : Surroundings ω) (c : Control ω) (tid choice : Nat) : Bool × Control ω :=
  match c.threads[tid]? with
  | none => (false, c)
  | some (.arriving tracked w) => c.stepArriving tid tracked w
  | some (.working tracked w) => c.stepWorking S tid choice tracked w
  | some (.dispatching d) => c.stepDispatching S tid d
  | some (.ticking t) => c.stepTicker S tid choice t
  | some (.looping l) => c.stepLoop S tid choice l
  | some (.staged stages e) => c.stepStaged tid e stages
  | some (.ended _) => (false, c)

/-! ### What is started from outside -/

/-- An operation or cycle comes; whether it is tracked. -/
def begin (c : Control ω) (tracked : Bool) (w : Work) : Control ω × Nat :=
  c.spawn (.arriving tracked w)

/-- A request is received, unless the server was closed. -/
def receive (c : Control ω) (w : Work) : Control ω :=
  if c.serving then
    let (c, tid) := c.begin true w
    { c with requests := c.requests ++ [tid] }
  else c

/-- A dispatch comes. -/
def dispatch (c : Control ω) : Control ω × Nat := c.spawn (.dispatching .arriving)

/-- The queue is started: a ticker takes charge, unless one is. -/
def startQueue (c : Control ω) : Control ω :=
  match c.ticker with
  | some _ => c
  | none =>
    let (c, tid) := c.spawn (.ticking {})
    { c with ticker := some tid, running := true }

/-- The loop of a policy is started. -/
def startLoop (c : Control ω) (p : Policy) : Control ω × Nat := c.spawn (.looping { policy := p })

/-- Somebody stops something, stage by stage. -/
def stop (c : Control ω) (stages : List Stage) (e : Ending) : Control ω × Nat :=
  c.spawn (.staged stages e)

/-- Tasks of a kind are processed from now on. -/
def register (c : Control ω) (kind : String) (process : Json.Value → Op Json.Value) : Control ω :=
  { c with processors := fun k => if k = kind then some process else c.processors k }

/-- Time passes. -/
def pass (c : Control ω) (millis : Nat) : Control ω := { c with elapsed := c.elapsed + millis }

end GameFleet.Control
