import GameFleet.Proofs.Control.Move

/-!
# What a step can do

A thread whose turn it is asks for something, or turns by itself into another thread, or breaks off,
or passes a stage, or stays as it is. What is kept by each of these is kept by every step.

- `Thread.Works`, `Thread.Dispatches`: the threads that work, and those that dispatch.
- `Control.Turn`: what a thread turns into by itself, and how far draining has come then.
- `Control.Passed`: the state after a stage.
- `Control.Steps`: all that a step of a thread can lead to; `Control.steps`: it is all.
-/

namespace GameFleet

variable {ω : Type}

namespace Thread

/-- A thread with work that goes on. -/
inductive Works : (Work → Thread) → Prop where
  | working (tracked : Bool) : Works (.working tracked)
  | looping (policy : Policy) (due : Option Nat) (stopping : Bool) :
    Works fun w => .looping ⟨policy, due, stopping, some w⟩

/-- A thread with a dispatch that goes on. -/
inductive Dispatches : (Dispatch → Thread) → Prop where
  | dispatching : Dispatches .dispatching
  | ticking (due : Option Nat) (stopping : Bool) :
    Dispatches fun d => .ticking ⟨due, stopping, some d⟩

end Thread

namespace Control

/-- What a thread turns into by itself, and how far draining has come then. -/
inductive Turn (S : Surroundings ω) (c : Control ω) (choice : Nat) :
    Thread → Drain → Thread → Prop where
  | enters {w : Work} {drain : Drain} (h : c.drain.enter? = some drain) :
    Turn S c choice (.arriving true w) drain (.working true w)
  | isRefused {w : Work} (h : c.drain.enter? = none) :
    Turn S c choice (.arriving true w) c.drain (.ended (.finished (.error .shuttingDown)))
  | starts {w : Work} : Turn S c choice (.arriving false w) c.drain (.working false w)
  | finishes {tracked : Bool} {w : Work} {o : Outcome Yield} (h : w.outcome? = some o) :
    Turn S c choice (.working tracked w) (c.settle tracked).drain (.ended (.finished o))
  | dispatched {took : Bool} :
    Turn S c choice (.dispatching (.done took)) c.drain (.ended (.dispatched took))
  | rests {due : Option Nat} {stopping took : Bool} :
    Turn S c choice (.ticking ⟨due, stopping, some (.done took)⟩) c.drain
      (.ticking ⟨due, stopping, none⟩)
  | winds {stopping : Bool} :
    Turn S c choice (.ticking ⟨none, stopping, none⟩) c.drain
      (.ticking ⟨some (c.elapsed + S.tick), stopping, none⟩)
  | ticks {due : Nat} {stopping : Bool} (h : due ≤ c.elapsed) :
    Turn S c choice (.ticking ⟨some due, stopping, none⟩) c.drain
      (.ticking ⟨some (nextBeat due c.elapsed S.tick), stopping, some .arriving⟩)
  | stopsTicking {due : Nat} {stopping : Bool}
    (h : stopsNow stopping (decide (due ≤ c.elapsed)) choice = true) :
    Turn S c choice (.ticking ⟨some due, stopping, none⟩) c.drain (.ended .stopped)
  | endsCycle {policy : Policy} {due : Option Nat} {stopping : Bool} {w : Work}
    {o : Outcome Yield} (h : w.outcome? = some o) :
    Turn S c choice (.looping ⟨policy, due, stopping, some w⟩) (c.settle true).drain
      (.looping ⟨policy, due, stopping, none⟩)
  | sets {policy : Policy} {stopping : Bool} (h : cyclePeriod S policy ≠ 0) :
    Turn S c choice (.looping ⟨policy, none, stopping, none⟩) c.drain
      (.looping ⟨policy, some c.elapsed, stopping, none⟩)
  | cycles {policy : Policy} {due : Nat} {stopping : Bool} {drain : Drain}
    (h : due ≤ c.elapsed) (hdrain : c.drain.enter? = some drain) :
    Turn S c choice (.looping ⟨policy, some due, stopping, none⟩) drain
      (.looping ⟨policy, some (nextBeat due c.elapsed (cyclePeriod S policy)), stopping,
        some (.ofPolicy policy S.settings)⟩)
  | skips {policy : Policy} {due : Nat} {stopping : Bool}
    (h : due ≤ c.elapsed) (hdrain : c.drain.enter? = none) :
    Turn S c choice (.looping ⟨policy, some due, stopping, none⟩) c.drain
      (.looping ⟨policy, some (nextBeat due c.elapsed (cyclePeriod S policy)), stopping,
        none⟩)
  | stopsLooping {policy : Policy} {due : Nat} {stopping : Bool}
    (h : stopsNow stopping (decide (due ≤ c.elapsed)) choice = true) :
    Turn S c choice (.looping ⟨policy, some due, stopping, none⟩) c.drain (.ended .stopped)
  | passes {e : Ending} : Turn S c choice (.staged [] e) c.drain (.ended e)

variable {S : Surroundings ω} {c c' : Control ω} {tid choice : Nat}

/-- The state after a stage, but for a thread that may have been told to stop. -/
structure Passed (c c' : Control ω) : Prop where
  world : c'.world = c.world
  elapsed : c'.elapsed = c.elapsed
  queue : c'.queue = c.queue
  processors : c'.processors = c.processors
  line : c'.line = c.line
  requests : c'.requests = c.requests
  threads : c'.threads = c.threads
  drain : c'.drain = c.drain ∨ c'.drain = c.drain.begin

theorem Passed.refl : Passed c c := ⟨rfl, rfl, rfl, rfl, rfl, rfl, rfl, .inl rfl⟩

/-- A stage is passed, and perhaps a thread is told to stop. -/
theorem pass?_cases {stage : Stage} {stages : List Stage} (h : c.pass? stage = some (stages, c')) :
    ∃ c₁, Passed c c₁ ∧ (c' = c₁ ∨ ∃ t, c' = c₁.signal t) := by
  cases stage with
  | closeServer =>
    cases h
    exact ⟨{ c with serving := false }, ⟨rfl, rfl, rfl, rfl, rfl, rfl, rfl, .inl rfl⟩, .inl rfl⟩
  | beginDrain =>
    cases h
    exact ⟨{ c with drain := c.drain.begin }, ⟨rfl, rfl, rfl, rfl, rfl, rfl, rfl, .inr rfl⟩,
      .inl rfl⟩
  | clearRunning =>
    cases h
    exact ⟨{ c with running := false }, ⟨rfl, rfl, rfl, rfl, rfl, rfl, rfl, .inl rfl⟩, .inl rfl⟩
  | signal t =>
    cases h
    exact ⟨c, .refl, .inr ⟨t, rfl⟩⟩
  | awaitRequests =>
    rw [pass?] at h
    split at h <;> cases h
    exact ⟨c, .refl, .inl rfl⟩
  | await t =>
    rw [pass?] at h
    split at h <;> cases h
    exact ⟨c, .refl, .inl rfl⟩
  | awaitSettled =>
    rw [pass?] at h
    split at h <;> cases h
    exact ⟨c, .refl, .inl rfl⟩
  | dismissTicker =>
    rw [pass?] at h
    split at h <;> cases h
    · exact ⟨c, .refl, .inl rfl⟩
    · rename_i t _
      exact ⟨{ c with ticker := none }, ⟨rfl, rfl, rfl, rfl, rfl, rfl, rfl, .inl rfl⟩,
        .inr ⟨t, rfl⟩⟩

/-- All that a step of a thread can lead to. -/
inductive Steps (S : Surroundings ω) (c : Control ω) (tid choice : Nat) : Control ω → Prop where
  | stays : Steps S c tid choice c
  | turns {th th' : Thread} {drain : Drain} (hth : c.threads[tid]? = some th)
    (h : Turn S c choice th drain th') : Steps S c tid choice ({ c with drain }.put tid th')
  | works {wrap : Work → Thread} {w : Work} (hwrap : Thread.Works wrap)
    (hth : c.threads[tid]? = some (wrap w)) (ho : w.outcome? = none) :
    Steps S c tid choice (resume S tid wrap (c.stepWork S tid choice w)).2
  | dispatches {wrap : Dispatch → Thread} {d : Dispatch} (hwrap : Thread.Dispatches wrap)
    (hth : c.threads[tid]? = some (wrap d)) (hd : ∀ took, d ≠ .done took) :
    Steps S c tid choice (resume S tid wrap (c.stepDispatch S tid d)).2
  | breaks {policy : Policy} {stopping : Bool}
    (hth : c.threads[tid]? = some (.looping ⟨policy, none, stopping, none⟩))
    (h : cyclePeriod S policy = 0) : Steps S c tid choice (c.breakOff S tid .panicked)
  | passes {stage : Stage} {rest stages : List Stage} {e : Ending} {c' : Control ω}
    (hth : c.threads[tid]? = some (.staged (stage :: rest) e))
    (hp : c.pass? stage = some (stages, c')) :
    Steps S c tid choice (c'.put tid (.staged (stages ++ rest) e))

/-- Of the state only how far draining has come changes when tracked work has ended. -/
theorem settle_eq (tracked : Bool) :
    c.settle tracked = { c with drain := (c.settle tracked).drain } := by
  cases tracked <;> rfl

theorem steps_stepArriving {tracked : Bool} {w : Work}
    (hth : c.threads[tid]? = some (.arriving tracked w)) :
    Steps S c tid choice (c.stepArriving tid tracked w).2 := by
  cases tracked with
  | false => exact .turns hth .starts
  | true =>
    rw [stepArriving, if_pos rfl]
    split
    · rename_i h
      exact .turns hth (.isRefused h)
    · rename_i h
      exact .turns hth (.enters h)

theorem steps_stepTicker {t : Ticker} (hth : c.threads[tid]? = some (.ticking t)) :
    Steps S c tid choice (c.stepTicker S tid choice t).2 := by
  obtain ⟨due, stopping, current⟩ := t
  unfold stepTicker
  cases current with
  | none =>
    cases due with
    | none => exact .turns hth .winds
    | some due =>
      dsimp only
      split
      · rename_i hstops
        exact .turns hth (.stopsTicking hstops)
      · split
        · rename_i hdue
          exact .turns hth (.ticks (of_decide_eq_true hdue))
        · exact .stays
  | some d =>
    cases d with
    | done took => exact .turns hth .rests
    | _ => exact .dispatches (.ticking due stopping) hth fun took h => by cases h

theorem steps_stepLoop {l : PolicyLoop} (hth : c.threads[tid]? = some (.looping l)) :
    Steps S c tid choice (c.stepLoop S tid choice l).2 := by
  obtain ⟨policy, due, stopping, current⟩ := l
  unfold stepLoop
  cases current with
  | none =>
    cases due with
    | none =>
      dsimp only
      split
      · rename_i hperiod
        exact .breaks hth hperiod
      · rename_i hperiod
        exact .turns hth (.sets hperiod)
    | some due =>
      dsimp only
      split
      · rename_i hstops
        exact .turns hth (.stopsLooping hstops)
      · split
        · rename_i hdue
          unfold startCycle
          split
          · rename_i hdrain
            exact .turns hth (.skips (of_decide_eq_true hdue) hdrain)
          · rename_i hdrain
            exact .turns hth (.cycles (of_decide_eq_true hdue) hdrain)
        · exact .stays
  | some w =>
    dsimp only
    split
    · rename_i ho
      exact .turns hth (.endsCycle ho)
    · rename_i ho
      exact .works (.looping policy due stopping) hth ho

/-- A step leads to nothing else. -/
theorem steps (S : Surroundings ω) (c : Control ω) (tid choice : Nat) :
    Steps S c tid choice (c.step S tid choice).2 := by
  unfold step
  split
  · exact .stays
  all_goals rename_i hth
  · exact steps_stepArriving hth
  · unfold stepWorking
    split
    · rename_i ho
      rw [settle_eq]
      exact .turns hth (.finishes ho)
    · rename_i ho
      exact .works (.working _) hth ho
  · unfold stepDispatching
    split
    · exact .turns hth .dispatched
    · rename_i hd
      exact .dispatches .dispatching hth hd
  · exact steps_stepTicker hth
  · exact steps_stepLoop hth
  · rename_i stages e
    cases stages with
    | nil => exact .turns hth .passes
    | cons stage rest =>
      rw [stepStaged]
      split
      · exact .stays
      · rename_i hp
        exact .passes hth hp
  · exact .stays

end Control

end GameFleet
