import GameFleet.Control.Step

/-!
# Runs of the control program

A run is made of moves: a thread takes a step, or something is started, enqueued, registered or
stopped from outside, or time passes. Runs are lists of moves whose last move comes first, so the
states that a run went through are those of the suffixes of the list.

- `Move`: what can happen to the program, and `Control.apply` what it leads to.
- `Control.after`: the state after a run.
- `Control.Run`: runs whose every move was allowed when it was made.
- `Control.Run.invariant`: what every allowed move keeps holds after every run.
- `Control.Run.of_suffixes`: a run is checked at each of its suffixes.
-/

namespace GameFleet

/-- Something that happens to the program. -/
inductive Move (ω : Type) where
  /-- A thread takes a step among some surroundings. -/
  | step (S : Surroundings ω) (tid choice : Nat)
  /-- An operation or cycle comes; whether it is tracked. -/
  | begin (tracked : Bool) (w : Work)
  /-- A request is received. -/
  | receive (w : Work)
  /-- A dispatch comes. -/
  | dispatch
  /-- A task comes. -/
  | enqueue (S : Surroundings ω) (o : TaskOrder)
  /-- Tasks of a kind are processed from now on. -/
  | register (kind : String) (process : Json.Value → Op Json.Value)
  /-- The queue is started. -/
  | startQueue
  /-- The loop of a policy is started. -/
  | startLoop (p : Policy)
  /-- Somebody stops something, stage by stage. -/
  | stop (stages : List Stage) (e : Ending)
  /-- Time passes. -/
  | pass (millis : Nat)

namespace Control

variable {ω : Type}

/-- The state after a move. -/
def apply (c : Control ω) : Move ω → Control ω
  | .step S tid choice => (c.step S tid choice).2
  | .begin tracked w => (c.begin tracked w).1
  | .receive w => c.receive w
  | .dispatch => c.dispatch.1
  | .enqueue S o => c.enqueue S o
  | .register kind process => c.register kind process
  | .startQueue => c.startQueue
  | .startLoop p => (c.startLoop p).1
  | .stop stages e => (c.stop stages e).1
  | .pass millis => c.pass millis

/-- The state after a run. -/
def after (c : Control ω) : List (Move ω) → Control ω
  | [] => c
  | m :: earlier => (c.after earlier).apply m

/-- Every move of a run was allowed when it was made. -/
def Run (allowed : Control ω → Move ω → Prop) (c : Control ω) : List (Move ω) → Prop
  | [] => True
  | m :: earlier => Run allowed c earlier ∧ allowed (c.after earlier) m

variable {allowed : Control ω → Move ω → Prop} {c : Control ω}

theorem after_append (ms earlier : List (Move ω)) :
    c.after (ms ++ earlier) = (c.after earlier).after ms := by
  induction ms with
  | nil => rfl
  | cons m ms ih =>
    show (c.after (ms ++ earlier)).apply m = ((c.after earlier).after ms).apply m
    rw [ih]

/-- A part of a run from its start is a run. -/
theorem Run.of_append {ms earlier : List (Move ω)} (h : Run allowed c (ms ++ earlier)) :
    Run allowed c earlier := by
  induction ms with
  | nil => exact h
  | cons m ms ih => exact ih h.1

/-- What is allowed more freely is a run too. -/
theorem Run.imp {allowed' : Control ω → Move ω → Prop} {ms : List (Move ω)}
    (h : ∀ c m, allowed c m → allowed' c m) (hrun : Run allowed c ms) : Run allowed' c ms := by
  induction ms with
  | nil => trivial
  | cons m earlier ih => exact ⟨ih hrun.1, h _ m hrun.2⟩

/-- A run after another is a run. -/
theorem Run.append {ms earlier : List (Move ω)} (h : Run allowed c earlier)
    (hms : Run allowed (c.after earlier) ms) : Run allowed c (ms ++ earlier) := by
  induction ms with
  | nil => exact h
  | cons m ms ih =>
    refine ⟨ih hms.1, ?_⟩
    show allowed (c.after (ms ++ earlier)) m
    rw [after_append]
    exact hms.2

/-- The rest of a run is a run from where its first part has come to. -/
theorem Run.of_after {ms earlier : List (Move ω)} (h : Run allowed c (ms ++ earlier)) :
    Run allowed (c.after earlier) ms := by
  induction ms with
  | nil => trivial
  | cons m ms ih =>
    refine ⟨ih h.1, ?_⟩
    rw [← after_append]
    exact h.2

/-- What holds at first and is kept by every allowed move holds after every run. -/
theorem Run.invariant {I : Control ω → Prop} (h₀ : I c)
    (hstep : ∀ c m, I c → allowed c m → I (c.apply m)) {ms : List (Move ω)}
    (h : Run allowed c ms) : I (c.after ms) := by
  induction ms with
  | nil => exact h₀
  | cons m earlier ih => exact hstep _ m (ih h.1) h.2

/-- Moves that are each allowed after those before them are a run. -/
theorem Run.of_suffixes {ms : List (Move ω)}
    (h : ∀ m earlier, m :: earlier <:+ ms → allowed (c.after earlier) m) : Run allowed c ms := by
  induction ms with
  | nil => trivial
  | cons m earlier ih =>
    refine ⟨ih fun m' older hsuffix => ?_, h m earlier List.suffix_rfl⟩
    exact h m' older (hsuffix.trans (List.suffix_cons m earlier))

end Control

end GameFleet
