import GameFleet.Proofs.Fleet.Order

/-!
# Taking turns

Runs in which threads take one turn after another, each as somebody says, and every call does what
is said of its turn: it succeeds and finds nothing that stands in its way, or it fails without
effect.

- `Circumstances.usual`: what befalls the calls of a turn.
- `Fleet.turns`: the moves of some turns.
- `Fleet.run_turns`: turns make a run when every identifier that they give is new.
- `Fleet.bare`: the program before anything goes on, without any instance.
-/

namespace GameFleet

/-- What calls find out when nothing stands in the way. -/
def Call.usual : (c : Call) → c.Result
  | identity owner => some owner.text
  | ban .. => (none : Option Ban)
  | balance _ => (1 : Int)
  | overrides _ => ([] : List (String × String))
  | lockInstance _ => (none : Option Instance)
  | ownersInTransaction _ => ([] : List Instance)
  | findInstance _ => (none : Option Instance)
  | listInstances _ => ([] : List Instance)
  | ownersInstances _ => ([] : List Instance)
  | listActivities => ([] : List Activity)
  | deploy _ => (default : Deployment)
  | console _ => ""
  | errand _ => (default : Json.Value)
  | begin => ()
  | write _ => ()
  | commit => ()
  | removeInstance _ => ()
  | recordActivity _ => ()
  | removeActivity _ => ()
  | destroy .. => ()
  | notify .. => ()
  | log _ => ()

/-- Every call succeeds and finds nothing that stands in its way, or every call fails without
effect. -/
def Circumstances.usual (id : Uuid) (fails : Bool) : Circumstances where
  start := default
  settings := .ofEnvironment fun _ => none
  tick := 0
  fate c := if fails then .fails (.internal "nobody was reached") false else .succeeds c.usual
  id

namespace Fleet

/-- Threads take turns, the last first, after some moves; whether the calls of each turn fail. -/
def turns (locking : Bool) (ms : List (Move Registry)) : List (Nat × Bool) → List (Move Registry)
  | [] => ms
  | (tid, fails) :: earlier =>
    .step (Registry.surroundings locking (.usual (.numbered earlier.length) fails)) tid 0
      :: turns locking ms earlier

/-- Every identifier that some turns give is new. -/
def giveNew (locking : Bool) (c : Control Registry) (ms : List (Move Registry)) :
    List (Nat × Bool) → Bool
  | [] => true
  | _ :: earlier =>
    giveNew locking c ms earlier &&
      !(c.after (turns locking ms earlier)).world.given.contains (.numbered earlier.length)

/-- Turns make a run when every identifier that they give is new. -/
theorem run_turns {locking : Bool} {c : Control Registry} {ms : List (Move Registry)}
    (hrun : Control.Run (May locking) c ms) {ts : List (Nat × Bool)}
    (hnew : giveNew locking c ms ts = true) :
    Control.Run (May locking) c (turns locking ms ts) := by
  induction ts with
  | nil => exact hrun
  | cons t earlier ih =>
    simp only [giveNew, Bool.and_eq_true, Bool.not_eq_true', ← Bool.not_eq_true,
      List.contains_iff_mem] at hnew
    exact ⟨ih hnew.1, _, hnew.2, rfl⟩

/-- The program before anything goes on, without any instance. -/
def bare : Control Registry := { world := {} }

theorem bare_opening : Opening bare :=
  ⟨rfl, fun _ => rfl, rfl, rfl, List.nodup_nil, nofun⟩

/-- An owner asks for an instance. -/
def oneAdmission : Work :=
  .of (Admission.grant false ⟨"us-east", "plain", ⟨"owner"⟩, none⟩) .admitted

/-- The same owner has all instances removed. -/
def oneRemoval : Work := .of (Termination.removeOwned ⟨"owner"⟩) .removed

end Fleet

end GameFleet
