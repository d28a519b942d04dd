import GameFleet.Simulation.Rows
import GameFleet.Termination

/-!
# Attempts to remove an instance (specification §4.6)

A task that removes an instance is run again when a run of it fails, and any of its calls may fail.
What is left in the end depends on the first run that removes the fleet's row: the runs after it
find no row and have nothing to do.

- `Tables`: the rows and events that a removal is about.
- `Attempt`: what befalls a run; `Attempt.Completes`, `Attempt.Strands`: it does all that it should,
  or it fails when the row has been removed already.
- `Tables.attempt`: a run, and `Tables.after` what several runs leave.
- `Tables.removal_outcome`: the theorem; `Tables.exists_stranded`: a run can give a result although
  the activity row stays and nothing was logged.
-/

namespace GameFleet

/-! ### Operations that are answered -/

namespace Op

variable {σ α β : Type} {answer : σ → (q : Request) → q.Answer × σ} {s s' : σ} {op : Op α}

/-- An operation goes on with what the one before it gave. -/
theorem answered_bind_ok {a : α} (h : Program.answered answer s op.run = (.ok a, s'))
    (f : α → Op β) :
    Program.answered answer s (op >>= f).run = Program.answered answer s' (f a).run := by
  rw [ExceptT.run_bind]
  refine (Program.answered_bind answer op.run _ s).trans ?_
  rw [h]

/-- An operation fails with the one before it. -/
theorem answered_bind_error {f : Failure} (h : Program.answered answer s op.run = (.error f, s'))
    (next : α → Op β) :
    Program.answered answer s (op >>= next).run = (.error f, s') := by
  rw [ExceptT.run_bind]
  refine (Program.answered_bind answer op.run _ s).trans ?_
  rw [h]
  rfl

theorem answered_call (answer : σ → (q : Request) → q.Answer × σ) (s : σ) (c : Call) :
    Program.answered answer s (Op.call c).run = answer s (.call c) := rfl

end Op

/-! ### What a removal is about -/

/-- The fleet's rows, the activity rows, and the events that were logged, the last first. -/
structure Tables where
  rows : List Instance
  activities : List Activity
  events : List Event := []

/-- What befalls a run: when it comes to log, and which calls fail. A removal that fails may have
taken effect all the same. -/
structure Attempt where
  now : Timestamp
  destroy : Option Failure := none
  removeInstance : Option (Failure × Bool) := none
  removeActivity : Option (Failure × Bool) := none

namespace Attempt

/-- No call fails. -/
def Completes (a : Attempt) : Prop :=
  a.destroy = none ∧ a.removeInstance = none ∧ a.removeActivity = none

/-- A call fails when the fleet's row has been removed already, or as it is removed. -/
def Strands (a : Attempt) : Prop :=
  a.destroy = none ∧ ((∃ f, a.removeInstance = some (f, true)) ∨
    (a.removeInstance = none ∧ ∃ f took, a.removeActivity = some (f, took)))

/-- The activity row is removed although that call fails. -/
def RemovesActivity (a : Attempt) : Prop :=
  a.removeInstance = none ∧ ∃ f, a.removeActivity = some (f, true)

end Attempt

namespace Tables

/-- The tables without the row of an instance. -/
def withoutInstance (t : Tables) (id : InstanceId) : Tables :=
  { t with rows := Rows.drop Instance.id id t.rows }

/-- The tables without the activity row of an instance. -/
def withoutActivity (t : Tables) (id : InstanceId) : Tables :=
  { t with activities := Rows.drop Activity.server id t.activities }

/-- What a removal gives and leaves. -/
def removal (t removed : Tables) : Option (Failure × Bool) → Outcome Unit × Tables
  | none => (.ok (), removed)
  | some (f, took) => (.error f, if took then removed else t)

/-- How anything is answered. There is only what a removal asks for. -/
def answer (a : Attempt) (t : Tables) : (q : Request) → q.Answer × Tables
  | .call (.findInstance id) => (.ok (Rows.find? Instance.id id t.rows), t)
  | .call (.destroy _ _) => ((a.destroy.map .error).getD (.ok ()), t)
  | .call (.removeInstance id) => t.removal (t.withoutInstance id) a.removeInstance
  | .call (.removeActivity id) => t.removal (t.withoutActivity id) a.removeActivity
  | .call (.log e) => (.ok (), { t with events := e :: t.events })
  | .call _ => (.error (.internal "nobody was asked"), t)
  | .now => (a.now, t)
  | .freshId => (.numbered 0, t)
  | .abandon => ((), t)
  | .isQueued _ _ => (false, t)
  | .enqueue _ => ((), t)

/-- A run of the task with a payload, and what it leaves. -/
def attempt (t : Tables) (payload : Json.Value) (a : Attempt) : Outcome Json.Value × Tables :=
  Program.answered (answer a) t (Termination.process payload).run

/-- What is left after several runs, the last first. -/
def after (t : Tables) (payload : Json.Value) : List Attempt → Tables
  | [] => t
  | a :: earlier => ((t.after payload earlier).attempt payload a).2

/-- What a run gives. -/
def reply (id : InstanceId) (deleted : Bool) : Json.Value :=
  .record [("instance_id", id.toJson), ("deleted", .bool deleted)]

/-- What is logged of an instance that was removed. -/
def event (i : Instance) (order : DeletionOrder) (now : Timestamp) : Event where
  message := Termination.message i (order.reason.getD "deleted by background task")
  actor := i.owner.text
  createdAt := now

variable {t t' : Tables} {payload : Json.Value} {order : DeletionOrder} {a : Attempt}
  {i : Instance} {reason : String}

/-! ### One run -/

/-- The instance is terminated. -/
def terminated (t : Tables) (i : Instance) (order : DeletionOrder) (a : Attempt) :
    Outcome Unit × Tables :=
  Program.answered (answer a) t
    (Termination.terminate i (order.reason.getD "deleted by background task")).run

/-- The tables after the removal of an instance. -/
def completed (t : Tables) (i : Instance) (order : DeletionOrder) (a : Attempt) : Tables :=
  { (t.withoutInstance i.id).withoutActivity i.id with
    events := event i order a.now :: t.events }

/-- The tables after the fleet's row was removed and the run failed. -/
structure Stranded (t : Tables) (id : InstanceId) (a : Attempt) (t' : Tables) : Prop where
  rows : t'.rows = Rows.drop Instance.id id t.rows
  events : t'.events = t.events
  activities : (a.RemovesActivity ∧ t'.activities = Rows.drop Activity.server id t.activities) ∨
    (¬a.RemovesActivity ∧ t'.activities = t.activities)

/-- After a run that does all that it should the row is gone. -/
theorem find?_completed (t : Tables) (hid : i.id = order.id) (a : Attempt) :
    Rows.find? Instance.id order.id (t.completed i order a).rows = none :=
  hid ▸ Rows.find?_drop_self Instance.id i.id t.rows

/-- After a run that fails too late the row is gone. -/
theorem Stranded.find?_eq_none (h : Stranded t i.id a t') (hid : i.id = order.id) :
    Rows.find? Instance.id order.id t'.rows = none := by
  rw [h.rows, hid]
  exact Rows.find?_drop_self Instance.id order.id t.rows

theorem terminated_of_completes (t : Tables) (i : Instance) (order : DeletionOrder)
    (h : a.Completes) : t.terminated i order a = (.ok (), t.completed i order a) := by
  obtain ⟨now, destroy, removeInstance, removeActivity⟩ := a
  obtain ⟨rfl, rfl, rfl⟩ := h
  rfl

theorem terminated_of_strands (t : Tables) (i : Instance) (order : DeletionOrder) (h : a.Strands) :
    ∃ f t', t.terminated i order a = (.error f, t') ∧ Stranded t i.id a t' := by
  obtain ⟨now, destroy, removeInstance, removeActivity⟩ := a
  obtain ⟨rfl, ⟨f, rfl⟩ | ⟨rfl, f, took, rfl⟩⟩ := h
  · exact ⟨f, _, rfl, rfl, rfl, .inr ⟨fun h => (nomatch h.1), rfl⟩⟩
  · cases took with
    | true => exact ⟨f, _, rfl, rfl, rfl, .inl ⟨⟨rfl, f, rfl⟩, rfl⟩⟩
    | false => exact ⟨f, _, rfl, rfl, rfl, .inr ⟨fun h => (nomatch h.2), rfl⟩⟩

/-- A run that fails before the row is removed leaves everything as it was. -/
theorem terminated_of_neither (t : Tables) (i : Instance) (order : DeletionOrder)
    (h : ¬a.Completes) (h' : ¬a.Strands) : ∃ f, t.terminated i order a = (.error f, t) := by
  obtain ⟨now, destroy, removeInstance, removeActivity⟩ := a
  cases destroy with
  | some f => exact ⟨f, rfl⟩
  | none =>
    cases removeInstance with
    | some x =>
      obtain ⟨f, took⟩ := x
      cases took with
      | true => exact absurd ⟨rfl, .inl ⟨f, rfl⟩⟩ h'
      | false => exact ⟨f, rfl⟩
    | none =>
      cases removeActivity with
      | some x => exact absurd ⟨rfl, .inr ⟨rfl, x.1, x.2, rfl⟩⟩ h'
      | none => exact absurd ⟨rfl, rfl, rfl⟩ h

section

variable (hp : DeletionOrder.decoder (.ofValue payload) = .ok order)

include hp

theorem attempt_eq (t : Tables) (a : Attempt) : t.attempt payload a =
    let (o, t') := Program.answered (answer a) t
      (Termination.remove order.id (order.reason.getD "deleted by background task")).run
    (o.map (reply order.id), t') := by
  unfold attempt Termination.process
  rw [hp]
  dsimp only
  generalize hremove : Program.answered (answer a) t (Termination.remove order.id
    (order.reason.getD "deleted by background task")).run = x
  obtain ⟨o, t'⟩ := x
  cases o with
  | ok deleted => exact (Op.answered_bind_ok hremove _).trans rfl
  | error f => exact (Op.answered_bind_error hremove _).trans rfl

/-- A run that finds no row has nothing to do. -/
theorem attempt_of_absent (h : Rows.find? Instance.id order.id t.rows = none) (a : Attempt) :
    t.attempt payload a = (.ok (reply order.id false), t) := by
  rw [attempt_eq hp]
  have hremove : Program.answered (answer a) t (Termination.remove order.id
      (order.reason.getD "deleted by background task")).run = (.ok false, t) := by
    refine (Op.answered_bind_ok (Op.answered_call ..) _).trans ?_
    rw [h]
    rfl
  rw [hremove]
  rfl

/-- A run that finds the row terminates the instance. -/
theorem attempt_of_found (h : Rows.find? Instance.id order.id t.rows = some i) (a : Attempt) :
    t.attempt payload a = ((t.terminated i order a).1.map fun _ => reply order.id true,
      (t.terminated i order a).2) := by
  rw [attempt_eq hp]
  have hremove : Program.answered (answer a) t (Termination.remove order.id
      (order.reason.getD "deleted by background task")).run =
      ((t.terminated i order a).1.map fun _ => true, (t.terminated i order a).2) := by
    refine (Op.answered_bind_ok (Op.answered_call ..) _).trans ?_
    rw [h]
    generalize hterminated : t.terminated i order a = x
    obtain ⟨o, t'⟩ := x
    cases o with
    | ok u => exact (Op.answered_bind_ok hterminated _).trans rfl
    | error f => exact (Op.answered_bind_error hterminated _).trans rfl
  rw [hremove]
  cases (t.terminated i order a).1 <;> rfl

end

/-! ### Several runs -/

/-- Nothing was removed so far. -/
def Futile (attempts : List Attempt) : Prop := ∀ a ∈ attempts, ¬a.Completes ∧ ¬a.Strands

/-- What several runs leave, the last first: the first of them that removes the fleet's row decides,
and those after it change nothing. -/
inductive Standing (s : Tables) (i : Instance) (order : DeletionOrder) (attempts : List Attempt) :
    Tables → Prop where
  | untouched (h : Futile attempts) : Standing s i order attempts s
  | removed {later earlier : List Attempt} {first : Attempt}
    (h : attempts = later ++ first :: earlier) (hbefore : Futile earlier)
    (hfirst : first.Completes) : Standing s i order attempts (s.completed i order first)
  | stranded {later earlier : List Attempt} {first : Attempt} {t : Tables}
    (h : attempts = later ++ first :: earlier) (hbefore : Futile earlier)
    (hfirst : first.Strands) (ht : Stranded s i.id first t) : Standing s i order attempts t

variable {s : Tables} {x : Activity} {v : Json.Value} {attempts : List Attempt}

section

variable (hp : DeletionOrder.decoder (.ofValue payload) = .ok order)
  (hi : Rows.find? Instance.id order.id s.rows = some i)

include hp hi

/-- Another run. -/
theorem Standing.attempt (h : Standing s i order attempts t) (a : Attempt) :
    Standing s i order (a :: attempts) (t.attempt payload a).2 := by
  have hid : i.id = order.id := (Rows.mem_of_find? hi).2
  cases h with
  | untouched h =>
    rw [attempt_of_found hp hi]
    by_cases hc : a.Completes
    · rw [terminated_of_completes _ i order hc]
      exact .removed (List.nil_append _).symm h hc
    by_cases hs : a.Strands
    · -- From here on the runs find no row.
      obtain ⟨f, t', heq, ht⟩ := terminated_of_strands _ i order hs
      rw [heq]
      exact .stranded (List.nil_append _).symm h hs ht
    · obtain ⟨f, heq⟩ := terminated_of_neither _ i order hc hs
      rw [heq]
      refine .untouched fun b hb => ?_
      rcases List.mem_cons.mp hb with rfl | hb
      · exact ⟨hc, hs⟩
      · exact h b hb
  | @removed later earlier first h hbefore hfirst =>
    have hnone := find?_completed s hid first
    have hmore : a :: attempts = (a :: later) ++ first :: earlier := congrArg (a :: ·) h
    rw [attempt_of_absent hp hnone]
    exact .removed hmore hbefore hfirst
  | @stranded later earlier first t h hbefore hfirst ht =>
    have hnone := ht.find?_eq_none hid
    have hmore : a :: attempts = (a :: later) ++ first :: earlier := congrArg (a :: ·) h
    rw [attempt_of_absent hp hnone]
    exact .stranded hmore hbefore hfirst ht

theorem standing_after (attempts : List Attempt) :
    Standing s i order attempts (s.after payload attempts) := by
  induction attempts with
  | nil => exact .untouched fun _ ha => absurd ha List.not_mem_nil
  | cons a earlier ih =>
    show Standing s i order (a :: earlier) ((s.after payload earlier).attempt payload a).2
    exact ih.attempt hp hi a

/-- Of a task that removes an instance, which has a row in the fleet and an activity row, some run
gives a result. Then the fleet's row is gone. If the first run that removed it did not fail, the
activity row is gone too and one event was logged. Otherwise the result says that there was nothing
to remove, no event was logged, and the activity row is gone only if its removal took effect as it
failed. -/
theorem removal_outcome (hx : Rows.find? Activity.server order.id s.activities = some x)
    (hok : ((s.after payload attempts).attempt payload a).1 = .ok v) :
    let t := s.after payload (a :: attempts)
    Rows.find? Instance.id order.id t.rows = none ∧
    ∃ later first earlier, a :: attempts = later ++ first :: earlier ∧ Futile earlier ∧
      ((first.Completes ∧ Rows.find? Activity.server order.id t.activities = none ∧
        t.events = event i order first.now :: s.events) ∨
      (first.Strands ∧ v = reply order.id false ∧ t.events = s.events ∧
        (Rows.find? Activity.server order.id t.activities = none ↔ first.RemovesActivity))) := by
  intro t
  have hid : i.id = order.id := (Rows.mem_of_find? hi).2
  have hstanding : Standing s i order attempts (s.after payload attempts) :=
    standing_after hp hi attempts
  have ht : t = ((s.after payload attempts).attempt payload a).2 := rfl
  rw [ht]
  generalize hleft : s.after payload attempts = left at hstanding hok
  cases hstanding with
  | untouched h =>
    -- This run removed the row, or it would have failed.
    rw [attempt_of_found hp hi] at hok ⊢
    by_cases hc : a.Completes
    · rw [terminated_of_completes _ i order hc]
      refine ⟨find?_completed s hid a, [], a, attempts, rfl, h, .inl ⟨hc, ?_, rfl⟩⟩
      exact hid ▸ Rows.find?_drop_self Activity.server i.id _
    by_cases hs : a.Strands
    · obtain ⟨f, t', heq, -⟩ := terminated_of_strands _ i order hs
      rw [heq] at hok
      cases hok
    · obtain ⟨f, heq⟩ := terminated_of_neither _ i order hc hs
      rw [heq] at hok
      cases hok
  | @removed later earlier first h hbefore hfirst =>
    have hnone := find?_completed s hid first
    have hmore : a :: attempts = (a :: later) ++ first :: earlier := congrArg (a :: ·) h
    rw [attempt_of_absent hp hnone]
    refine ⟨hnone, a :: later, first, earlier, hmore, hbefore, .inl ⟨hfirst, ?_, rfl⟩⟩
    exact hid ▸ Rows.find?_drop_self Activity.server i.id s.activities
  | @stranded later earlier first left h hbefore hfirst hstranded =>
    have hnone := hstranded.find?_eq_none hid
    have hmore : a :: attempts = (a :: later) ++ first :: earlier := congrArg (a :: ·) h
    rw [attempt_of_absent hp hnone] at hok ⊢
    refine ⟨hnone, a :: later, first, earlier, hmore, hbefore,
      .inr ⟨hfirst, (Except.ok.inj hok).symm, hstranded.events, ?_⟩⟩
    obtain ⟨hremoves, hactivities⟩ | ⟨hkeeps, hactivities⟩ := hstranded.activities
    · rw [hactivities, hid]
      exact ⟨fun _ => hremoves, fun _ => Rows.find?_drop_self Activity.server order.id s.activities⟩
    · rw [hactivities, hx]
      exact ⟨nofun, fun h => absurd h hkeeps⟩

end

/-- An instance that is to be removed. -/
def doomed : Instance := { (default : Instance) with id := ⟨.numbered 1⟩, owner := ⟨"u1"⟩ }

/-- The tables with its rows. -/
def populated : Tables where
  rows := [doomed]
  activities := [⟨doomed.id, none, default⟩]

/-- What it is to be removed for. -/
def doom : DeletionOrder := ⟨doomed.id, none⟩

/-- A run whose last removal fails. -/
def lateFailure : Attempt where
  now := default
  removeActivity := some (.internal "boom", false)

theorem doom_legible : DeletionOrder.decoder (.ofValue doom.toJson) = .ok doom := rfl

/-- Once the row is gone, a run gives a result. -/
theorem attempt_doom : ((populated.after doom.toJson [lateFailure]).attempt doom.toJson
    { now := default }).1 = .ok (reply doomed.id false) := by
  rw [attempt_of_absent doom_legible (by decide +kernel)]
  rfl

/-- The first run removes the row and fails, and the second finds nothing to remove. -/
theorem removal_outcome_lateFailure :
    let t := populated.after doom.toJson [{ now := default }, lateFailure]
    ((populated.after doom.toJson [lateFailure]).attempt doom.toJson { now := default }).1 =
      .ok (reply doomed.id false) ∧
    Rows.find? Instance.id doomed.id t.rows = none ∧
    ∃ later first earlier, [{ now := default }, lateFailure] = later ++ first :: earlier ∧
      Futile earlier ∧ (first.Completes ∨ first.Strands) := by
  obtain ⟨hgone, later, first, earlier, h, hbefore, hfirst⟩ :=
    removal_outcome doom_legible rfl rfl attempt_doom
  exact ⟨attempt_doom, hgone, later, first, earlier, h, hbefore,
    hfirst.imp And.left And.left⟩

/-- That a run gives a result does not mean that the activity row is gone and an event was
logged. -/
theorem exists_stranded :
    ¬∀ (s : Tables) (payload : Json.Value) (order : DeletionOrder) (i : Instance) (x : Activity)
      (attempts : List Attempt) (a : Attempt) (v : Json.Value),
      DeletionOrder.decoder (.ofValue payload) = .ok order →
      Rows.find? Instance.id order.id s.rows = some i →
      Rows.find? Activity.server order.id s.activities = some x →
      ((s.after payload attempts).attempt payload a).1 = .ok v →
      Rows.find? Instance.id order.id (s.after payload (a :: attempts)).rows = none ∧
      Rows.find? Activity.server order.id (s.after payload (a :: attempts)).activities = none ∧
      ∃ now, (s.after payload (a :: attempts)).events = event i order now :: s.events := by
  intro h
  obtain ⟨-, hactivity, -⟩ := h populated doom.toJson doom doomed _ [lateFailure] { now := default }
    _ doom_legible rfl rfl attempt_doom
  exact absurd hactivity (by decide +kernel)

end Tables

end GameFleet
