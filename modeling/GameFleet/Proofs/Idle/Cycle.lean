import GameFleet.Proofs.Idle.Scene

/-!
# A cycle of the idle policy

What one cycle does about one instance, as others treat the other instances: by the activity row
that it finds, it has the instance removed, or looks at it and writes down what it was told.

- `Probe`: what a look at an instance told; `judgedAt?`, `probe?`: when a cycle judged, and what it
  was told.
- `Idle.order`, `Idle.Removes`: the task that removes an instance, and that it is in the queue.
- `Idle.ends_refresh`, `Idle.ends_judge`, `Idle.ends_survey`: what a look at an instance, the
  judgement and the survey come to.
- `Idle.Cycle`: a whole cycle; `Idle.Evicted`, `Idle.Probed`: the two things that it does about an
  instance.
- `Idle.cycle_cases`: which of them it does.
-/

namespace GameFleet

/-- What a look at an instance told. -/
structure Probe where
  /-- How many play on it; none when it did not answer. -/
  players : Option Nat
  completed : Timestamp
  deriving DecidableEq

namespace Asked

/-- The time that was told. -/
def time? : Asked → Option Timestamp
  | ⟨_, .now, t⟩ => some t
  | _ => none

/-- How many play on an instance whose console answered. -/
def players? : Asked → Option Nat
  | ⟨_, .call (.console _), .ok transcript⟩ =>
    some (Console.Report.read (String.toList transcript)).players
  | _ => none

end Asked

/-- When a cycle judged the instances. -/
def judgedAt? (tr : List Asked) : Option Timestamp :=
  (tr.filter (·.step = none)).findSome? Asked.time?

/-- What a cycle was told when it looked at an instance, if it did. -/
def probe? (id : InstanceId) (tr : List Asked) : Option Probe :=
  ((Asked.ofStep id tr).findSome? Asked.time?).map fun t =>
    ⟨(Asked.ofStep id tr).findSome? Asked.players?, t⟩

namespace Idle

/-- The task that removes an instance. -/
def order (s : FleetSettings) (i : Instance) : TaskOrder :=
  let minutes := (s.idle.forVariant i.variant).seconds / 60
  { kind := DeletionOrder.kind
    payload := (removal i.id minutes).toJson
    policy := DeletionOrder.policy
    onSuccess := some (.evictionNotice i.owner i.id minutes) }

/-- The task names the instance. -/
theorem member?_order (s : FleetSettings) (i : Instance) :
    (order s i).payload.member? "instance_id" = some i.id.toJson :=
  DeletionOrder.member?_toJson _

/-- The survey finds the removal of an instance in the queue, or enqueues it. -/
def Removes (s : FleetSettings) (i : Instance) (tr : List Asked) : Prop :=
  ⟨none, .isQueued (order s i).kind (order s i).payload, true⟩ ∈ tr ∨
    ⟨none, .enqueue (order s i), ()⟩ ∈ tr

variable {s : FleetSettings} {i j : Instance} {x y : Scene} {tr : List Asked}

theorem ends_enqueueRemoval {v : Outcome Unit}
    (h : Ends i none x (enqueueRemoval j (s.idle.forVariant j.variant)).run tr y v) :
    x.Beside i y ∧ v = .ok () ∧ Removes s j tr ∧
      ∀ e ∈ tr, e.step = none ∧ ∀ o, e.request = .enqueue o → o = order s j := by
  obtain ⟨x₁, queued, x₂, tr₁, hb, ⟨rfl, hq⟩, rfl, h₁⟩ := Ends.of_ask h
  change Bool at queued
  cases queued with
  | true =>
    obtain ⟨rfl, rfl, hb'⟩ := Ends.of_done h₁
    refine ⟨hb.trans hb', rfl, .inl (List.mem_singleton.mpr rfl), fun e he => ?_⟩
    rw [List.mem_singleton.mp he]
    exact ⟨rfl, fun o ho => by cases ho⟩
  | false =>
    obtain ⟨x₃, a, x₄, tr₂, hb₃, ⟨id, now, rfl⟩, rfl, h₂⟩ := Ends.of_ask h₁
    obtain ⟨rfl, rfl, hb'⟩ := Ends.of_done h₂
    have hqueue : x₃.Beside i { x₃ with queue := x₃.queue.enqueue id now (order s j) } :=
      ⟨fun h => ⟨h.row, h.rows, h.activities, h.now⟩, rfl⟩
    refine ⟨((hb.trans hb₃).trans hqueue).trans hb', rfl,
      .inr (List.mem_cons_of_mem _ (List.mem_singleton.mpr rfl)), fun e he => ?_⟩
    obtain rfl | he := List.mem_cons.mp he
    · exact ⟨rfl, fun o ho => by cases ho⟩
    · rw [List.mem_singleton.mp he]
      exact ⟨rfl, fun o ho => (Request.enqueue.inj ho).symm⟩

/-! ### A look at an instance -/

/-- What is done once an instance was looked at. -/
def note (i : Instance) (previous : Option Activity) (seen : Outcome Nat) : Op Unit := do
  let now : Timestamp ← Op.ask .now
  let row : Option Instance ← Op.call (.findInstance i.id)
  if row.isSome then
    Op.call (.recordActivity (Activity.next i.id previous seen.toOption now))

theorem refresh_eq (i : Instance) (previous : Option Activity) (timeout : Span) :
    refresh i previous timeout = Op.attempt (players i timeout) >>= note i previous := rfl

/-- An instance was asked how many play on it. -/
def Queried (i : Instance) (timeout : Span) (tr : List Asked) : Prop :=
  ∀ console password, i.console? = some (console, password) →
    ∃ o, ⟨some i.id, .call (.console ⟨console, password, "status", timeout⟩), o⟩ ∈ tr

theorem ends_players {timeout : Span} {v : Outcome (Outcome Nat)}
    (h : Ends i (some i.id) x (Op.attempt (players i timeout)).run tr y v) :
    ∃ seen, v = .ok seen ∧ x.Beside i y ∧ tr.findSome? Asked.time? = none ∧
      tr.findSome? Asked.players? = seen.toOption ∧ Queried i timeout tr := by
  cases hc : i.console? with
  | none =>
    -- Without a console the look fails before anything is asked.
    have hp : (Op.attempt (players i timeout)).run = .done (.ok (.error (Op.noConsole i))) := by
      unfold players Op.command
      rw [hc]
      rfl
    rw [hp] at h
    obtain ⟨rfl, rfl, hb⟩ := h.of_done
    refine ⟨_, rfl, hb, rfl, rfl, fun console password hc' => ?_⟩
    rw [hc] at hc'
    cases hc'
  | some access =>
    obtain ⟨console, password⟩ := access
    have hp : (Op.attempt (players i timeout)).run =
        .ask (.call (.console ⟨console, password, "status", timeout⟩)) fun o =>
          .done (.ok (o.map fun transcript =>
            (Console.Report.read (String.toList transcript)).players)) := by
      unfold players Op.command
      rw [hc]
      refine congrArg (Program.ask _) (funext fun o => ?_)
      cases o <;> rfl
    rw [hp] at h
    obtain ⟨x₁, o, x₂, tr₁, hb, hx, rfl, h₁⟩ := h.of_ask
    obtain rfl : x₂ = x₁ := hx
    obtain ⟨rfl, rfl, hb'⟩ := h₁.of_done
    refine ⟨_, rfl, hb.trans hb', rfl, ?_, fun console' password' hc' => ?_⟩
    · cases o <;> rfl
    · rw [hc] at hc'
      cases hc'
      exact ⟨o, List.mem_singleton.mpr rfl⟩

theorem ends_note {previous : Option Activity} {seen : Outcome Nat} {v : Outcome Unit}
    (hx : x.Holds i) (h : Ends i (some i.id) x (note i previous seen).run tr y v) :
    ∃ t : Timestamp, t.InRange ∧ y.Holds i ∧
      y.activity? i.id = some (Activity.next i.id previous seen.toOption t) ∧
      tr.findSome? Asked.time? = some t ∧ tr.findSome? Asked.players? = none := by
  obtain ⟨x₁, t, x₂, tr₁, hb₁, ⟨rfl, rfl⟩, rfl, h₁⟩ := Ends.of_ask h
  obtain ⟨x₃, row, x₄, tr₂, hb₂, ⟨rfl, rfl⟩, rfl, h₂⟩ := Ends.of_ask h₁
  have hx₂ : x₂.Holds i := hb₁.holds hx
  have hx₄ : x₄.Holds i := hb₂.holds hx₂
  -- The instance is still in the fleet, so what was seen is written down.
  rw [hx₄.find?] at h₂
  obtain ⟨x₅, _, x₆, tr₃, hb₃, ⟨rfl, rfl⟩, rfl, h₃⟩ := Ends.of_ask h₂
  obtain ⟨rfl, rfl, hb₄⟩ := Ends.of_done h₃
  have hx₅ : x₅.Holds i := hb₃.holds hx₄
  refine ⟨x₂.now, hx₂.now, hb₄.holds ⟨hx₅.row, hx₅.rows, Rows.nodup_put hx₅.activities, hx₅.now⟩,
    ?_, rfl, rfl⟩
  rw [hb₄.activity]
  have hserver : (Activity.next i.id previous seen.toOption x₂.now).server = i.id := by
    unfold Activity.next
    split <;> rfl
  have hput := Rows.find?_put_self Activity.server
    (Activity.next i.id previous seen.toOption x₂.now) x₅.activities
  rwa [hserver] at hput

theorem ends_refresh {previous : Option Activity} {timeout : Span} {v : Outcome Unit}
    (hx : x.Holds i) (h : Ends i (some i.id) x (refresh i previous timeout).run tr y v) :
    ∃ p : Probe, tr.findSome? Asked.time? = some p.completed ∧
      tr.findSome? Asked.players? = p.players ∧ p.completed.InRange ∧ y.Holds i ∧
      y.activity? i.id = some (Activity.next i.id previous p.players p.completed) ∧
      Queried i timeout tr := by
  rw [refresh_eq] at h
  obtain ⟨tr₁, z, seen, tr₂, rfl, h₁, h₂⟩ | ⟨e, z, -, h₁, -⟩ := h.of_andThen
  · obtain ⟨_, ⟨rfl⟩, hb, htime₁, hplayers₁, hqueried⟩ := ends_players h₁
    obtain ⟨t, ht, hy, hactivity, htime₂, hplayers₂⟩ := ends_note (hb.holds hx) h₂
    refine ⟨⟨seen.toOption, t⟩, ?_, ?_, ht, hy, hactivity, fun console password hc => ?_⟩
    · rw [List.findSome?_append, htime₁, htime₂, Option.none_or]
    · rw [List.findSome?_append, hplayers₁, hplayers₂, Option.or_none]
    · obtain ⟨o, ho⟩ := hqueried console password hc
      exact ⟨o, List.mem_append_left _ ho⟩
  · obtain ⟨_, hv, -⟩ := ends_players h₁
    cases hv

/-- A look at an instance only asks for what the step for it may ask for. -/
theorem asks_refresh (i : Instance) (previous : Option Activity) (timeout : Span) :
    (refresh i previous timeout).run.Asks (Request.LooksAt i.id) := by
  have hseen : (players i timeout).run.Asks (Request.LooksAt i.id) := by
    unfold players Op.command
    refine .andThen (R := fun _ => True) ?_ fun _ _ => .pure trivial
    cases i.console? with
    | none => exact .throw _
    | some access => exact .call trivial
  refine .andThen (.attempt hseen) fun seen _ => .andThen (.ask trivial) fun now _ =>
    .andThen (.call trivial) fun row _ => ?_
  cases row with
  | none => exact .pure trivial
  | some row =>
    refine .call ?_
    show (Activity.next i.id previous seen.toOption now).server = i.id
    unfold Activity.next
    split <;> rfl

/-! ### The survey -/

/-- What the activity rows of a cycle say of an instance. -/
def known? (activities : List Activity) (i : Instance) : Option Activity :=
  activities.reverse.find? (·.server = i.id)

/-- The verdict on an instance. -/
def verdict (s : FleetSettings) (activities : List Activity) (now : Timestamp) (i : Instance) :
    Verdict :=
  Verdict.idle (known? activities i) (s.idle.forVariant i.variant) now

/-- The step for an instance that stays. -/
def look (s : FleetSettings) (activities : List Activity) (i : Instance) : Branch :=
  .of i "record activity" (refresh i (known? activities i) s.probeTimeout)

/-- The steps for the instances that stay. -/
def batch (s : FleetSettings) (activities : List Activity) (now : Timestamp)
    (rows : List Instance) : Batch where
  policy := .idle
  failures := []
  branches := (rows.filter fun j => verdict s activities now j ≠ .evict).map (look s activities)

/-- Instances have been judged. -/
structure Judged (s : FleetSettings) (activities : List Activity) (now : Timestamp)
    (rows : List Instance) (i : Instance) (x y : Scene) (tr : List Asked)
    (v : Outcome (List Branch)) : Prop where
  beside : x.Beside i y
  steps : v = .ok (batch s activities now rows).branches
  removes : ∀ j ∈ rows, verdict s activities now j = .evict → Removes s j tr
  asked : ∀ e ∈ tr, e.step = none ∧ ∀ o, e.request = .enqueue o →
    ∃ j ∈ rows, verdict s activities now j = .evict ∧ o = order s j

theorem Removes.append_left (h : Removes s j tr) (tr' : List Asked) : Removes s j (tr ++ tr') :=
  h.imp (List.mem_append_left _) (List.mem_append_left _)

theorem Removes.append_right (h : Removes s j tr) (tr' : List Asked) : Removes s j (tr' ++ tr) :=
  h.imp (List.mem_append_right _) (List.mem_append_right _)

theorem ends_judge {activities : List Activity} {now : Timestamp} {rows : List Instance}
    {v : Outcome (List Branch)} (h : Ends i none x (judge s activities now rows).run tr y v) :
    Judged s activities now rows i x y tr v := by
  induction rows generalizing x y tr v with
  | nil =>
    obtain ⟨rfl, rfl, hb⟩ := Ends.of_done h
    exact ⟨hb, rfl, fun k hk => absurd hk List.not_mem_nil,
      fun e he => absurd he List.not_mem_nil⟩
  | cons j rest ih =>
    unfold judge at h
    dsimp only at h
    split at h
    · -- It goes: its removal is seen to first, and it gets no step.
      rename_i hj
      replace hj : verdict s activities now j = .evict := hj
      obtain ⟨tr₁, z, _, tr₂, rfl, h₁, h₂⟩ | ⟨e, z, -, h₁, -⟩ := h.of_andThen
      · obtain ⟨hb, -, hremoves, hasked⟩ := ends_enqueueRemoval h₁
        have hrest := ih h₂
        refine ⟨hb.trans hrest.beside, ?_, fun k hk hevict => ?_, fun e he => ?_⟩
        · rw [hrest.steps, batch, batch, List.filter_cons_of_neg (by simpa using hj)]
        · obtain rfl | hk := List.mem_cons.mp hk
          · exact hremoves.append_left _
          · exact (hrest.removes k hk hevict).append_right _
        · obtain he | he := List.mem_append.mp he
          · refine ⟨(hasked e he).1, fun o ho => ?_⟩
            exact ⟨j, List.mem_cons_self .., hj, (hasked e he).2 o ho⟩
          · refine ⟨(hrest.asked e he).1, fun o ho => ?_⟩
            obtain ⟨k, hk, horder⟩ := (hrest.asked e he).2 o ho
            exact ⟨k, List.mem_cons_of_mem _ hk, horder⟩
      · obtain ⟨-, hv, -⟩ := ends_enqueueRemoval h₁
        cases hv
    · -- It stays: its step comes before those of the rest.
      rename_i hj
      replace hj : verdict s activities now j ≠ .evict := hj
      obtain ⟨tr₁, z, steps, tr₂, rfl, h₁, h₂⟩ | ⟨e, z, -, h₁, -⟩ := h.of_andThen
      · have hrest := ih h₁
        obtain ⟨rfl, rfl, hb⟩ := Ends.of_done h₂
        rw [List.append_nil]
        refine ⟨hrest.beside.trans hb, ?_, fun k hk hevict => ?_, fun e he => ?_⟩
        · rw [batch, List.filter_cons_of_pos (by simpa using hj), List.map_cons]
          cases hrest.steps
          rfl
        · obtain rfl | hk := List.mem_cons.mp hk
          · exact absurd hevict hj
          · exact hrest.removes k hk hevict
        · refine ⟨(hrest.asked e he).1, fun o ho => ?_⟩
          obtain ⟨k, hk, horder⟩ := (hrest.asked e he).2 o ho
          exact ⟨k, List.mem_cons_of_mem _ hk, horder⟩
      · cases (ih h₁).steps

/-- The survey has judged the instances, among them one. -/
structure Reviewed (s : FleetSettings) (rows : List Instance) (activities : List Activity)
    (now : Timestamp) (i : Instance) (x y : Scene) (tr : List Asked) (v : Outcome Batch) :
    Prop where
  beside : x.Beside i y
  mem : i ∈ rows
  nodup : (rows.map Instance.id).Nodup
  known : known? activities i = x.activity? i.id
  inRange : now.InRange
  judgedAt : tr.findSome? Asked.time? = some now
  steps : v = .ok (batch s activities now rows)
  removes : verdict s activities now i = .evict → Removes s i tr
  asked : ∀ e ∈ tr, e.step = none ∧ ∀ o, e.request = .enqueue o →
    ∃ j ∈ rows, verdict s activities now j = .evict ∧ o = order s j

theorem ends_survey {v : Outcome Batch} (hx : x.Holds i) (hready : i.status = .ready)
    (h : Ends i none x (survey s).run tr y v) :
    ∃ rows activities now, Reviewed s rows activities now i x y tr v := by
  obtain ⟨x₁, _, x₂, tr₁, hb₁, ⟨rfl, rows, rfl, hrows⟩, rfl, h₁⟩ := Ends.of_ask h
  obtain ⟨x₃, _, x₄, tr₂, hb₂, ⟨rfl, activities, rfl, hactivities⟩, rfl, h₂⟩ := Ends.of_ask h₁
  obtain ⟨x₅, now, x₆, tr₃, hb₃, ⟨rfl, rfl⟩, rfl, h₃⟩ := Ends.of_ask h₂
  have hx₂ : x₂.Holds i := hb₁.holds hx
  have hx₄ : x₄.Holds i := hb₂.holds hx₂
  have hmem : i ∈ rows := by
    rw [hrows.mem_iff]
    exact List.mem_filter.mpr ⟨hx₂.row, by simp [hready]⟩
  have hnodup : (rows.map Instance.id).Nodup :=
    (hrows.map Instance.id).nodup_iff.mpr (hx₂.rows.sublist (List.filter_sublist.map _))
  have hknown : known? activities i = x.activity? i.id := by
    -- The last of the rows with a key counts, but each key stands there once.
    have hperm : x₄.activities.Perm activities.reverse :=
      (activities.reverse_perm.trans hactivities).symm
    rw [← hb₁.activity, ← hb₂.activity]
    exact (Rows.find?_eq_of_perm hx₄.activities hperm i.id).symm
  obtain ⟨tr₄, z, steps, tr₅, rfl, h₄, h₅⟩ | ⟨e, z, -, h₄, -⟩ := Ends.of_andThen h₃
  · have hjudged := ends_judge h₄
    obtain ⟨rfl, rfl, hb₅⟩ := Ends.of_done h₅
    cases hjudged.steps
    rw [List.append_nil]
    refine ⟨rows, activities, x₆.now, ?_, hmem, hnodup, hknown, (hb₃.holds hx₄).now, rfl, rfl,
      fun hevict => ?_, fun e he => ?_⟩
    · exact (((hb₁.trans hb₂).trans hb₃).trans hjudged.beside).trans hb₅
    · exact (hjudged.removes i hmem hevict).append_right [_, _, _]
    · simp only [List.mem_cons] at he
      obtain rfl | rfl | rfl | he := he
      · exact ⟨rfl, fun o ho => by cases ho⟩
      · exact ⟨rfl, fun o ho => by cases ho⟩
      · exact ⟨rfl, fun o ho => by cases ho⟩
      · exact hjudged.asked e he
  · cases (ends_judge h₄).steps

/-! ### The whole cycle -/

/-- A cycle from one scene to another that comes to an end. -/
def Cycle (s : FleetSettings) (i : Instance) (x : Scene) (tr : List Asked) (y : Scene) : Prop :=
  ∃ w o, Runs i x (.ofPolicy .idle s) tr y w ∧ w.outcome? = some o

/-- A cycle has found the removal of an instance in the queue or has enqueued it, and has not looked
at the instance. -/
structure Evicted (s : FleetSettings) (i : Instance) (tr : List Asked) : Prop where
  removes : Removes s i tr
  unasked : ∀ e ∈ tr, e.step ≠ some i.id

/-- A cycle has looked at an instance, and has enqueued nothing for it. -/
structure Probed (s : FleetSettings) (i : Instance) (tr : List Asked) (p : Probe) : Prop where
  probe : probe? i.id tr = some p
  queried : Queried i s.probeTimeout tr
  orders : ∀ e ∈ tr, ∀ o, e.request = .enqueue o →
    o.payload.member? "instance_id" ≠ some i.id.toJson

/-- There is at most one step for each instance, which looks at it. -/
theorem parted_batch {rows : List Instance} {activities : List Activity} {now : Timestamp}
    (h : (rows.map Instance.id).Nodup) : (batch s activities now rows).Parted := by
  refine ⟨?_, fun step hstep => ?_⟩
  · have hids : (batch s activities now rows).branches.map Branch.id =
        (rows.filter fun j => verdict s activities now j ≠ .evict).map Instance.id := by
      rw [batch, List.map_map]
      rfl
    rw [hids]
    exact h.sublist (List.filter_sublist.map _)
  · obtain ⟨j, -, rfl⟩ := List.mem_map.mp hstep
    exact asks_refresh j _ _

namespace Reviewed

variable {rows : List Instance} {activities : List Activity} {now : Timestamp} {v : Outcome Batch}
  {z : Scene} {tr₁ tr₂ : List Asked} {w : Work} {o : Outcome Yield}

/-- The survey tells when the instances were judged. -/
theorem judgedAt?_append (h : Reviewed s rows activities now i x z tr₁ v) :
    judgedAt? (tr₁ ++ tr₂) = some now := by
  have hall : tr₁.filter (·.step = none) = tr₁ :=
    List.filter_eq_self.mpr fun e he => by simp [(h.asked e he).1]
  rw [judgedAt?, List.filter_append, hall, List.findSome?_append, h.judgedAt, Option.some_or]

/-- The survey is no part of a step. -/
theorem ofStep_append (h : Reviewed s rows activities now i x z tr₁ v) (id : InstanceId) :
    Asked.ofStep id (tr₁ ++ tr₂) = Asked.ofStep id tr₂ := by
  have hnone : Asked.ofStep id tr₁ = [] :=
    List.filter_eq_nil_iff.mpr fun e he => by simp [(h.asked e he).1]
  rw [Asked.ofStep, List.filter_append]
  exact (congrArg (· ++ _) hnone).trans (List.nil_append _)

/-- An instance that is to be evicted is not looked at. -/
theorem evicted (h : Reviewed s rows activities now i x z tr₁ v)
    (hsteps : Runs i z (.cycle (.done (.ok (batch s activities now rows)))) tr₂ y w)
    (hevict : verdict s activities now i = .evict) :
    Evicted s i (tr₁ ++ tr₂) ∧ z.Beside i y := by
  have hne : ∀ step ∈ (batch s activities now rows).branches, step.id ≠ i.id := by
    intro step hstep hid
    obtain ⟨j, hj, rfl⟩ := List.mem_map.mp hstep
    obtain ⟨hmem, hstays⟩ := List.mem_filter.mp hj
    obtain rfl : j = i := List.inj_on_of_nodup_map h.nodup hmem h.mem hid
    simp [hevict] at hstays
  obtain ⟨hb, hunasked⟩ := hsteps.beside_of_forall_ne (parted_batch h.nodup) hne
  refine ⟨⟨(h.removes hevict).append_left _, fun e he => ?_⟩, hb⟩
  obtain he | he := List.mem_append.mp he
  · rw [(h.asked e he).1]
    exact nofun
  · exact hunasked e he

/-- No task is enqueued for an instance that stays. -/
theorem not_ordered (h : Reviewed s rows activities now i x z tr₁ v)
    (hsteps : Runs i z (.cycle (.done (.ok (batch s activities now rows)))) tr₂ y w)
    (hstays : verdict s activities now i ≠ .evict) :
    ∀ e ∈ tr₁ ++ tr₂, ∀ o, e.request = .enqueue o →
      o.payload.member? "instance_id" ≠ some i.id.toJson := by
  intro e he o ho hmember
  obtain he | he := List.mem_append.mp he
  · -- The survey only enqueues for instances that go, and the task tells which one.
    obtain ⟨j, hj, hevict, rfl⟩ := (h.asked e he).2 o ho
    rw [member?_order] at hmember
    have hid : j.id = i.id := InstanceId.toJson_injective (Option.some.inj hmember)
    obtain rfl : j = i := List.inj_on_of_nodup_map h.nodup hj h.mem hid
    exact hstays hevict
  · -- The steps enqueue nothing.
    obtain ⟨id, -, hlooks⟩ := hsteps.looksAt (parted_batch h.nodup) e he
    rw [ho] at hlooks
    exact hlooks

/-- An instance that stays is looked at. -/
theorem probed (h : Reviewed s rows activities now i x z tr₁ v) (hz : z.Holds i)
    (hsteps : Runs i z (.cycle (.done (.ok (batch s activities now rows)))) tr₂ y w)
    (ho : w.outcome? = some o) (hstays : verdict s activities now i ≠ .evict) :
    ∃ p, Probed s i (tr₁ ++ tr₂) p ∧ p.completed.InRange ∧ y.Holds i ∧ y.activity? i.id =
      some (Activity.next i.id (x.activity? i.id) p.players p.completed) := by
  have hmem : look s activities i ∈ (batch s activities now rows).branches :=
    List.mem_map_of_mem (List.mem_filter.mpr ⟨h.mem, by simpa using hstays⟩)
  obtain ⟨v, hends⟩ := hsteps.ends_branch ho (parted_batch h.nodup) hmem rfl
  obtain ⟨p, htime, hplayers, hp, hy, hactivity, hqueried⟩ := ends_refresh hz hends
  rw [h.known] at hactivity
  refine ⟨p, ⟨?_, fun console password hc => ?_, h.not_ordered hsteps hstays⟩, hp, hy, hactivity⟩
  · rw [probe?, h.ofStep_append, htime, hplayers, Option.map_some]
  · obtain ⟨o, ho⟩ := hqueried console password hc
    exact ⟨o, List.mem_append_right _ (List.mem_filter.mp ho).1⟩

end Reviewed

/-- What a cycle does about an instance, by the verdict on what was known about it before. -/
theorem cycle_cases (hx : x.Holds i) (hready : i.status = .ready) (h : Cycle s i x tr y) :
    ∃ t, judgedAt? tr = some t ∧ t.InRange ∧ y.Holds i ∧
      ((Verdict.idle (x.activity? i.id) (s.idle.forVariant i.variant) t = .evict ∧
          Evicted s i tr ∧ y.activity? i.id = x.activity? i.id) ∨
        (Verdict.idle (x.activity? i.id) (s.idle.forVariant i.variant) t ≠ .evict ∧
          ∃ p, Probed s i tr p ∧ p.completed.InRange ∧ y.activity? i.id =
            some (Activity.next i.id (x.activity? i.id) p.players p.completed))) := by
  obtain ⟨w, o, hruns, ho⟩ := h
  obtain ⟨tr₁, z, v, tr₂, rfl, hsurvey, hsteps⟩ := hruns.ends_survey ho
  obtain ⟨rows, activities, t, hs⟩ := ends_survey hx hready hsurvey
  obtain rfl := hs.steps
  have hz : z.Holds i := hs.beside.holds hx
  have hverdict : verdict s activities t i =
      Verdict.idle (x.activity? i.id) (s.idle.forVariant i.variant) t := by
    rw [verdict, hs.known]
  by_cases hevict : verdict s activities t i = .evict
  · obtain ⟨hevicted, hb⟩ := hs.evicted hsteps hevict
    exact ⟨t, hs.judgedAt?_append, hs.inRange, hb.holds hz,
      .inl ⟨hverdict.symm.trans hevict, hevicted, hb.activity.trans hs.beside.activity⟩⟩
  · obtain ⟨p, hprobed, hp, hy, hactivity⟩ := hs.probed hz hsteps ho hevict
    exact ⟨t, hs.judgedAt?_append, hs.inRange, hy,
      .inr ⟨hverdict ▸ hevict, p, hprobed, hp, hactivity⟩⟩

end Idle

end GameFleet
