import GameFleet.Proofs.Control.World
import GameFleet.Proofs.Fleet.Knowledge
import GameFleet.Proofs.Fleet.Orphans

/-!
# A cycle goes by what it listed (specification §4.4)

Who removes the instances that never became ready lists the pending ones, and then goes through the
list. Each instance that it ends was pending when it listed them last, and had a row when it looked
for it since. Nothing is checked between the search and the end: the instance may have become ready
in the meantime, and then it is ended nevertheless.

- `Entry.Readies`: a call with which the row of an instance became a ready one.
- `Thread.Cycles`: a thread is to run cycles of a policy.
- `Thread.ends?`: the instance that a thread ends next.
- `Thread.Heeds`: what is left of a thread ends no instance but those that it knows of;
  `Fleet.heeds_after`: this stays true.
- `Fleet.pending_when_listed`: the theorem; `Fleet.exists_ready_ended`: a run in which a ready
  instance is ended.
-/

namespace GameFleet

open Registry

/-- The row of an instance became a ready one with a commit. -/
def Entry.Readies (id : InstanceId) (e : Entry) : Prop :=
  e.call = .commit ∧ phase id e.before ≠ some .ready ∧ phase id e.after = some .ready

namespace Registry

variable {locking : Bool} {b b' : Registry} {tid : Nat} {id : InstanceId} {κ : Circumstances}

/-- A row becomes ready with a commit only. -/
theorem Answers.eq_commit {c : Call} {o : Outcome c.Result} (h : b.Answers locking tid c o b')
    (hbefore : phase id b.rows ≠ some .ready) (hafter : phase id b'.rows = some .ready) :
    c = .commit := by
  obtain hr | ⟨t, rfl, -⟩ | ⟨k, -, -, hr⟩ := h.rows_cases
  · rw [hr] at hafter
    exact absurd hafter hbefore
  · rfl
  · rw [hr] at hafter
    by_cases hid : id = k
    · subst hid
      rw [phase_drop_self] at hafter
      cases hafter
    · rw [phase_drop_of_ne hid] at hafter
      exact absurd hafter hbefore

/-- Every call that made a row ready is a commit. -/
def Committed (id : InstanceId) (b : Registry) : Prop :=
  ∀ e ∈ b.ledger, phase id e.before ≠ some .ready → phase id e.after = some .ready →
    e.call = .commit

theorem Committed.moves (h : b.Committed id) (hm : b.Moves locking b') : b'.Committed id := by
  intro e he hbefore hafter
  obtain ⟨r, own, c, o, -, hans⟩ | ⟨-, hl, -⟩ := hm.cases
  · rw [hans.ledger_eq.1] at he
    rcases List.mem_cons.mp he with rfl | he
    · exact hans.eq_commit hbefore hafter
    · exact h e he hbefore hafter
  · exact h e (hl ▸ he) hbefore hafter

/-- Requests of a thread enter calls of that thread only, and identifiers that were given stay
given. -/
theorem entered_of_touches (h : Control.Touches (surroundings locking κ) tid b b') :
    (∃ more, b'.ledger = more ++ b.ledger ∧ ∀ e ∈ more, e.thread = tid) ∧
      ∀ id ∈ b.given, id ∈ b'.given := by
  induction h with
  | same => exact ⟨⟨[], rfl, List.forall_mem_nil _⟩, fun _ h => h⟩
  | @serves b₁ _ now c ih =>
    obtain ⟨⟨more, hl, hmore⟩, hgiven⟩ := ih
    show (∃ more, (b₁.serve locking κ tid c).state.ledger = _ ∧ _) ∧
      ∀ id ∈ b.given, id ∈ (b₁.serve locking κ tid c).state.given
    obtain ⟨o, b₂, hserve⟩ | hserve := serve_cases locking κ b₁ tid c
    · obtain ⟨hl', hg⟩ := Answers.ledger_eq ⟨κ, hserve⟩
      rw [hserve]
      refine ⟨⟨_ :: more, hl'.trans (congrArg _ hl), fun e he => ?_⟩, fun id hid => ?_⟩
      · rcases List.mem_cons.mp he with rfl | he
        · rfl
        · exact hmore e he
      · show id ∈ b₂.given
        rw [hg]
        exact hgiven id hid
    · rw [hserve]
      exact ⟨⟨more, hl, hmore⟩, hgiven⟩
  | gives _ ih => exact ⟨ih.1, fun id hid => List.mem_cons_of_mem _ (ih.2 id hid)⟩
  | @abandons b₁ _ ih =>
    show (∃ more, (b₁.abandon tid).ledger = _ ∧ _) ∧ ∀ id ∈ b.given, id ∈ (b₁.abandon tid).given
    rw [abandon_eq.2.1, abandon_eq.2.2]
    exact ih

end Registry

/-- A thread is to run a cycle of a policy, or one after another. -/
inductive Thread.Cycles (p : Policy) : Thread → Prop where
  | once (tracked : Bool) (s : FleetSettings) : Cycles p (.arriving tracked (.ofPolicy p s))
  | again (due : Option Nat) (stopping : Bool) : Cycles p (.looping ⟨p, due, stopping, none⟩)

/-- The instance that some work ends next: it is to be destroyed, or its row to be removed. -/
def Work.ends? (choice : Nat) (w : Work) : Option InstanceId :=
  (w.pose? choice).bind fun q => q.1.ends?

/-- The instance that a thread ends next. -/
def Thread.ends? (choice : Nat) : Thread → Option InstanceId
  | working _ w => w.ends? choice
  | looping ⟨_, _, _, some w⟩ => w.ends? choice
  | _ => none

/-! ### What a thread goes by -/

/-- What is left of a cycle ends no instance but those that its thread knows of. -/
def Work.Heeds (tid : Nat) (ledger : List Entry) (w : Work) : Prop :=
  ∃ p k, w = .cycle p ∧ Knowledge.Holds tid k ledger ∧ p.Heeds (fun o _ => Stuck.Surveyed o) k

/-- What is left of a thread ends no instance but those that it knows of. -/
inductive Thread.Heeds (tid : Nat) (ledger : List Entry) : Thread → Prop where
  | arriving {tracked : Bool} {w : Work} (h : w.Heeds tid ledger) :
    Heeds tid ledger (.arriving tracked w)
  | working {tracked : Bool} {w : Work} (h : w.Heeds tid ledger) :
    Heeds tid ledger (.working tracked w)
  | resting {due : Option Nat} {stopping : Bool} :
    Heeds tid ledger (.looping ⟨.stuck, due, stopping, none⟩)
  | cycling {due : Option Nat} {stopping : Bool} {w : Work} (h : w.Heeds tid ledger) :
    Heeds tid ledger (.looping ⟨.stuck, due, stopping, some w⟩)
  | ended {e : Ending} : Heeds tid ledger (.ended e)

section

variable {locking : Bool} {b b' : Registry} {tid choice : Nat} {ledger more : List Entry}
  {w : Work} {th th' : Thread} {q : Request} {id : InstanceId}

/-- A cycle knows nothing when it starts. -/
theorem Work.heeds_ofPolicy (s : FleetSettings) : (Work.ofPolicy .stuck s).Heeds tid ledger :=
  ⟨_, {}, rfl, .inl rfl, Stuck.survey_heeds s {}⟩

theorem Thread.Cycles.heeds (h : th.Cycles .stuck) : th.Heeds tid ledger := by
  cases h with
  | once tracked s => exact .arriving (Work.heeds_ofPolicy s)
  | again due stopping => exact .resting

theorem Work.Heeds.mono (h : w.Heeds tid ledger) (hmore : ∀ f ∈ more, f.thread ≠ tid) :
    w.Heeds tid (more ++ ledger) := by
  obtain ⟨p, k, rfl, hk, hp⟩ := h
  exact ⟨p, k, rfl, hk.mono fun f hf hl => hmore f hf hl.1, hp⟩

/-- What others ask for tells a thread nothing. -/
theorem Thread.Heeds.mono (h : th.Heeds tid ledger) (hmore : ∀ f ∈ more, f.thread ≠ tid) :
    th.Heeds tid (more ++ ledger) := by
  cases h with
  | arriving h => exact .arriving (h.mono hmore)
  | working h => exact .working (h.mono hmore)
  | resting => exact .resting
  | cycling h => exact .cycling (h.mono hmore)
  | ended => exact .ended

theorem Thread.Heeds.signalled (h : th.Heeds tid ledger) : th.signalled.Heeds tid ledger := by
  cases h with
  | arriving h => exact .arriving h
  | working h => exact .working h
  | resting => exact .resting
  | cycling h => exact .cycling h
  | ended => exact .ended

/-- Work asks for the end of an instance that its thread knows of, or for something else, and goes
on by what it learns. -/
theorem Work.Heeds.pose {next : q.Answer → Work} (h : w.Heeds tid b.ledger) (hs : b.Sane)
    (hp : w.pose? choice = some ⟨q, next⟩) :
    (∀ id, q.ends? = some id → ∃ k, Knowledge.Holds tid k b.ledger ∧ k.Covers id) ∧
      ∀ locking a b', Serves locking b tid q a b' → (next a).Heeds tid b'.ledger := by
  obtain ⟨p, k, rfl, hk, hheeds⟩ := h
  cases p with
  | done o =>
    cases o with
    | error f => cases hp
    | ok t =>
      rw [Work.pose?, show t.branches = [] from hheeds t rfl] at hp
      cases hp
  | ask q next =>
    cases hp
    refine ⟨fun id hid => ⟨k, hk, hheeds.1 id hid⟩, fun locking a b' hserves => ?_⟩
    exact ⟨_, _, rfl, hk.learn hs hserves, hheeds.2 a _ ⟨⟨locking, b, tid, b', hserves⟩, rfl⟩⟩

/-- What a thread ends it knows of. -/
theorem Thread.Heeds.covers (h : th.Heeds tid b.ledger) (hs : b.Sane)
    (hends : th.ends? choice = some id) :
    ∃ k, Knowledge.Holds tid k b.ledger ∧ k.Covers id := by
  have hwork : ∀ w : Work, w.Heeds tid b.ledger → w.ends? choice = some id →
      ∃ k, Knowledge.Holds tid k b.ledger ∧ k.Covers id := by
    intro w hw hends
    obtain ⟨⟨q, next⟩, hp, hends⟩ := Option.bind_eq_some_iff.mp hends
    exact (hw.pose hs hp).1 id hends
  cases h with
  | arriving h => cases hends
  | working h => exact hwork _ h hends
  | resting => cases hends
  | cycling h => exact hwork _ h hends
  | ended => cases hends

/-- What a thread turns into by itself goes by what the thread knows. -/
theorem Control.Turn.heeds {ω : Type} {S : Surroundings ω} {c : Control ω} {drain : Drain}
    (ht : Turn S c choice th drain th') (h : th.Heeds tid ledger) : th'.Heeds tid ledger := by
  cases ht with
  | enters _ => cases h with | arriving h => exact .working h
  | isRefused _ => exact .ended
  | starts => cases h with | arriving h => exact .working h
  | finishes _ => exact .ended
  | endsCycle _ => cases h with | cycling h => exact .resting
  | sets _ => cases h with | resting => exact .resting
  | cycles _ _ => cases h with | resting => exact .cycling (Work.heeds_ofPolicy _)
  | skips _ _ => cases h with | resting => exact .resting
  | stopsLooping _ => exact .ended
  | stopsTicking _ => exact .ended
  | dispatched => cases h
  | rests => cases h
  | winds => cases h
  | ticks _ => cases h
  | passes => cases h

end

namespace Fleet

variable {locking : Bool} {c : Control Registry} {later earlier ms : List (Move Registry)}
  {tid choice : Nat} {S : Surroundings Registry} {th th' : Thread} {id : InstanceId}
  {m : Move Registry}

/-- A thread goes by what it knows after each of its steps. -/
theorem heeds_step (hs : c.world.Sane) (hS : Finds locking c.world S)
    (hth : c.threads[tid]? = some th) (h : th.Heeds tid c.world.ledger) :
    ∃ th', (c.step S tid choice).2.threads[tid]? = some th' ∧
      th'.Heeds tid (c.step S tid choice).2.world.ledger := by
  have hlt := (List.getElem?_eq_some_iff.mp hth).1
  have hsteps := Control.steps S c tid choice
  generalize (c.step S tid choice).2 = c' at hsteps ⊢
  cases hsteps with
  | stays => exact ⟨th, hth, h⟩
  | turns hth' hturn =>
    obtain rfl := Option.some.inj (hth.symm.trans hth')
    exact ⟨_, List.getElem?_set_self hlt, hturn.heeds h⟩
  | @works wrap w hwrap hth' ho =>
    obtain rfl := Option.some.inj (hth.symm.trans hth')
    -- Either way the thread has some work in hand, and nothing else of it matters.
    have hwork : w.Heeds tid c.world.ledger ∧
        ∀ {w' : Work} {ledger}, w'.Heeds tid ledger → (wrap w').Heeds tid ledger := by
      cases hwrap with
      | working tracked => cases h with | working h => exact ⟨h, .working⟩
      | looping policy due stopping => cases h with | cycling h => exact ⟨h, .cycling⟩
    unfold Control.stepWork
    split
    · exact ⟨_, hth, h⟩
    · rename_i q next hp
      obtain ⟨a, c₁, hask, hserves, ht, -⟩ | hask := ask_cases tid q hS
      · rw [hask]
        refine ⟨wrap (next a), ?_, hwork.2 ((hwork.1.pose hs hp).2 locking a _ hserves)⟩
        exact List.getElem?_set_self (ht ▸ hlt)
      · rw [hask]
        exact ⟨_, hth, h⟩
  | dispatches hwrap hth' _ =>
    obtain rfl := Option.some.inj (hth.symm.trans hth')
    cases hwrap <;> cases h
  | breaks hth' _ =>
    obtain rfl := Option.some.inj (hth.symm.trans hth')
    refine ⟨.ended .panicked, ?_, .ended⟩
    rw [Control.breakOff, hth]
    show ((Control.settle _ _).threads.set tid _)[tid]? = _
    rw [Control.threads_settle]
    exact List.getElem?_set_self hlt
  | passes hth' _ =>
    obtain rfl := Option.some.inj (hth.symm.trans hth')
    cases h

/-- With a move that is no step of a thread no call of that thread is entered. -/
theorem entered_apply (hm : May locking c m) (hstep : m.isStepOf tid = false) :
    ∃ more, (c.apply m).world.ledger = more ++ c.world.ledger ∧ ∀ e ∈ more, e.thread ≠ tid := by
  cases m with
  | step S t choice =>
    obtain ⟨κ, -, rfl⟩ := hm
    have htouches : Control.Touches (surroundings locking κ) t c.world
        (c.step (surroundings locking κ) t choice).2.world := Control.touches_step choice
    obtain ⟨⟨more, hl, hmore⟩, -⟩ := entered_of_touches htouches
    refine ⟨more, hl, fun e he ht => ?_⟩
    simp [Move.isStepOf, ← ht, hmore e he] at hstep
  | enqueue S o =>
    obtain ⟨κ, -, rfl⟩ := hm
    exact ⟨[], rfl, List.forall_mem_nil _⟩
  | receive w =>
    refine ⟨[], ?_, List.forall_mem_nil _⟩
    simp only [Control.apply, Control.receive]
    split <;> rfl
  | startQueue =>
    refine ⟨[], ?_, List.forall_mem_nil _⟩
    simp only [Control.apply, Control.startQueue]
    split <;> rfl
  | _ => exact ⟨[], rfl, List.forall_mem_nil _⟩

/-- A thread goes by what it knows after every move. -/
theorem heeds_apply (hs : c.world.Sane) (hm : May locking c m) (hth : c.threads[tid]? = some th)
    (h : th.Heeds tid c.world.ledger) :
    ∃ th', (c.apply m).threads[tid]? = some th' ∧ th'.Heeds tid (c.apply m).world.ledger := by
  cases hstep : m.isStepOf tid with
  | false =>
    obtain ⟨more, hl, hmore⟩ := entered_apply hm hstep
    rw [hl]
    obtain hleaves | hleaves :=
      Control.apply_leaves (List.getElem?_eq_some_iff.mp hth).1 hstep
    · exact ⟨th, hleaves.trans hth, h.mono hmore⟩
    · refine ⟨th.signalled, ?_, h.signalled.mono hmore⟩
      rw [hleaves, hth, Option.map_some]
  | true =>
    cases m with
    | step S t choice =>
      obtain rfl : t = tid := by simpa [Move.isStepOf] using hstep
      exact heeds_step hs hm hth h
    | _ => cases hstep

/-- A thread that runs cycles of the policy goes by what it knows. -/
theorem heeds_after (ho : Opening c) (hrun : Control.Run (May locking) c (later ++ earlier))
    (hth : (c.after earlier).threads[tid]? = some th) (hcycles : th.Cycles .stuck) :
    ∃ th', (c.after (later ++ earlier)).threads[tid]? = some th' ∧
      th'.Heeds tid (c.after (later ++ earlier)).world.ledger := by
  induction later with
  | nil => exact ⟨th, hth, hcycles.heeds⟩
  | cons m later ih =>
    obtain ⟨th', hth', h⟩ := ih hrun.1
    exact heeds_apply (moves_after ho hrun).1 hrun.2 hth' h

theorem committed_after (ho : Opening c) (hrun : Control.Run (May locking) c ms)
    (id : InstanceId) : (c.after ms).world.Committed id := by
  refine registry_after ho hrun (fun e he => ?_) fun b b' _ h hm => h.moves hm
  rw [ho.ledger] at he
  cases he

/-- However admissions, cycles and everything else take turns, and however long each call waits: an
instance that is ended by a thread which removes those that never became ready was pending when the
thread listed these last, and had a row when the thread looked for it since. If it is ready by now,
it has become so since it was listed. -/
theorem pending_when_listed (ho : Opening c)
    (hrun : Control.Run (May locking) c (later ++ earlier))
    (hfirst : (c.after earlier).threads[tid]? = some th) (hcycles : th.Cycles .stuck)
    (hnow : (c.after (later ++ earlier)).threads[tid]? = some th')
    (hends : th'.ends? choice = some id) :
    ∃ newer e older, (c.after (later ++ earlier)).world.ledger = newer ++ e :: older ∧
      e.Lists tid ∧ (∀ f ∈ newer, ¬f.Lists tid) ∧ phase id e.before = some .pending ∧
      (∃ f ∈ newer, f.Sees tid id) ∧
      (phase id (c.after (later ++ earlier)).world.rows = some .ready →
        ∃ f ∈ newer, f.Readies id) := by
  obtain ⟨own, horder⟩ := order_after ho hrun
  obtain ⟨th'', hth'', hheeds⟩ := heeds_after ho hrun hfirst hcycles
  obtain rfl := Option.some.inj (hnow.symm.trans hth'')
  obtain ⟨k, hk, hlisted, hfound⟩ := hheeds.covers horder.sane hends
  obtain hnil | ⟨newer, e, older, hl, hlists, hlast, hpending, hsees⟩ := hk
  · rw [hnil] at hlisted
    cases hlisted
  · have hcommitted := committed_after ho hrun id
    have hthen : phase id e.before = some .pending := hpending id hlisted
    refine ⟨newer, e, older, hl, hlists, hlast, hthen, hsees id hfound, fun hready => ?_⟩
    -- The call that listed the instance did not make it ready itself.
    have hafter : phase id e.after ≠ some .ready := by
      intro hafter
      have hcall := hcommitted e (hl ▸ List.mem_append_right _ (List.mem_cons_self ..))
        (by rw [hthen]; decide) hafter
      cases hlists.2.1.symm.trans hcall
    have hchained : Chained (c.after (later ++ earlier)).world.rows (newer ++ e :: older) :=
      hl ▸ (storied_after ho hrun).chained
    obtain ⟨f, hf, hturn⟩ :=
      hchained.exists_turn (P := fun rows => phase id rows = some .ready) hafter hready
    have hmem : f ∈ (c.after (later ++ earlier)).world.ledger :=
      hl ▸ List.mem_append_left _ hf
    exact ⟨f, hf, hcommitted f hmem hturn.1 hturn.2, hturn⟩

/-! ### A ready instance that is ended -/

/-- Threads take a step each among the same circumstances, the last first. -/
def among (locking : Bool) (κ : Circumstances) (tids : List Nat) : List (Move Registry) :=
  tids.map fun tid => .step (Registry.surroundings locking κ) tid 0

/-- Such steps make a run when nobody was given the identifier that they give. -/
theorem run_among {κ : Circumstances} {tids : List Nat} (hrun : Control.Run (May locking) c ms)
    (hnew : κ.id ∉ (c.after (among locking κ tids ++ ms)).world.given) :
    Control.Run (May locking) c (among locking κ tids ++ ms) := by
  induction tids with
  | nil => exact hrun
  | cons tid tids ih =>
    have htouches : Control.Touches (surroundings locking κ) tid
        (c.after (among locking κ tids ++ ms)).world
        (c.after (among locking κ (tid :: tids) ++ ms)).world := Control.touches_step 0
    have hold : κ.id ∉ (c.after (among locking κ tids ++ ms)).world.given := fun hid =>
      hnew ((entered_of_touches htouches).2 _ hid)
    exact ⟨ih hold, κ, hold, rfl⟩

/-- An admission waits for the deployment of its instance until ten minutes have passed, and a cycle
has come that has not started. -/
def slowDeployment : List (Move Registry) :=
  .pass 600000 :: turns true
    [.begin true (.ofPolicy .stuck (.ofEnvironment fun _ => none)), .begin true oneAdmission]
    (List.replicate 9 (0, false))

/-- The cycle lists the instance, the admission makes it ready, and the cycle finds its row. -/
def promotedMeanwhile : List (Move Registry) :=
  among true (.usual (.numbered 9) false) ([1] ++ List.replicate 5 0 ++ List.replicate 3 1)

theorem run_promotedMeanwhile :
    Control.Run (May true) bare (promotedMeanwhile ++ slowDeployment) := by
  have hbegin : Control.Run (May true) bare
      [.begin true (.ofPolicy .stuck (.ofEnvironment fun _ => none)),
        .begin true oneAdmission] := ⟨⟨trivial, .admission ..⟩, .cycle ..⟩
  have hslow : Control.Run (May true) bare slowDeployment :=
    ⟨run_turns hbegin (by decide +kernel), trivial⟩
  have hnew : Uuid.numbered 9 ∉
      (bare.after (promotedMeanwhile ++ slowDeployment)).world.given := by decide +kernel
  exact run_among hslow hnew

theorem cycles_slowDeployment :
    ∃ th, (bare.after slowDeployment).threads[1]? = some th ∧ th.Cycles .stuck :=
  ⟨_, rfl, .once true (.ofEnvironment fun _ => none)⟩

theorem ends_promotedMeanwhile :
    ∃ th, (bare.after (promotedMeanwhile ++ slowDeployment)).threads[1]? = some th ∧
      th.ends? 0 = some ⟨.numbered 3⟩ := by
  refine Option.bind_eq_some_iff.mp ?_
  decide +kernel

theorem ready_promotedMeanwhile :
    phase ⟨.numbered 3⟩ (bare.after (promotedMeanwhile ++ slowDeployment)).world.rows
      = some .ready := by
  decide +kernel

/-- The cycle is about to destroy an instance that was pending when it was listed, and has become
ready since. -/
theorem pending_when_listed_promotedMeanwhile :
    ∃ newer e older,
      (bare.after (promotedMeanwhile ++ slowDeployment)).world.ledger = newer ++ e :: older ∧
      e.Lists 1 ∧ phase ⟨.numbered 3⟩ e.before = some .pending ∧
      ∃ f ∈ newer, f.Readies ⟨.numbered 3⟩ := by
  obtain ⟨th, hfirst, hcycles⟩ := cycles_slowDeployment
  obtain ⟨th', hnow, hends⟩ := ends_promotedMeanwhile
  obtain ⟨newer, e, older, hl, hlists, -, hpending, -, hreadies⟩ :=
    pending_when_listed bare_opening run_promotedMeanwhile hfirst hcycles hnow hends
  exact ⟨newer, e, older, hl, hlists, hpending, hreadies ready_promotedMeanwhile⟩

/-- Not every instance that is ended by a thread which removes those that never became ready is
still pending then, although no call fails. -/
theorem exists_ready_ended :
    ¬∀ later earlier, Control.Run (May true) bare (later ++ earlier) →
      ∀ (tid : Nat) (th th' : Thread) choice id, (bare.after earlier).threads[tid]? = some th →
        th.Cycles .stuck → (bare.after (later ++ earlier)).threads[tid]? = some th' →
        th'.ends? choice = some id →
        phase id (bare.after (later ++ earlier)).world.rows ≠ some .ready := by
  intro hno
  obtain ⟨th, hfirst, hcycles⟩ := cycles_slowDeployment
  obtain ⟨th', hnow, hends⟩ := ends_promotedMeanwhile
  exact hno _ _ run_promotedMeanwhile 1 th th' 0 _ hfirst hcycles hnow hends
    ready_promotedMeanwhile

end Fleet

end GameFleet
