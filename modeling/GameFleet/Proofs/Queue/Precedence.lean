import GameFleet.Proofs.Control.Clock
import GameFleet.Proofs.Queue.Course
import GameFleet.Proofs.Queue.Places

/-!
# Which task is picked

A dispatch whose turn it is picks the task that comes first of all that wait, if that one is due.
It does not matter in which order the tasks are listed.

- `Task.before_total`, `Task.not_before_of_before`: of two tasks with different places one comes
  first.
- `TaskQueue.earliest?_eq_some_iff`: which task is the earliest.
- `Control.pick?`: what a move is seen to pick; `Control.pick?_step`, `Control.pick_cases`: it is
  the earliest task.
- `Control.holding_apply`: who holds a task has picked it.
- `Control.waiting_apply`: which tasks wait after a move.
-/

namespace GameFleet

/-! ### The order of tasks -/

namespace Task

variable {s t u : Task}

theorem before_iff : s.before t = true ↔ s.due < t.due ∨ s.due = t.due ∧ s.seq < t.seq := by
  simp [before]

/-- Of two tasks with different places one comes first. -/
theorem before_total (h : s.seq ≠ t.seq) : s.before t = true ∨ t.before s = true := by
  simp only [before_iff]
  omega

/-- Of two tasks only one comes first. -/
theorem not_before_of_before (h : s.before t = true) : t.before s = false := by
  refine Bool.eq_false_iff.mpr fun h' => ?_
  rw [before_iff] at h h'
  omega

theorem not_before_self (t : Task) : t.before t = false := by
  refine Bool.eq_false_iff.mpr fun h => ?_
  rw [before_iff] at h
  omega

theorem not_before_trans (h : s.before t = false) (h' : t.before u = false) :
    s.before u = false := by
  simp only [Bool.eq_false_iff, ne_eq, before_iff] at *
  omega

theorem isDue_iff {now : Nat} : t.isDue now = true ↔ t.due ≤ now := by
  simp [isDue]

/-- A task that is due comes before one that is not. -/
theorem before_of_isDue {now : Nat} (ht : t.due ≤ now) (hu : now < u.due) : t.before u = true :=
  before_iff.mpr (.inl (Nat.lt_of_le_of_lt ht hu))

end Task

namespace TaskQueue

variable {now : Nat} {tasks tasks' : List Task} {t : Task}

/-- Of the tasks that are due none comes before the earliest. -/
theorem not_before_of_earliest? (h : earliest? now tasks = some t) :
    ∀ u ∈ tasks, u.due ≤ now → u.before t = false := by
  induction tasks generalizing t with
  | nil => cases h
  | cons s rest ih =>
    intro u hu hdue
    simp only [earliest?] at h
    by_cases hs : s.isDue now = true
    · rw [if_pos hs, Option.some.injEq] at h
      subst h
      cases hrest : earliest? now rest with
      | none =>
        -- Nothing but the first is due.
        rcases List.mem_cons.mp hu with rfl | hmem
        · exact Task.not_before_self _
        · have hlate := earliest?_eq_none_iff.mp hrest u hmem
          rw [Task.isDue_iff.mpr hdue] at hlate
          cases hlate
      | some v =>
        simp only [earlier]
        split
        · rename_i hv
          rcases List.mem_cons.mp hu with rfl | hmem
          · exact Task.not_before_of_before hv
          · exact ih hrest u hmem hdue
        · rename_i hv
          rcases List.mem_cons.mp hu with rfl | hmem
          · exact Task.not_before_self _
          · exact Task.not_before_trans (ih hrest u hmem hdue) (Bool.eq_false_iff.mpr hv)
    · rw [if_neg hs] at h
      rcases List.mem_cons.mp hu with rfl | hmem
      · exact absurd (Task.isDue_iff.mpr hdue) hs
      · exact ih h u hmem hdue

/-- The earliest task comes before all others that wait. -/
theorem before_of_earliest? (h : earliest? now tasks = some t) {u : Task} (hu : u ∈ tasks)
    (hseq : u.seq ≠ t.seq) : t.before u = true := by
  obtain ⟨-, hdue⟩ := earliest?_mem h
  by_cases hlate : u.due ≤ now
  · obtain h' | h' := Task.before_total hseq
    · rw [not_before_of_earliest? h u hu hlate] at h'
      cases h'
    · exact h'
  · exact Task.before_of_isDue (Task.isDue_iff.mp hdue) (Nat.lt_of_not_le hlate)

/-- Tasks that wait are told apart by their places. -/
theorem eq_of_seq_eq (hn : (tasks.map Task.seq).Nodup) {s u : Task} (hs : s ∈ tasks)
    (hu : u ∈ tasks) (h : s.seq = u.seq) : s = u :=
  List.inj_on_of_nodup_map hn hs hu h

/-- The earliest task is the one that is due and comes before all others. -/
theorem earliest?_eq_some_iff (hn : (tasks.map Task.seq).Nodup) :
    earliest? now tasks = some t ↔
      t ∈ tasks ∧ t.due ≤ now ∧ ∀ u ∈ tasks, u.seq ≠ t.seq → t.before u = true := by
  constructor
  · intro h
    obtain ⟨hmem, hdue⟩ := earliest?_mem h
    exact ⟨hmem, Task.isDue_iff.mp hdue, fun u hu hseq => before_of_earliest? h hu hseq⟩
  · rintro ⟨hmem, hdue, hleast⟩
    cases hs : earliest? now tasks with
    | none =>
      have := earliest?_eq_none_iff.mp hs t hmem
      rw [Task.isDue_iff.mpr hdue] at this
      cases this
    | some s =>
      obtain ⟨hsmem, -⟩ := earliest?_mem hs
      by_cases hseq : s.seq = t.seq
      · rw [eq_of_seq_eq hn hsmem hmem hseq]
      · have := Task.not_before_of_before (hleast s hsmem hseq)
        rw [before_of_earliest? hs hmem fun h => hseq h.symm] at this
        cases this

/-- It does not matter in which order the tasks are listed. -/
theorem earliest?_perm (hn : (tasks.map Task.seq).Nodup) (h : tasks'.Perm tasks) :
    earliest? now tasks' = earliest? now tasks := by
  have hn' : (tasks'.map Task.seq).Nodup := (h.map Task.seq).nodup_iff.mpr hn
  refine Option.ext fun t => ?_
  rw [earliest?_eq_some_iff hn, earliest?_eq_some_iff hn']
  simp only [h.mem_iff]

end TaskQueue

/-! ### What is picked -/

/-- What is seen of a step from the dispatch of its thread before and after it: it picks a task, or
it finds none to pick. -/
def Dispatch.picked? : Option Dispatch → Option Dispatch → Option (Option Task)
  | some .inLine, some (.holding t) => some (some t)
  | some .inLine, some (.done false) => some none
  | _, _ => none

/-- The task that waits since a deed. -/
def Deed.waiting? : Deed → Option Task
  | came t => some t
  | back _ t' _ => some t'
  | _ => none

namespace Control

variable {ω : Type} {S : Surroundings ω} {c : Control ω} {m : Move ω} {tid : Nat} {d : Dispatch}
  {o : Option Task}

/-- What a move is seen to pick, if it is the turn of a dispatch: a task, or nothing. -/
def pick? (c : Control ω) : Move ω → Option (Option Task)
  | .step S tid choice =>
    Dispatch.picked? (c.dispatch? tid) ((c.step S tid choice).2.dispatch? tid)
  | _ => none

/-- A dispatch whose turn it is takes the earliest task, or it leaves. -/
theorem take_eq : c.take tid = match TaskQueue.earliest? c.elapsed c.queue.tasks with
    | none => (.done false, c.leaveLine tid)
    | some t => (.holding t,
      { c with queue := ⟨TaskQueue.without t.seq c.queue.tasks, c.queue.nextSeq⟩ }) := by
  unfold take TaskQueue.takeDue
  cases TaskQueue.earliest? c.elapsed c.queue.tasks <;> rfl

/-- The state after the step of a dispatch whose turn it is. -/
theorem step_of_inLine (hd : c.dispatch? tid = some .inLine) (hhead : c.line.head? = some tid)
    (S : Surroundings ω) (choice : Nat) :
    (c.step S tid choice).2.dispatch? tid = some (c.take tid).1 ∧
      (c.step S tid choice).2.queue = (c.take tid).2.queue := by
  have hdispatch : c.stepDispatch S tid .inLine = .answered (c.take tid).1 (c.take tid).2 := by
    rw [stepDispatch, if_pos hhead]
  exact step_of_answered hd (by simp) hdispatch choice

/-- A dispatch whose turn it is picks the earliest task, if any is due. -/
theorem pick?_step (hd : c.dispatch? tid = some .inLine) (hhead : c.line.head? = some tid)
    (S : Surroundings ω) (choice : Nat) :
    c.pick? (.step S tid choice) = some (TaskQueue.earliest? c.elapsed c.queue.tasks) := by
  show Dispatch.picked? (c.dispatch? tid) ((c.step S tid choice).2.dispatch? tid) = _
  rw [hd, (step_of_inLine hd hhead S choice).1, take_eq]
  cases TaskQueue.earliest? c.elapsed c.queue.tasks <;> rfl

/-- Only a dispatch whose turn it is picks, and it picks the earliest task. -/
theorem pick_cases (h : c.pick? m = some o) :
    o = TaskQueue.earliest? c.elapsed c.queue.tasks ∧
      ∃ S tid choice, m = .step S tid choice ∧ c.dispatch? tid = some .inLine ∧
        c.line.head? = some tid := by
  cases m with
  | step S tid choice =>
    change Dispatch.picked? (c.dispatch? tid) ((c.step S tid choice).2.dispatch? tid) = some o at h
    have hd : c.dispatch? tid = some .inLine := by
      unfold Dispatch.picked? at h
      split at h
      · assumption
      · assumption
      · cases h
    by_cases hhead : c.line.head? = some tid
    · change c.pick? (.step S tid choice) = some o at h
      rw [pick?_step hd hhead] at h
      exact ⟨(Option.some.inj h).symm, S, tid, choice, rfl, hd, hhead⟩
    · -- Whoever is not the first in line waits.
      obtain ⟨wrap, -, hstep⟩ := step_of_dispatch hd nofun S choice
      rw [stepDispatch, if_neg hhead] at hstep
      rw [hstep] at h
      change Dispatch.picked? (c.dispatch? tid) (c.dispatch? tid) = some o at h
      rw [hd] at h
      cases h
  | _ => cases h

/-- What a thread has in hand is seen from its dispatch. -/
theorem hand_of_dispatch? (hd : c.dispatch? tid = some d) : c.hands[tid]? = some d.hand := by
  obtain ⟨th, hth, hd⟩ := Option.bind_eq_some_iff.mp hd
  exact hand_at_dispatch hth hd

/-- Who has a place in line is in a dispatch there. -/
theorem dispatch?_of_hand_inLine (h : c.hands[tid]? = some .inLine) :
    c.dispatch? tid = some .inLine := by
  unfold hands at h
  rw [List.getElem?_map] at h
  obtain ⟨th, hth, hhand⟩ := Option.map_eq_some_iff.mp h
  rw [dispatch?_at hth]
  unfold Thread.hand at hhand
  cases hd : th.dispatch? with
  | none =>
    rw [hd] at hhand
    cases hhand
  | some d =>
    rw [hd] at hhand
    cases d <;> first | rfl | cases hhand

/-- Who has a task in hand is in a dispatch that holds or processes it. -/
theorem dispatch?_of_hand_busy {t : Task} (h : c.hands[tid]? = some (.busy (some t))) :
    c.dispatch? tid = some (.holding t) ∨ ∃ p, c.dispatch? tid = some (.processing t p) := by
  unfold hands at h
  rw [List.getElem?_map] at h
  obtain ⟨th, hth, hhand⟩ := Option.map_eq_some_iff.mp h
  rw [dispatch?_at hth]
  unfold Thread.hand at hhand
  cases hd : th.dispatch? with
  | none =>
    rw [hd] at hhand
    cases hhand
  | some d =>
    rw [hd] at hhand
    cases d with
    | holding t' =>
      cases hhand
      exact .inl rfl
    | processing t' p =>
      cases hhand
      exact .inr ⟨p, rfl⟩
    | _ => cases hhand

/-- A dispatch that holds a task held it before, or has picked it. -/
theorem holding_apply {t : Task} (h : (c.apply m).dispatch? tid = some (.holding t)) :
    c.dispatch? tid = some (.holding t) ∨ c.pick? m = some (some t) := by
  obtain hsame | harriving | ⟨S, choice, d₀, c', rfl, hd₀, hx⟩ := dispatch?_apply h
  · exact .inl hsame
  · cases harriving
  · cases leads_stepDispatch hx with
    | takes =>
      right
      change (c.step S tid choice).2.dispatch? tid = _ at h
      show Dispatch.picked? (c.dispatch? tid) ((c.step S tid choice).2.dispatch? tid) = _
      rw [hd₀, h]
      rfl

/-- A dispatch that comes to have a task in hand has picked it. -/
theorem pick?_of_taken {t : Task} (hbefore : c.hands[tid]? = some .inLine)
    (hafter : (c.apply m).hands[tid]? = some (.busy (some t))) (hdeed : c.deed? m = none) :
    c.pick? m = some (some t) := by
  have hd := dispatch?_of_hand_inLine hbefore
  obtain hd' | ⟨p, hd'⟩ := dispatch?_of_hand_busy hafter
  · obtain h | h := holding_apply hd'
    · rw [hd] at h
      cases h
    · exact h
  · obtain ⟨p', h, -⟩ | h := processing_apply hd'
    · rw [hd] at h
      cases h
    · rw [hdeed] at h
      cases h

/-- Nothing is done with a task that is picked, and it waits no longer. -/
theorem waiting_of_pick (h : c.pick? m = some o) :
    c.deed? m = none ∧
      (c.apply m).queue.tasks =
        o.elim c.queue.tasks fun t => TaskQueue.without t.seq c.queue.tasks := by
  obtain ⟨rfl, S, tid, choice, rfl, hd, hhead⟩ := pick_cases h
  obtain ⟨hd', hq⟩ := step_of_inLine hd hhead S choice
  have hnew : (c.step S tid choice).2.queue.size ≤ c.queue.size →
      c.deed? (.step S tid choice)
        = Deed.seen (some .inLine) (some (c.take tid).1) none := by
    intro hle
    show Deed.seen (c.dispatch? tid) ((c.step S tid choice).2.dispatch? tid)
      (c.new? (c.step S tid choice).2) = _
    rw [hd, hd', new?_eq_none hle]
  change _ ∧ (c.step S tid choice).2.queue.tasks = _
  rw [take_eq] at hq hnew
  cases hfirst : TaskQueue.earliest? c.elapsed c.queue.tasks with
  | none =>
    rw [hfirst] at hq hnew
    exact ⟨hnew (Nat.le_of_eq (congrArg TaskQueue.size hq)), congrArg TaskQueue.tasks hq⟩
  | some t =>
    rw [hfirst] at hq hnew
    refine ⟨hnew ?_, congrArg TaskQueue.tasks hq⟩
    rw [hq]
    exact List.length_eraseP_le

/-- The tasks that wait after a move that picks none: besides those that waited, one that came or
came back. -/
theorem waiting_apply (hm : Steady c m) (h : c.pick? m = none) :
    (c.apply m).queue.tasks = c.queue.tasks ++ ((c.deed? m).bind Deed.waiting?).toList := by
  have hdoes := does hm
  generalize hdeed : c.deed? m = e at hdoes
  have hsame : (c.apply m).queue = c.queue →
      (c.apply m).queue.tasks = c.queue.tasks ++ [] := by
    intro hq
    rw [hq, List.append_nil]
  cases hdoes with
  | @takes tid t hhand _ _ hc =>
    have hafter : (c.apply m).hands[tid]? = some (.busy (some t)) := by
      rw [hc.hands]
      exact List.getElem?_set_self (List.getElem?_eq_some_iff.mp hhand).1
    rw [pick?_of_taken hhand hafter hdeed] at h
    cases h
  | enqueues _ hc => exact congrArg TaskQueue.tasks hc.queue
  | returns _ _ hc => exact congrArg TaskQueue.tasks hc.queue
  | retries _ _ _ _ _ _ hc => exact congrArg TaskQueue.tasks hc.queue
  | nothing hc => exact hsame hc.queue
  | spawns hc => exact hsame hc.queue
  | joins _ hc => exact hsame hc.queue
  | leaves _ _ hc => exact hsame hc.queue
  | runs _ _ _ hc => exact hsame hc.queue
  | drops _ _ hc => exact hsame hc.queue
  | succeeds _ hc => exact hsame hc.queue
  | fails _ _ _ hc => exact hsame hc.queue

/-- A task that waits has waited before, or it came or came back. -/
theorem waiting_cases (hm : Steady c m) {u : Task} (hu : u ∈ (c.apply m).queue.tasks) :
    u ∈ c.queue.tasks ∨ ∃ e, c.deed? m = some e ∧ e.waiting? = some u := by
  cases hp : c.pick? m with
  | none =>
    rw [waiting_apply hm hp, List.mem_append] at hu
    obtain hu | hu := hu
    · exact .inl hu
    · exact .inr (Option.bind_eq_some_iff.mp (Option.mem_toList.mp hu))
  | some o =>
    rw [(waiting_of_pick hp).2] at hu
    cases o with
    | none => exact .inl hu
    | some t => exact .inl (List.mem_of_mem_eraseP hu)

end Control

end GameFleet
