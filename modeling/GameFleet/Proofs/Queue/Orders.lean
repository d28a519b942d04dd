import GameFleet.Proofs.Control.Question
import GameFleet.Proofs.Queue.Places
import Mathlib.Data.List.Perm.Subperm

/-!
# Where tasks come from

A task waits or is in hand as it was enqueued, and with a move no other comes to be there than the
one that is enqueued with the move.

- `Control.order?`: what is enqueued with a move.
- `Control.order?_of_came`: a task comes as it is enqueued.
- `Control.orders`: the tasks that wait and those in hand, as they were enqueued.
- `Control.orders_apply`: with a move none comes to them, or the one that is enqueued with it.
-/

namespace GameFleet

/-- What is enqueued with a request. -/
def Request.order? : Request → Option TaskOrder
  | enqueue o => some o
  | _ => none

theorem Request.order?_eq_some_iff {q : Request} {o : TaskOrder} :
    q.order? = some o ↔ q = .enqueue o := by
  cases q <;> simp [order?]

namespace Control

variable {ω : Type} {S : Surroundings ω} {c c' : Control ω} {k choice : Nat} {t : Task}

/-- What is enqueued with a move. -/
def order? (c : Control ω) : Move ω → Option TaskOrder
  | .enqueue _ o => some o
  | m => (c.question? m).bind Request.order?

theorem tasks_ne_concat (h : c'.queue.tasks.length ≤ c.queue.tasks.length) :
    c'.queue.tasks ≠ c.queue.tasks ++ [t] := by
  intro heq
  rw [heq, List.length_append, List.length_singleton] at h
  omega

/-- To be served lets a task come only when it is enqueued. -/
theorem question_of_ask {q : Request} (h : (c.ask S k q).state.queue.tasks = c.queue.tasks ++ [t]) :
    q = .enqueue t.toTaskOrder := by
  have hsame : c.queue.tasks ≠ c.queue.tasks ++ [t] := tasks_ne_concat (Nat.le_refl _)
  cases q with
  | enqueue o =>
    obtain rfl := List.singleton_inj.mp (List.append_cancel_left h)
    rfl
  | call q =>
    simp only [ask] at h
    cases hserve : S.serve c.world k c.elapsed q <;> rw [hserve] at h <;> cases hsame h
  | _ => exact absurd h hsame

@[simp] theorem queue_breakOff (e : Ending) : (c.breakOff S k e).queue = c.queue := by
  unfold breakOff
  split
  · rfl
  · split
    · rfl
    · unfold settle
      split <;> rfl

theorem queue_resume {α : Type} {wrap : α → Thread} (x : Served α (Control ω)) :
    (resume S k wrap x).2.queue = x.state.queue := by
  cases x with
  | panicked c' => exact queue_breakOff _
  | _ => rfl

/-- A task that was taken waits again only as its dispatch ends. -/
theorem start_cases (c : Control ω) (u : Task) :
    (c.start k u).2.queue = c.queue ∨ (c.start k u).1 = .done true := by
  unfold start
  split
  · exact .inl rfl
  · split
    · exact .inr rfl
    · exact .inl rfl

/-- A task that was run waits again only as its dispatch ends. -/
theorem conclude_cases (c : Control ω) (u : Task) (o : Outcome Json.Value) :
    (c.conclude k u o).2.queue = c.queue ∨ (c.conclude k u o).1 = .done true := by
  unfold conclude
  split
  · exact .inl rfl
  · exact .inr rfl
  · split
    · exact .inr rfl
    · exact .inl rfl

/-- A dispatch that keeps what it has in hand lets a task come only when it is enqueued. -/
theorem question?_of_stepDispatch {d : Dispatch}
    (hhand : ∀ d' c', c.stepDispatch S k d = .answered d' c' → d'.hand = d.hand)
    (h : (c.stepDispatch S k d).state.queue.tasks = c.queue.tasks ++ [t]) :
    d.question? = some (.enqueue t.toTaskOrder) := by
  have hsame : c.queue.tasks ≠ c.queue.tasks ++ [t] := tasks_ne_concat (Nat.le_refl _)
  match d, hhand, h with
  | .arriving, _, h => exact absurd h hsame
  | .inLine, _, h =>
    rw [stepDispatch] at h
    split at h
    · change (c.take k).2.queue.tasks = _ at h
      unfold take at h
      split at h
      · exact absurd h hsame
      · rename_i htake
        obtain ⟨-, rfl⟩ := takeDue_eq htake
        exact absurd h (tasks_ne_concat List.length_eraseP_le)
    · exact absurd h hsame
  | .holding u, hhand, h =>
    obtain hq | hd := c.start_cases (k := k) u
    · exact absurd ((congrArg TaskQueue.tasks hq).symm.trans h) hsame
    · have hbusy : (c.start k u).1.hand = _ := hhand _ _ rfl
      rw [hd] at hbusy
      cases hbusy
  | .processing u (.done o), hhand, h =>
    obtain hq | hd := (c.settle true).conclude_cases (k := k) u o
    · exact absurd ((congrArg TaskQueue.tasks hq).symm.trans h) hsame
    · have hbusy : ((c.settle true).conclude k u o).1.hand = _ := hhand _ _ rfl
      rw [hd] at hbusy
      cases hbusy
  | .processing u (.ask q next), _, h =>
    rw [stepDispatch, state_map] at h
    exact congrArg some (question_of_ask h)
  | .following (.done _), _, h => exact absurd h hsame
  | .following (.ask q next), _, h =>
    rw [stepDispatch, state_map] at h
    exact congrArg some (question_of_ask h)
  | .done _, _, h => exact absurd h hsame

/-- A step of a thread that keeps what it has in hand lets a task come only when it is enqueued. -/
theorem question?_of_step (hhands : (c.step S k choice).2.hands = c.hands)
    (h : (c.step S k choice).2.queue.tasks = c.queue.tasks ++ [t]) :
    c.question? (.step S k choice) = some (.enqueue t.toTaskOrder) := by
  have hsame : c.queue.tasks ≠ c.queue.tasks ++ [t] := tasks_ne_concat (Nat.le_refl _)
  have hsteps := steps S c k choice
  generalize (c.step S k choice).2 = c₁ at hsteps hhands h
  cases hsteps with
  | stays => exact absurd h hsame
  | turns _ _ => exact absurd h hsame
  | @works wrap w hwrap hth _ =>
    rw [queue_resume] at h
    refine (part?_at hth).trans ((hwrap.question? w).trans ?_)
    unfold Work.question?
    unfold stepWork at h
    cases hpose : w.pose? choice with
    | none =>
      rw [hpose] at h
      exact absurd h hsame
    | some p =>
      rw [hpose] at h
      dsimp only at h
      rw [state_map] at h
      rw [Option.map_some, question_of_ask h]
  | @dispatches wrap d hwrap hth _ =>
    refine (part?_at hth).trans ((hwrap.question? d).trans ?_)
    refine question?_of_stepDispatch (fun d' c' hx => ?_) (by rwa [queue_resume] at h)
    have hthreads : (c.stepDispatch S k d).state.threads = c.threads := threads_stepDispatch d
    rw [hx] at hhands hthreads
    have hat : c.hands[k]? = some d'.hand := by
      rw [← hhands, ← hand_eq (hwrap.dispatch? d')]
      refine hand_at ?_
      refine List.getElem?_set_self ?_
      exact hthreads ▸ (List.getElem?_eq_some_iff.mp hth).1
    rw [hand_at hth, hand_eq (hwrap.dispatch? d)] at hat
    exact (Option.some.inj hat).symm
  | breaks _ _ =>
    rw [queue_breakOff] at h
    exact absurd h hsame
  | passes _ hp =>
    exact absurd ((congrArg TaskQueue.tasks (pass?_comes hp).queue).symm.trans h) hsame

/-- A task comes as it is enqueued. -/
theorem order?_of_came {m : Move ω} (hm : Steady c m) (h : c.deed? m = some (.came t)) :
    c.order? m = some t.toTaskOrder := by
  have hdoes := does hm
  rw [h] at hdoes
  cases hdoes with
  | enqueues hnew hc =>
    have htasks : (c.apply m).queue.tasks = c.queue.tasks ++ [t] := congrArg _ hc.queue
    have hsame : c.queue.tasks ≠ c.queue.tasks ++ [t] := tasks_ne_concat (Nat.le_refl _)
    -- Of the moves that are no steps only one adds to the queue.
    cases m with
    | step S k choice =>
      show (c.question? (.step S k choice)).bind Request.order? = _
      rw [question?_of_step hc.hands htasks]
      rfl
    | enqueue S o =>
      obtain rfl := List.singleton_inj.mp (List.append_cancel_left htasks)
      rfl
    | receive w =>
      simp only [apply, receive] at htasks
      split at htasks <;> exact absurd htasks hsame
    | startQueue =>
      simp only [apply, startQueue] at htasks
      split at htasks <;> exact absurd htasks hsame
    | _ => exact absurd htasks hsame

/-- What the tasks that wait or are in hand were enqueued with. -/
def orders (c : Control ω) : List TaskOrder :=
  (c.queue.tasks ++ c.inHand).map Task.toTaskOrder

theorem map_told (c : Control ω) (ds : List Deed) :
    (c.told ds).map Task.toTaskOrder =
      c.orders ++ (ds.filterMap Deed.gone?).map Task.toTaskOrder := by
  unfold told orders
  rw [← List.append_assoc, List.map_append]

/-- After a move there is nothing but what there was, and what is enqueued with the move. -/
theorem orders_apply {m : Move ω} (hm : Steady c m)
    (hn : (c.queue.tasks.map Task.seq).Nodup) :
    (c.apply m).orders.Subperm c.orders ∨
      ∃ o, c.order? m = some o ∧ (c.apply m).queue ≠ c.queue ∧
        (c.apply m).orders.Perm (o :: c.orders) := by
  obtain hkeeps | ⟨t, hcame, hseq, hnext, hperm⟩ |
    ⟨t, t', o, rest, -, -, -, -, horder, hold, hnew⟩ := (does hm).told hn []
  · left
    have h := hkeeps.told.map Task.toTaskOrder
    rw [map_told, map_told] at h
    have hsub := (List.sublist_append_left (c.apply m).orders _).subperm.trans h.subperm
    rwa [List.filterMap_nil, List.map_nil, List.append_nil] at hsub
  · refine .inr ⟨_, order?_of_came hm hcame, fun hq => ?_, ?_⟩
    · rw [hq] at hnext
      omega
    · have h := hperm.map Task.toTaskOrder
      rw [map_told, List.map_cons, map_told] at h
      simpa only [List.filterMap_cons, Deed.gone?, List.filterMap_nil, List.map_nil,
        List.append_nil] using h
  · left
    have h := hold.map Task.toTaskOrder
    have h' := hnew.map Task.toTaskOrder
    rw [List.map_cons, map_told] at h h'
    rw [horder] at h'
    have hsub :=
      (List.sublist_append_left (c.apply m).orders _).subperm.trans (h'.trans h.symm).subperm
    rwa [List.filterMap_nil, List.map_nil, List.append_nil] at hsub

end Control

end GameFleet
