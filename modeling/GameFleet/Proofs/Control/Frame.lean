import GameFleet.Proofs.Control.Turn

/-!
# What a thread leaves alone

A step changes the thread that takes it. Of the others it tells some to stop at most.

- `Control.Leaves`: a thread is as it was, or it was told to stop.
- `Control.step_leaves`, `Control.apply_leaves`: a move leaves every thread alone but the one whose
  step it is.
- `Control.ended_apply`, `Control.passed_apply`, `Control.staged_apply`: what becomes of a thread
  that has ended, or that goes through stages.
-/

namespace GameFleet

/-- The state that something was served in. -/
def Served.state {α σ : Type} : Served α σ → σ
  | answered _ s => s
  | waiting s => s
  | panicked s => s

/-- Whether a move is a step of a thread. -/
def Move.isStepOf {ω : Type} (tid : Nat) : Move ω → Bool
  | .step _ t _ => t == tid
  | _ => false

theorem Thread.signalled_signalled (th : Thread) : th.signalled.signalled = th.signalled := by
  cases th <;> rfl

namespace Control

variable {ω : Type} {S : Surroundings ω} {c c' c'' : Control ω} {t tid : Nat}

/-- A thread is as it was, or it was told to stop. -/
def Leaves (t : Nat) (c c' : Control ω) : Prop :=
  c'.threads[t]? = c.threads[t]? ∨ c'.threads[t]? = (c.threads[t]?).map Thread.signalled

theorem Leaves.of_threads (h : c'.threads = c.threads) : Leaves t c c' := .inl (by rw [h])

theorem Leaves.trans (h : Leaves t c c') (h' : Leaves t c' c'') : Leaves t c c'' := by
  obtain h | h := h
  · obtain h' | h' := h'
    · exact .inl (h'.trans h)
    · exact .inr (by rw [h', h])
  · obtain h' | h' := h'
    · exact .inr (h'.trans h)
    · right
      rw [h', h, Option.map_map]
      congr 1
      funext th
      exact Thread.signalled_signalled th

theorem put_leaves (th : Thread) (h : t ≠ tid) : Leaves t c (c.put tid th) :=
  .inl (List.getElem?_set_ne h.symm)

/-- A change that leaves the threads as they are, and then one of a single thread. -/
theorem Leaves.on (hc : c'.threads = c.threads) (th : Thread) (h : t ≠ tid) :
    Leaves t c (c'.put tid th) :=
  (Leaves.of_threads hc).trans (put_leaves th h)

theorem signal_leaves (s : Nat) : Leaves t c (c.signal s) := by
  unfold signal
  split
  · exact .inl rfl
  · rename_i th hth
    by_cases h : t = s
    · subst h
      right
      show (c.threads.set t th.signalled)[t]? = _
      rw [List.getElem?_set_self (List.getElem?_eq_some_iff.mp hth).1, hth]
      rfl
    · exact put_leaves _ h

theorem length_signal (s : Nat) : (c.signal s).threads.length = c.threads.length := by
  unfold signal
  split
  · rfl
  · exact List.length_set

@[simp] theorem threads_settle (tracked : Bool) : (c.settle tracked).threads = c.threads := by
  unfold settle
  split <;> rfl

theorem breakOff_leaves (e : Ending) (h : t ≠ tid) : Leaves t c (c.breakOff S tid e) := by
  unfold breakOff
  split
  · exact .inl rfl
  · split
    · exact .inl rfl
    · exact Leaves.on (threads_settle _) _ h

/-- To be served changes no thread. -/
theorem threads_ask (q : Request) : (c.ask S tid q).state.threads = c.threads := by
  cases q with
  | call q =>
    simp only [ask]
    cases S.serve c.world tid c.elapsed q <;> rfl
  | _ => rfl

theorem state_map {α β : Type} (x : Served α (Control ω)) (f : α → β) :
    (x.map f id).state = x.state := by
  cases x <;> rfl

theorem resume_leaves {α : Type} {wrap : α → Thread} {x : Served α (Control ω)}
    (hx : x.state.threads = c.threads) (h : t ≠ tid) : Leaves t c (resume S tid wrap x).2 := by
  cases x with
  | answered a c' => exact Leaves.on hx _ h
  | waiting c' => exact .of_threads hx
  | panicked c' => exact (Leaves.of_threads hx).trans (breakOff_leaves _ h)

theorem threads_stepWork (choice : Nat) (w : Work) :
    (c.stepWork S tid choice w).state.threads = c.threads := by
  unfold stepWork
  split
  · rfl
  · rw [state_map]
    exact threads_ask _

theorem threads_conclude (k : Task) (o : Outcome Json.Value) :
    (c.conclude tid k o).2.threads = c.threads := by
  unfold conclude
  split
  · rfl
  · rfl
  · split <;> rfl

theorem threads_start (k : Task) : (c.start tid k).2.threads = c.threads := by
  unfold start
  split
  · rfl
  · split <;> rfl

theorem threads_take : (c.take tid).2.threads = c.threads := by
  unfold take
  split <;> rfl

theorem threads_stepDispatch (d : Dispatch) :
    (c.stepDispatch S tid d).state.threads = c.threads := by
  match d with
  | .arriving => rfl
  | .inLine =>
    rw [stepDispatch]
    split
    · exact threads_take
    · rfl
  | .holding k => exact threads_start k
  | .processing k (.done o) =>
    exact (threads_conclude k o).trans (threads_settle true)
  | .processing k (.ask q next) =>
    rw [stepDispatch, state_map]
    exact threads_ask q
  | .following (.done _) => rfl
  | .following (.ask q next) =>
    rw [stepDispatch, state_map]
    exact threads_ask q
  | .done _ => rfl

theorem pass?_leaves {stage : Stage} {stages : List Stage}
    (h : c.pass? stage = some (stages, c')) : Leaves t c c' := by
  obtain ⟨c₁, hpassed, rfl | ⟨s, rfl⟩⟩ := pass?_cases h
  · exact .of_threads hpassed.threads
  · exact (Leaves.of_threads hpassed.threads).trans (signal_leaves s)

/-- A step leaves all other threads alone. -/
theorem step_leaves (choice : Nat) (h : t ≠ tid) : Leaves t c (c.step S tid choice).2 := by
  have hsteps := steps S c tid choice
  generalize (c.step S tid choice).2 = c' at hsteps ⊢
  cases hsteps with
  | stays => exact .inl rfl
  | turns _ _ => exact Leaves.on rfl _ h
  | works _ _ _ => exact resume_leaves (threads_stepWork _ _) h
  | dispatches _ _ _ => exact resume_leaves (threads_stepDispatch _) h
  | breaks _ _ => exact breakOff_leaves _ h
  | passes _ hp => exact (pass?_leaves hp).trans (put_leaves _ h)

/-- A thread that there is stays as it is, but for its own steps and that it may be told to stop. -/
theorem apply_leaves {m : Move ω} (ht : t < c.threads.length) (hm : m.isStepOf t = false) :
    Leaves t c (c.apply m) := by
  have hspawn : ∀ th, (c.spawn th).1.threads[t]? = c.threads[t]? :=
    fun th => List.getElem?_append_left ht
  cases m with
  | step S tid choice =>
    refine step_leaves choice fun h => ?_
    simp [Move.isStepOf, h] at hm
  | begin tracked w => exact .inl (hspawn _)
  | receive w =>
    simp only [apply, receive]
    split
    · exact .inl (hspawn _)
    · exact .inl rfl
  | dispatch => exact .inl (hspawn _)
  | enqueue S o => exact .inl rfl
  | register kind process => exact .inl rfl
  | startQueue =>
    simp only [apply, startQueue]
    split
    · exact .inl rfl
    · exact .inl (hspawn _)
  | startLoop p => exact .inl (hspawn _)
  | stop stages e => exact .inl (hspawn _)
  | pass millis => exact .inl rfl

/-- A move leaves a thread that there is alone, or is a step of it. -/
theorem leaves_or_step (ht : t < c.threads.length) (m : Move ω) :
    Leaves t c (c.apply m) ∨ ∃ S choice, m = .step S t choice := by
  cases hm : m.isStepOf t with
  | false => exact .inl (apply_leaves ht hm)
  | true =>
    cases m with
    | step S tid choice =>
      obtain rfl : tid = t := by simpa [Move.isStepOf] using hm
      exact .inr ⟨S, choice, rfl⟩
    | _ => cases hm

/-- A thread that cannot be told to stop is as it was. -/
theorem Leaves.getElem?_eq {th : Thread} (h : Leaves t c c') (hth : c.threads[t]? = some th)
    (hs : th.signalled = th) : c'.threads[t]? = some th := by
  obtain h | h := h
  · rw [h, hth]
  · rw [h, hth, Option.map_some, hs]

/-- A thread that has ended is left as it is. -/
theorem ended_apply {e : Ending} (hth : c.threads[t]? = some (.ended e)) (m : Move ω) :
    (c.apply m).threads[t]? = some (.ended e) := by
  obtain hleaves | ⟨S, choice, rfl⟩ := leaves_or_step (List.getElem?_eq_some_iff.mp hth).1 m
  · exact hleaves.getElem?_eq hth rfl
  · show (c.step S t choice).2.threads[t]? = some (.ended e)
    unfold step
    rw [hth]
    exact hth

/-- A thread that has gone through all stages stays as it is, or ends. -/
theorem passed_apply {e : Ending} (hth : c.threads[t]? = some (.staged [] e)) (m : Move ω) :
    (c.apply m).threads[t]? = some (.staged [] e) ∨ (c.apply m).threads[t]? = some (.ended e) := by
  have hlt := (List.getElem?_eq_some_iff.mp hth).1
  obtain hleaves | ⟨S, choice, rfl⟩ := leaves_or_step hlt m
  · exact .inl (hleaves.getElem?_eq hth rfl)
  · right
    show (c.step S t choice).2.threads[t]? = some (.ended e)
    unfold step
    rw [hth]
    exact List.getElem?_set_self hlt

/-- A thread that goes through stages stays as it is, or passes the first. -/
theorem staged_apply {stage : Stage} {rest : List Stage} {e : Ending}
    (hth : c.threads[t]? = some (.staged (stage :: rest) e)) (m : Move ω) :
    (c.apply m).threads[t]? = some (.staged (stage :: rest) e) ∨
    ∃ stages c', c.pass? stage = some (stages, c') ∧
      c.apply m = c'.put t (.staged (stages ++ rest) e) := by
  obtain hleaves | ⟨S, choice, rfl⟩ := leaves_or_step (List.getElem?_eq_some_iff.mp hth).1 m
  · exact .inl (hleaves.getElem?_eq hth rfl)
  · simp only [apply]
    unfold step
    rw [hth]
    dsimp only
    rw [stepStaged]
    split
    · -- The first stage has to wait.
      exact .inl hth
    · rename_i stages c' hp
      exact .inr ⟨stages, c', hp, rfl⟩

end Control

end GameFleet
