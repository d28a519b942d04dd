import GameFleet.Proofs.Control.Frame

/-!
# What a thread has

A thread has a dispatch or some work that goes on, or neither. Whatever part of a thread being told
to stop leaves as it is, and a thread that has ended does not have, changes with the steps of the
thread only, or comes with a new one.

- `Control.part?`: a part of the thread with a number.
- `Leaves.part?`, `Control.of_part?_put`, `Control.of_part?_resume`: what becomes of it.
- `Move.brings?`: the thread that a move brings.
- `Control.part?_apply`: a part that a thread has after a move, it had before, or it comes with the
  thread, or a step of the thread leads to it.
-/

namespace GameFleet

variable {ω : Type}

/-- The thread that a move brings, if it brings one. -/
def Move.brings? : Move ω → Option Thread
  | .begin tracked w => some (.arriving tracked w)
  | .receive w => some (.arriving true w)
  | .dispatch => some (.dispatching .arriving)
  | .startQueue => some (.ticking {})
  | .startLoop p => some (.looping { policy := p })
  | .stop stages e => some (.staged stages e)
  | _ => none

namespace Control

variable {β : Type} {f : Thread → Option β} {S : Surroundings ω} {c c' : Control ω} {k : Nat}
  {th : Thread} {b : β}

/-- A part of the thread with a number. -/
def part? (f : Thread → Option β) (c : Control ω) (k : Nat) : Option β := c.threads[k]?.bind f

theorem part?_at (hth : c.threads[k]? = some th) : part? f c k = f th := by
  unfold part?
  rw [hth, Option.bind_some]

/-- A thread that is left alone has what it had. -/
theorem Leaves.part? (h : Leaves k c c') (hs : ∀ th, f th.signalled = f th) :
    Control.part? f c' k = Control.part? f c k := by
  unfold Control.part?
  obtain h | h := h
  · rw [h]
  · rw [h, Option.bind_map]
    congr 1
    funext th
    exact hs th

theorem of_part?_put (h : part? f (c.put k th) k = some b) : f th = some b := by
  obtain ⟨th', hth, hb⟩ := Option.bind_eq_some_iff.mp h
  change (c.threads.set k th)[k]? = some th' at hth
  obtain ⟨hlt, heq⟩ := List.getElem?_eq_some_iff.mp hth
  rw [List.getElem_set_self] at heq
  exact heq ▸ hb

/-- What a thread that breaks off has afterwards, it had before. -/
theorem of_part?_breakOff (he : ∀ e, f (.ended e) = none) {e : Ending}
    (h : part? f (c.breakOff S k e) k = some b) : part? f c k = some b := by
  unfold breakOff at h
  split at h
  · exact h
  · split at h
    · exact h
    · have hb := of_part?_put h
      rw [he] at hb
      cases hb

/-- What a thread that was served has, it had before, or it comes with the answer. -/
theorem of_part?_resume {α : Type} {wrap : α → Thread} {x : Served α (Control ω)}
    (he : ∀ e, f (.ended e) = none) (hx : x.state.threads = c.threads)
    (h : part? f (resume S k wrap x).2 k = some b) :
    part? f c k = some b ∨ ∃ a c', x = .answered a c' ∧ f (wrap a) = some b := by
  have hsame : ∀ {c' : Control ω}, c'.threads = c.threads → part? f c' k = part? f c k := by
    intro c' ht
    unfold part?
    rw [ht]
  cases x with
  | answered a c' => exact .inr ⟨a, c', rfl, of_part?_put h⟩
  | waiting c' => exact .inl ((hsame hx).symm.trans h)
  | panicked c' => exact .inl ((hsame hx).symm.trans (of_part?_breakOff he h))

/-- What there is after a thread has come, there was before, or it has come with the thread. -/
theorem of_part?_spawn (h : part? f (c.spawn th).1 k = some b) :
    part? f c k = some b ∨ f th = some b := by
  obtain ⟨th', hth, hb⟩ := Option.bind_eq_some_iff.mp h
  change (c.threads ++ [th])[k]? = some th' at hth
  by_cases hlt : k < c.threads.length
  · rw [List.getElem?_append_left hlt] at hth
    exact .inl ((part?_at hth).trans hb)
  · rw [List.getElem?_append_right (Nat.le_of_not_lt hlt)] at hth
    obtain ⟨hlt', heq⟩ := List.getElem?_eq_some_iff.mp hth
    rw [List.getElem_singleton] at heq
    exact .inr (heq ▸ hb)

/-- What a thread has after a move, it had before, and the move is no step of it; or it comes with
the thread; or a step of the thread leads to it. -/
theorem part?_apply {m : Move ω} (hs : ∀ th, f th.signalled = f th)
    (h : part? f (c.apply m) k = some b) :
    (part? f c k = some b ∧ m.isStepOf k = false) ∨ (∃ th, m.brings? = some th ∧ f th = some b) ∨
      ∃ S choice, m = .step S k choice := by
  have hspawn : ∀ {th : Thread}, m.brings? = some th → m.isStepOf k = false →
      part? f (c.spawn th).1 k = some b →
      (part? f c k = some b ∧ m.isStepOf k = false) ∨
        (∃ th, m.brings? = some th ∧ f th = some b) ∨ ∃ S choice, m = .step S k choice := by
    intro th hm hstep h
    obtain h | h := of_part?_spawn h
    · exact .inl ⟨h, hstep⟩
    · exact .inr (.inl ⟨th, hm, h⟩)
  cases m with
  | step S tid choice =>
    by_cases htid : tid = k
    · subst htid
      exact .inr (.inr ⟨S, choice, rfl⟩)
    · have hleaves := step_leaves (S := S) (c := c) choice (Ne.symm htid)
      exact .inl ⟨(hleaves.part? hs).symm.trans h, by simpa [Move.isStepOf] using htid⟩
  | begin tracked w => exact hspawn rfl rfl h
  | receive w =>
    simp only [apply, receive] at h
    split at h
    · exact hspawn rfl rfl h
    · exact .inl ⟨h, rfl⟩
  | dispatch => exact hspawn rfl rfl h
  | enqueue S o => exact .inl ⟨h, rfl⟩
  | register kind process => exact .inl ⟨h, rfl⟩
  | startQueue =>
    simp only [apply, startQueue] at h
    split at h
    · exact .inl ⟨h, rfl⟩
    · exact hspawn rfl rfl h
  | startLoop p => exact hspawn rfl rfl h
  | stop stages e => exact hspawn rfl rfl h
  | pass millis => exact .inl ⟨h, rfl⟩

end Control

end GameFleet
