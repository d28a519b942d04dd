import GameFleet.Proofs.Control.Frame

/-!
# Time

Time passes only by itself. No thread turns it back, nor does it pass while a thread takes a step.

- `Control.elapsed_step`: a step takes no time.
- `Control.le_elapsed_apply`: no move turns the time back.
-/

namespace GameFleet.Control

variable {ω : Type} {S : Surroundings ω} {c c' : Control ω} {tid : Nat}

@[simp] theorem elapsed_settle (tracked : Bool) : (c.settle tracked).elapsed = c.elapsed := by
  unfold settle
  split <;> rfl

theorem elapsed_breakOff (e : Ending) : (c.breakOff S tid e).elapsed = c.elapsed := by
  unfold breakOff
  split
  · rfl
  · split
    · rfl
    · exact elapsed_settle _

theorem elapsed_signal : (c.signal tid).elapsed = c.elapsed := by
  unfold signal
  split <;> rfl

theorem elapsed_ask (q : Request) : (c.ask S tid q).state.elapsed = c.elapsed := by
  cases q with
  | call q =>
    simp only [ask]
    cases S.serve c.world tid c.elapsed q <;> rfl
  | _ => rfl

theorem elapsed_resume {α : Type} {wrap : α → Thread} {x : Served α (Control ω)}
    (hx : x.state.elapsed = c.elapsed) : (resume S tid wrap x).2.elapsed = c.elapsed := by
  cases x with
  | answered a c' => exact hx
  | waiting c' => exact hx
  | panicked c' => exact (elapsed_breakOff _).trans hx

theorem elapsed_stepWork (choice : Nat) (w : Work) :
    (c.stepWork S tid choice w).state.elapsed = c.elapsed := by
  unfold stepWork
  split
  · rfl
  · rw [state_map]
    exact elapsed_ask _

theorem elapsed_take : (c.take tid).2.elapsed = c.elapsed := by
  unfold take
  split <;> rfl

theorem elapsed_start (t : Task) : (c.start tid t).2.elapsed = c.elapsed := by
  unfold start
  split
  · rfl
  · split <;> rfl

theorem elapsed_conclude (t : Task) (o : Outcome Json.Value) :
    (c.conclude tid t o).2.elapsed = c.elapsed := by
  unfold conclude
  split
  · rfl
  · rfl
  · split <;> rfl

theorem elapsed_stepDispatch (d : Dispatch) :
    (c.stepDispatch S tid d).state.elapsed = c.elapsed := by
  match d with
  | .arriving => rfl
  | .inLine =>
    rw [stepDispatch]
    split
    · exact elapsed_take
    · rfl
  | .holding t => exact elapsed_start t
  | .processing t (.done o) => exact (elapsed_conclude t o).trans (elapsed_settle true)
  | .processing t (.ask q next) =>
    rw [stepDispatch, state_map]
    exact elapsed_ask q
  | .following (.done _) => rfl
  | .following (.ask q next) =>
    rw [stepDispatch, state_map]
    exact elapsed_ask q
  | .done _ => rfl

theorem elapsed_pass? {stage : Stage} {stages : List Stage}
    (h : c.pass? stage = some (stages, c')) : c'.elapsed = c.elapsed := by
  obtain ⟨c₁, hpassed, rfl | ⟨t, rfl⟩⟩ := pass?_cases h
  · exact hpassed.elapsed
  · exact elapsed_signal.trans hpassed.elapsed

/-- A step takes no time. -/
theorem elapsed_step (choice : Nat) : (c.step S tid choice).2.elapsed = c.elapsed := by
  have hsteps := steps S c tid choice
  generalize (c.step S tid choice).2 = c' at hsteps ⊢
  cases hsteps with
  | stays => rfl
  | turns _ _ => rfl
  | works _ _ _ => exact elapsed_resume (elapsed_stepWork _ _)
  | dispatches _ _ _ => exact elapsed_resume (elapsed_stepDispatch _)
  | breaks _ _ => exact elapsed_breakOff _
  | passes _ hp =>
    have hpassed := elapsed_pass? hp
    exact hpassed

/-- No move turns the time back. -/
theorem le_elapsed_apply (m : Move ω) : c.elapsed ≤ (c.apply m).elapsed := by
  cases m with
  | step S tid choice => exact Nat.le_of_eq (elapsed_step choice).symm
  | receive w =>
    simp only [apply, receive]
    split <;> exact Nat.le_refl _
  | startQueue =>
    simp only [apply, startQueue]
    split <;> exact Nat.le_refl _
  | pass millis => exact Nat.le_add_right ..
  | _ => exact Nat.le_refl _

end GameFleet.Control
