import GameFleet.Proofs.Control.Frame

/-!
# What a step does to the collaborators

Whatever a step of a thread asks the collaborators for, it asks in the name of that thread.

- `Control.Touches`: what requests of one thread may make of the collaborators.
- `Control.touches_step`: a step of a thread does no more to them.
-/

namespace GameFleet.Control

variable {ω : Type} {S : Surroundings ω} {c c' : Control ω} {tid : Nat}

/-- What requests of one thread may make of the collaborators. -/
inductive Touches (S : Surroundings ω) (tid : Nat) (w : ω) : ω → Prop where
  | same : Touches S tid w w
  | serves {w' : ω} (h : Touches S tid w w') (now : Nat) (q : Call) :
    Touches S tid w (S.serve w' tid now q).state
  | gives {w' : ω} (h : Touches S tid w w') : Touches S tid w (S.fresh w').2
  | abandons {w' : ω} (h : Touches S tid w w') : Touches S tid w (S.abandon w' tid)

theorem Touches.of_eq {w w' : ω} (h : w' = w) : Touches S tid w w' := h ▸ .same

@[simp] theorem world_settle (tracked : Bool) : (c.settle tracked).world = c.world := by
  unfold settle
  split <;> rfl

theorem touches_breakOff {w : ω} (h : Touches S tid w c.world) (e : Ending) :
    Touches S tid w (c.breakOff S tid e).world := by
  unfold breakOff
  split
  · exact h
  · rename_i th _
    split
    · exact h
    · show Touches S tid w ({ c with world := S.abandon c.world tid }.settle th.isTracked).world
      rw [world_settle]
      exact h.abandons

theorem world_signal : (c.signal tid).world = c.world := by
  unfold signal
  split <;> rfl

theorem touches_ask (q : Request) : Touches S tid c.world (c.ask S tid q).state.world := by
  cases q with
  | call q =>
    have h : Touches S tid c.world (S.serve c.world tid c.elapsed q).state :=
      .serves .same c.elapsed q
    simp only [ask]
    cases hserve : S.serve c.world tid c.elapsed q <;> (rw [hserve] at h; exact h)
  | now => exact .same
  | freshId => exact .gives .same
  | abandon => exact .abandons .same
  | isQueued kind payload => exact .same
  | enqueue o => exact .gives .same

theorem touches_resume {α : Type} {wrap : α → Thread} {x : Served α (Control ω)} {w : ω}
    (hx : Touches S tid w x.state.world) : Touches S tid w (resume S tid wrap x).2.world := by
  cases x with
  | answered a c' => exact hx
  | waiting c' => exact hx
  | panicked c' => exact touches_breakOff hx _

theorem touches_stepWork (choice : Nat) (w : Work) :
    Touches S tid c.world (c.stepWork S tid choice w).state.world := by
  unfold stepWork
  split
  · exact .same
  · rw [state_map]
    exact touches_ask _

theorem world_take : (c.take tid).2.world = c.world := by
  unfold take
  split <;> rfl

theorem world_start (t : Task) : (c.start tid t).2.world = c.world := by
  unfold start
  split
  · rfl
  · split <;> rfl

theorem world_conclude (t : Task) (o : Outcome Json.Value) :
    (c.conclude tid t o).2.world = c.world := by
  unfold conclude
  split
  · rfl
  · rfl
  · split <;> rfl

theorem touches_stepDispatch (d : Dispatch) :
    Touches S tid c.world (c.stepDispatch S tid d).state.world := by
  match d with
  | .arriving => exact .same
  | .inLine =>
    rw [stepDispatch]
    split
    · exact .of_eq world_take
    · exact .same
  | .holding t => exact .of_eq (world_start t)
  | .processing t (.done o) => exact .of_eq ((world_conclude t o).trans (world_settle true))
  | .processing t (.ask q next) =>
    rw [stepDispatch, state_map]
    exact touches_ask q
  | .following (.done _) => exact .same
  | .following (.ask q next) =>
    rw [stepDispatch, state_map]
    exact touches_ask q
  | .done _ => exact .same

theorem world_pass? {stage : Stage} {stages : List Stage}
    (h : c.pass? stage = some (stages, c')) : c'.world = c.world := by
  obtain ⟨c₁, hpassed, rfl | ⟨t, rfl⟩⟩ := pass?_cases h
  · exact hpassed.world
  · exact world_signal.trans hpassed.world

/-- A step of a thread does no more to the collaborators than requests of that thread. -/
theorem touches_step (choice : Nat) : Touches S tid c.world (c.step S tid choice).2.world := by
  have hsteps := steps S c tid choice
  generalize (c.step S tid choice).2 = c' at hsteps ⊢
  cases hsteps with
  | stays => exact .same
  | turns _ _ => exact .same
  | works _ _ _ => exact touches_resume (touches_stepWork _ _)
  | dispatches _ _ _ => exact touches_resume (touches_stepDispatch _)
  | breaks _ _ => exact touches_breakOff .same _
  | passes _ hp =>
    have hw := world_pass? hp
    exact .of_eq hw

end GameFleet.Control
