import GameFleet.Proofs.Control.Frame

/-!
# What only stages change

A thread that goes on by itself changes the collaborators, how far draining has come, the queue, the
line, and itself. Whatever else there is changes when a stage is passed.

- `Control.Within`: a change of those parts.
- `Thread.Goes`: what a thread can go on as by itself.
- `Control.step_within`: a step is such a change, or passes a stage.
- `Control.processors_apply`: when it changes who processes tasks.
-/

namespace GameFleet

namespace Thread

/-- A thread is a ticker. -/
def IsTicker : Thread → Prop
  | ticking _ => True
  | _ => False

/-- The stages that a thread has to go through yet. -/
def stages : Thread → List Stage
  | staged stages _ => stages
  | _ => []

/-- What a thread can go on as by itself. A ticker goes on with what it was told, and ends when it
was told to stop, or because it broke off. A thread with stages to go through does not. -/
inductive Goes : Thread → Thread → Prop where
  | ticks (t t' : Ticker) (h : t'.stopping = t.stopping) : Goes (.ticking t) (.ticking t')
  | stops (t : Ticker) (h : t.stopping = true) : Goes (.ticking t) (.ended .stopped)
  | breaks (th : Thread) (hs : th.stages = []) : Goes th (.ended .panicked)
  | other (th th' : Thread) (h : ¬th.IsTicker) (h' : ¬th'.IsTicker) (hs : th.stages = [])
    (hs' : th'.stages = []) : Goes th th'

theorem Works.stages_eq {wrap : Work → Thread} (h : Works wrap) (w : Work) :
    (wrap w).stages = [] := by
  cases h <;> rfl

theorem Dispatches.stages_eq {wrap : Dispatch → Thread} (h : Dispatches wrap) (d : Dispatch) :
    (wrap d).stages = [] := by
  cases h <;> rfl

theorem Works.goes {wrap : Work → Thread} (h : Works wrap) (w w' : Work) :
    (wrap w).Goes (wrap w') := by
  cases h with
  | working tracked => exact .other _ _ id id rfl rfl
  | looping policy due stopping => exact .other _ _ id id rfl rfl

theorem Dispatches.goes {wrap : Dispatch → Thread} (h : Dispatches wrap) (d d' : Dispatch) :
    (wrap d).Goes (wrap d') := by
  cases h with
  | dispatching => exact .other _ _ id id rfl rfl
  | ticking due stopping => exact .ticks _ _ rfl

end Thread

namespace Control

variable {ω : Type} {S : Surroundings ω} {c c' c'' : Control ω} {tid choice : Nat}
  {th th' : Thread}

theorem Turn.goes {drain : Drain} (h : Turn S c choice th drain th') : th.Goes th' := by
  cases h with
  | rests => exact .ticks _ _ rfl
  | winds => exact .ticks _ _ rfl
  | ticks _ => exact .ticks _ _ rfl
  | stopsTicking h => exact .stops _ (Bool.and_eq_true_iff.mp h).1
  | _ => exact .other _ _ id id rfl rfl

/-- A change of the collaborators, of how far draining has come, of the queue and of the line. -/
def Within (c c' : Control ω) : Prop :=
  ∃ world drain queue line, c' = { c with world, drain, queue, line }

theorem Within.refl : Within c c := ⟨_, _, _, _, rfl⟩

theorem Within.trans (h : Within c c') (h' : Within c' c'') : Within c c'' := by
  obtain ⟨world, drain, queue, line, rfl⟩ := h
  obtain ⟨world', drain', queue', line', rfl⟩ := h'
  exact ⟨_, _, _, _, rfl⟩

theorem Within.threads (h : Within c c') : c'.threads = c.threads := by
  obtain ⟨_, _, _, _, rfl⟩ := h
  rfl

theorem Within.ticker (h : Within c c') : c'.ticker = c.ticker := by
  obtain ⟨_, _, _, _, rfl⟩ := h
  rfl

theorem Within.running (h : Within c c') : c'.running = c.running := by
  obtain ⟨_, _, _, _, rfl⟩ := h
  rfl

theorem Within.processors (h : Within c c') : c'.processors = c.processors := by
  obtain ⟨_, _, _, _, rfl⟩ := h
  rfl

theorem within_settle (tracked : Bool) : Within c (c.settle tracked) := by
  unfold settle
  split
  · exact ⟨_, _, _, _, rfl⟩
  · exact .refl

theorem within_ask (q : Request) : Within c (c.ask S tid q).state := by
  cases q with
  | call q =>
    simp only [ask]
    cases S.serve c.world tid c.elapsed q <;> exact ⟨_, _, _, _, rfl⟩
  | _ => exact ⟨_, _, _, _, rfl⟩

theorem within_stepWork (choice : Nat) (w : Work) : Within c (c.stepWork S tid choice w).state := by
  unfold stepWork
  split
  · exact .refl
  · rw [state_map]
    exact within_ask _

theorem within_take : Within c (c.take tid).2 := by
  unfold take
  split <;> exact ⟨_, _, _, _, rfl⟩

theorem within_start (t : Task) : Within c (c.start tid t).2 := by
  unfold start
  split
  · exact ⟨_, _, _, _, rfl⟩
  · split <;> exact ⟨_, _, _, _, rfl⟩

theorem within_conclude (t : Task) (o : Outcome Json.Value) : Within c (c.conclude tid t o).2 := by
  unfold conclude
  split
  · exact .refl
  · exact ⟨_, _, _, _, rfl⟩
  · split <;> exact ⟨_, _, _, _, rfl⟩

theorem within_stepDispatch (d : Dispatch) : Within c (c.stepDispatch S tid d).state := by
  match d with
  | .arriving => exact ⟨_, _, _, _, rfl⟩
  | .inLine =>
    rw [stepDispatch]
    split
    · exact within_take
    · exact .refl
  | .holding t => exact within_start t
  | .processing t (.done o) => exact (within_settle true).trans (within_conclude t o)
  | .processing t (.ask q next) =>
    rw [stepDispatch, state_map]
    exact within_ask q
  | .following (.done _) => exact ⟨_, _, _, _, rfl⟩
  | .following (.ask q next) =>
    rw [stepDispatch, state_map]
    exact within_ask q
  | .done _ => exact .refl

theorem within_breakOff (S : Surroundings ω) (c : Control ω) (tid : Nat) (e : Ending) :
    ∃ c₁, Within c c₁ ∧ (c.breakOff S tid e = c₁ ∨ c.breakOff S tid e = c₁.put tid (.ended e)) := by
  unfold breakOff
  split
  · exact ⟨c, .refl, .inl rfl⟩
  · split
    · exact ⟨c, .refl, .inl rfl⟩
    · have habandon : Within c { c with world := S.abandon c.world tid } := ⟨_, _, _, _, rfl⟩
      exact ⟨_, (habandon.trans (within_settle _)).trans ⟨_, _, _, _, rfl⟩, .inr rfl⟩

theorem within_resume {α : Type} {wrap : α → Thread} {x : Served α (Control ω)} (tid : Nat)
    (h : Within c x.state) (hs : th.stages = []) (hgoes : ∀ a, th.Goes (wrap a)) :
    ∃ c₁, Within c c₁ ∧ ((resume S tid wrap x).2 = c₁ ∨
      ∃ th', th.Goes th' ∧ (resume S tid wrap x).2 = c₁.put tid th') := by
  cases x with
  | answered a c₁ => exact ⟨c₁, h, .inr ⟨_, hgoes a, rfl⟩⟩
  | waiting c₁ => exact ⟨c₁, h, .inl rfl⟩
  | panicked c₁ =>
    obtain ⟨c₂, hwithin, heq⟩ := within_breakOff S c₁ tid .panicked
    exact ⟨c₂, Within.trans h hwithin, heq.imp_right fun heq => ⟨_, .breaks th hs, heq⟩⟩

/-- All that a step of a thread can change. -/
inductive Stepped (c : Control ω) (tid : Nat) : Control ω → Prop where
  | waits {c₁ : Control ω} (h : Within c c₁) : Stepped c tid c₁
  | goes {c₁ : Control ω} {th th' : Thread} (h : Within c c₁) (hth : c.threads[tid]? = some th)
    (hgoes : th.Goes th') : Stepped c tid (c₁.put tid th')
  | passes {stage : Stage} {rest stages : List Stage} {e : Ending} {c₁ : Control ω}
    (hth : c.threads[tid]? = some (.staged (stage :: rest) e))
    (hp : c.pass? stage = some (stages, c₁)) :
    Stepped c tid (c₁.put tid (.staged (stages ++ rest) e))

/-- A step changes nothing else. -/
theorem step_within (S : Surroundings ω) (c : Control ω) (tid choice : Nat) :
    Stepped c tid (c.step S tid choice).2 := by
  have hsteps := steps S c tid choice
  generalize (c.step S tid choice).2 = c' at hsteps ⊢
  cases hsteps with
  | stays => exact .waits .refl
  | turns hth h => exact .goes ⟨_, _, _, _, rfl⟩ hth h.goes
  | works hwrap hth _ =>
    obtain ⟨c₁, h, heq | ⟨th', hgoes, heq⟩⟩ :=
      within_resume (S := S) tid (within_stepWork choice _) (hwrap.stages_eq _)
        (hwrap.goes _)
    · exact heq ▸ .waits h
    · exact heq ▸ .goes h hth hgoes
  | dispatches hwrap hth _ =>
    obtain ⟨c₁, h, heq | ⟨th', hgoes, heq⟩⟩ :=
      within_resume (S := S) tid (within_stepDispatch _) (hwrap.stages_eq _) (hwrap.goes _)
    · exact heq ▸ .waits h
    · exact heq ▸ .goes h hth hgoes
  | breaks hth _ =>
    obtain ⟨c₁, h, heq | heq⟩ := within_breakOff S c tid .panicked
    · exact heq ▸ .waits h
    · exact heq ▸ .goes h hth (.breaks _ rfl)
  | passes hth hp => exact .passes hth hp

theorem processors_signal (t : Nat) : (c.signal t).processors = c.processors := by
  unfold signal
  split <;> rfl

/-- Who processes tasks changes only when somebody is registered. -/
theorem processors_apply (m : Move ω) :
    (c.apply m).processors = c.processors ∨ ∃ kind process, m = .register kind process := by
  cases m with
  | step S tid choice =>
    left
    have hstep := step_within S c tid choice
    simp only [apply]
    generalize (c.step S tid choice).2 = c' at hstep ⊢
    cases hstep with
    | waits h => exact h.processors
    | goes h _ _ => exact h.processors
    | passes _ hp =>
      obtain ⟨c₁, hpassed, rfl | ⟨t, rfl⟩⟩ := pass?_cases hp
      · exact hpassed.processors
      · exact (processors_signal t).trans hpassed.processors
  | register kind process => exact .inr ⟨kind, process, rfl⟩
  | receive w =>
    simp only [apply, receive]
    split <;> exact .inl rfl
  | startQueue =>
    simp only [apply, startQueue]
    split <;> exact .inl rfl
  | _ => exact .inl rfl

end Control

end GameFleet
