import GameFleet.Proofs.Control.Part
import GameFleet.Proofs.Queue.Deeds

/-!
# The course of dispatches

A dispatch comes, and after that it is only changed by the steps of its thread. The run of a task
and what follows a task are programs that start once and then are answered, question by question.

- `Program.GoesOn`: a program has been answered once at most.
- `Control.dispatch?_apply`: what a move does to the dispatch of a thread.
- `Control.step_of_dispatch`, `Control.step_of_answered`: a step of a thread in a dispatch is a step
  of the dispatch.
- `Dispatch.Leads`: all that a step of a dispatch leads to.
- `Control.processing_apply`, `Control.following_apply`: the programs start once and go on.
- `Deed.dispatch?`: how far a dispatch has come that does something with a task;
  `Control.step_of_deed`: it is the one that does it.
-/

namespace GameFleet

/-- A program is as it was, or it has been answered once. -/
def Program.GoesOn {Q : Type} {A : Q → Type} {α : Type} (p p' : Program Q A α) : Prop :=
  p' = p ∨ ∃ q next a, p = .ask q next ∧ p' = next a

theorem Thread.dispatch?_signalled (th : Thread) : th.signalled.dispatch? = th.dispatch? := by
  cases th <;> rfl

namespace Control

variable {ω : Type} {S : Surroundings ω} {c c' : Control ω} {k : Nat} {th : Thread}
  {d d₀ : Dispatch}

/-- A step of a thread leaves its dispatch as it was, or begins one, or is a step of it. -/
theorem dispatch?_step {choice : Nat} (h : (c.step S k choice).2.dispatch? k = some d) :
    c.dispatch? k = some d ∨ d = .arriving ∨
      ∃ d₀ c', c.dispatch? k = some d₀ ∧ c.stepDispatch S k d₀ = .answered d c' := by
  have hsteps := steps S c k choice
  generalize (c.step S k choice).2 = c₁ at hsteps h
  cases hsteps with
  | stays => exact .inl h
  | turns hth hturn =>
    have hd := of_part?_put h
    cases hturn with
    | ticks _ => exact .inr (.inl (Option.some.inj hd).symm)
    | _ => cases hd
  | works hwrap _ _ =>
    obtain h | ⟨w, c', -, hd⟩ := of_part?_resume (fun _ => rfl) (threads_stepWork _ _) h
    · exact .inl h
    · rw [hwrap.dispatch?] at hd
      cases hd
  | @dispatches wrap d₀ hwrap hth _ =>
    obtain h | ⟨d', c', hx, hd⟩ := of_part?_resume (fun _ => rfl) (threads_stepDispatch d₀) h
    · exact .inl h
    · rw [hwrap.dispatch?] at hd
      cases hd
      exact .inr (.inr ⟨d₀, c', (dispatch?_at hth).trans (hwrap.dispatch? d₀), hx⟩)
  | breaks _ _ => exact .inl (of_part?_breakOff (fun _ => rfl) h)
  | passes _ _ => cases of_part?_put h

/-- A thread that comes with a dispatch is yet to begin it. -/
theorem dispatch?_of_brings {m : Move ω} (hm : m.brings? = some th) (hd : th.dispatch? = some d) :
    d = .arriving := by
  cases m <;> cases hm <;> cases hd
  rfl

/-- A move leaves a dispatch as it was, or begins it, or is a step of its thread. -/
theorem dispatch?_apply {m : Move ω} (h : (c.apply m).dispatch? k = some d) :
    c.dispatch? k = some d ∨ d = .arriving ∨
      ∃ S choice d₀ c', m = .step S k choice ∧ c.dispatch? k = some d₀ ∧
        c.stepDispatch S k d₀ = .answered d c' := by
  obtain ⟨h, -⟩ | ⟨th, hm, hd⟩ | ⟨S, choice, rfl⟩ := part?_apply Thread.dispatch?_signalled h
  · exact .inl h
  · exact .inr (.inl (dispatch?_of_brings hm hd))
  · obtain h | h | ⟨d₀, c', hd₀, hx⟩ := dispatch?_step h
    · exact .inl h
    · exact .inr (.inl h)
    · exact .inr (.inr ⟨S, choice, d₀, c', rfl, hd₀, hx⟩)

end Control

/-! ### Steps of a dispatch -/

/-- What a dispatch can be after a step of it. -/
inductive Dispatch.Leads : Dispatch → Dispatch → Prop where
  | joins : Leads arriving inLine
  | takes (t : Task) : Leads inLine (holding t)
  | leaves : Leads inLine (done false)
  | starts (t : Task) (p : Running Json.Value) : Leads (holding t) (processing t p)
  | lays (t : Task) : Leads (holding t) (done true)
  | processes (t : Task) {q : Request} (next : q.Answer → Running Json.Value) (a : q.Answer) :
    Leads (processing t (.ask q next)) (processing t (next a))
  | concludes (t : Task) (o : Outcome Json.Value) (p : Running Unit) :
    Leads (processing t (.done o)) (following p)
  | returns (t : Task) (o : Outcome Json.Value) : Leads (processing t (.done o)) (done true)
  | follows {q : Request} (next : q.Answer → Running Unit) (a : q.Answer) :
    Leads (following (.ask q next)) (following (next a))
  | ends (o : Outcome Unit) : Leads (following (.done o)) (done true)

namespace Control

variable {ω : Type} {S : Surroundings ω} {c c' : Control ω} {k : Nat} {t : Task}
  {d d₀ : Dispatch} {m : Move ω}

/-! ### Steps of a thread -/

/-- A step of a thread in a dispatch that goes on is a step of the dispatch. -/
theorem step_of_dispatch (hd : c.dispatch? k = some d) (hgoes : ∀ took, d ≠ .done took)
    (S : Surroundings ω) (choice : Nat) : ∃ wrap : Dispatch → Thread,
      (∀ d, (wrap d).dispatch? = some d) ∧
      c.step S k choice = resume S k wrap (c.stepDispatch S k d) := by
  obtain ⟨th, hth, hd⟩ := Option.bind_eq_some_iff.mp hd
  unfold step
  rw [hth]
  cases th with
  | dispatching d' =>
    obtain rfl := Option.some.inj hd
    refine ⟨.dispatching, fun _ => rfl, ?_⟩
    cases d' with
    | done took => exact absurd rfl (hgoes took)
    | _ => rfl
  | ticking ticker =>
    obtain ⟨due, stopping, current⟩ := ticker
    obtain rfl : current = some d := hd
    refine ⟨fun d => .ticking ⟨due, stopping, some d⟩, fun _ => rfl, ?_⟩
    cases d with
    | done took => exact absurd rfl (hgoes took)
    | _ => rfl
  | _ => cases hd

theorem lt_length_of_dispatch? (hd : c.dispatch? k = some d) : k < c.threads.length := by
  obtain ⟨th, hth, -⟩ := Option.bind_eq_some_iff.mp hd
  exact (List.getElem?_eq_some_iff.mp hth).1

/-- A dispatch that is answered is where the answer leads after a step of its thread, and so is the
queue. -/
theorem step_of_answered (hd : c.dispatch? k = some d₀) (hgoes : ∀ took, d₀ ≠ .done took)
    (h : c.stepDispatch S k d₀ = .answered d c') (choice : Nat) :
    (c.step S k choice).2.dispatch? k = some d ∧ (c.step S k choice).2.queue = c'.queue := by
  obtain ⟨wrap, hwrap, hstep⟩ := step_of_dispatch hd hgoes S choice
  have hthreads : (c.stepDispatch S k d₀).state.threads = c.threads := threads_stepDispatch d₀
  rw [h] at hthreads
  rw [hstep, h]
  refine ⟨?_, rfl⟩
  show (c'.put k (wrap d)).dispatch? k = _
  refine (dispatch?_at ?_).trans (hwrap d)
  refine List.getElem?_set_self ?_
  exact hthreads ▸ lt_length_of_dispatch? hd

/-! ### What comes of it -/

theorem leads_of_ask {q : Request} {next : q.Answer → Dispatch}
    (hnext : ∀ a, d₀.Leads (next a)) (h : (c.ask S k q).map next id = .answered d c') :
    d₀.Leads d := by
  obtain ⟨a, -, -, rfl, -⟩ := Served.of_map_eq_answered h
  exact hnext a

theorem leads_take : Dispatch.inLine.Leads (c.take k).1 := by
  unfold take
  split
  · exact .leaves
  · exact .takes _

theorem leads_start : (Dispatch.holding t).Leads (c.start k t).1 := by
  unfold start
  split
  · exact .lays t
  · split
    · exact .lays t
    · exact .starts t _

theorem leads_conclude (o : Outcome Json.Value) :
    (Dispatch.processing t (.done o)).Leads (c.conclude k t o).1 := by
  unfold conclude
  split
  · rw [follow_eq]
    exact .concludes ..
  · exact .returns ..
  · split
    · exact .returns ..
    · rw [follow_eq]
      exact .concludes ..

theorem leads_stepDispatch (h : c.stepDispatch S k d₀ = .answered d c') : d₀.Leads d := by
  match d₀, h with
  | .arriving, h =>
    cases h
    exact .joins
  | .inLine, h =>
    rw [stepDispatch] at h
    split at h
    · cases h
      exact leads_take
    · cases h
  | .holding t, h =>
    cases h
    exact leads_start
  | .processing t (.done o), h =>
    cases h
    exact leads_conclude o
  | .processing t (.ask q next), h => exact leads_of_ask (.processes t next) h
  | .following (.done o), h =>
    cases h
    exact .ends o
  | .following (.ask q next), h => exact leads_of_ask (.follows next) h
  | .done took, h => cases h

/-- The run of a task starts once, and goes on. -/
theorem processing_apply {p : Running Json.Value}
    (h : (c.apply m).dispatch? k = some (.processing t p)) :
    (∃ p', c.dispatch? k = some (.processing t p') ∧ p'.GoesOn p) ∨
      c.deed? m = some (.ran t p) := by
  obtain hsame | harriving | ⟨S, choice, d₀, c', rfl, hd₀, hx⟩ := dispatch?_apply h
  · exact .inl ⟨p, hsame, .inl rfl⟩
  · cases harriving
  · cases leads_stepDispatch hx with
    | starts =>
      right
      change (c.step S k choice).2.dispatch? k = _ at h
      rw [deed?, hd₀, h]
      rfl
    | processes _ next a => exact .inl ⟨_, hd₀, .inr ⟨_, next, a, rfl, rfl⟩⟩

/-- What follows a task starts once, when the task ends, and goes on. -/
theorem following_apply {p : Running Unit}
    (h : (c.apply m).dispatch? k = some (.following p)) :
    (∃ p', c.dispatch? k = some (.following p') ∧ p'.GoesOn p) ∨
      ∃ t o, c.deed? m = some (.ended t o p) := by
  obtain hsame | harriving | ⟨S, choice, d₀, c', rfl, hd₀, hx⟩ := dispatch?_apply h
  · exact .inl ⟨p, hsame, .inl rfl⟩
  · cases harriving
  · cases leads_stepDispatch hx with
    | concludes t o _ =>
      right
      refine ⟨t, o, ?_⟩
      change (c.step S k choice).2.dispatch? k = _ at h
      rw [deed?, hd₀, h]
      rfl
    | follows next a => exact .inl ⟨_, hd₀, .inr ⟨_, next, a, rfl, rfl⟩⟩

end Control

/-! ### Who does what -/

namespace Deed

/-- How far a dispatch has come that does something with a task: it holds the task until a run of it
starts, and then processes it until the run has ended. -/
def dispatch? : Deed → Option Dispatch
  | came _ => none
  | ran t _ => some (.holding t)
  | back t _ none => some (.holding t)
  | back t _ (some o) => some (.processing t (.done o))
  | dropped t none => some (.holding t)
  | dropped t (some o) => some (.processing t (.done o))
  | ended t o _ => some (.processing t (.done o))

theorem dispatch?_of_seen {before after : Option Dispatch} {new : Option Task} {e : Deed}
    {d : Dispatch} (h : seen before after new = some e) (hd : e.dispatch? = some d) :
    before = some d := by
  unfold seen at h
  split at h
  · cases h
    exact hd
  · cases new <;> cases h <;> exact hd
  · cases new <;> cases h <;> exact hd
  · cases h
    exact hd
  · -- Otherwise a task comes at most.
    cases new <;> cases h
    cases hd

/-- Where a dispatch holds a task afterwards, a task comes at most. -/
theorem seen_holding (before : Option Dispatch) (t : Task) (new : Option Task) :
    seen before (some (.holding t)) new = new.map .came := by
  unfold seen
  split <;> first | rfl | (rename_i h; cases h)

/-- Where a dispatch goes on to process a task, a task comes at most. -/
theorem seen_processing (t t' : Task) (p p' : Running Json.Value) (new : Option Task) :
    seen (some (.processing t p)) (some (.processing t' p')) new = new.map .came := by
  cases p <;> rfl

end Deed

/-- What is done with a task that a dispatch has in hand is done by a step of it. -/
theorem Control.step_of_deed {ω : Type} {c : Control ω} {m : Move ω} {d : Dispatch} {e : Deed}
    (h : c.deed? m = some e) (hd : e.dispatch? = some d) :
    ∃ S k choice, m = .step S k choice ∧ c.dispatch? k = some d := by
  have hcame : ∀ {new : Option Task}, new.map Deed.came ≠ some e := by
    intro new hnew
    cases new <;> cases hnew
    cases hd
  cases m with
  | step S k choice => exact ⟨S, k, choice, rfl, Deed.dispatch?_of_seen h hd⟩
  | _ => exact absurd h hcame

end GameFleet
