import GameFleet.Proofs.Control.Part
import GameFleet.Proofs.Queue.Deeds

/-!
# What threads ask for

With a step a thread asks for one thing at most. What work goes on in a thread comes with it, or
starts as a cycle of a loop, and goes on with what it is answered.

- `Thread.question?`, `Control.question?`: what is asked for with a step, and with a move.
- `Thread.work?`, `Control.work?`: the work in a thread.
- `Control.question?_cases`: who asks.
- `Control.work?_step`, `Control.work?_of_brings`: where the work of a thread comes from.
-/

namespace GameFleet

variable {ω : Type}

/-- What work asks for with a step. -/
def Work.question? (choice : Nat) (w : Work) : Option Request := (w.pose? choice).map Sigma.fst

/-- What a dispatch asks for with a step. -/
def Dispatch.question? : Dispatch → Option Request
  | processing _ (.ask q _) => some q
  | following (.ask q _) => some q
  | _ => none

namespace Thread

variable {choice : Nat}

/-- What a thread asks for with a step. -/
def question? (choice : Nat) : Thread → Option Request
  | working _ w => w.question? choice
  | looping l => l.current.bind (Work.question? choice)
  | dispatching d => d.question?
  | ticking t => t.current.bind Dispatch.question?
  | _ => none

/-- The work in a thread, whether or not it has started. -/
def work? : Thread → Option Work
  | arriving _ w => some w
  | working _ w => some w
  | looping l => l.current
  | _ => none

theorem work?_signalled (th : Thread) : th.signalled.work? = th.work? := by
  cases th <;> rfl

theorem Works.question? {wrap : Work → Thread} (h : Works wrap) (w : Work) :
    (wrap w).question? choice = w.question? choice := by
  cases h <;> rfl

theorem Works.work? {wrap : Work → Thread} (h : Works wrap) (w : Work) :
    (wrap w).work? = some w := by
  cases h <;> rfl

theorem Dispatches.question? {wrap : Dispatch → Thread} (h : Dispatches wrap) (d : Dispatch) :
    (wrap d).question? choice = d.question? := by
  cases h <;> rfl

theorem Dispatches.work? {wrap : Dispatch → Thread} (h : Dispatches wrap) (d : Dispatch) :
    (wrap d).work? = none := by
  cases h <;> rfl

end Thread

namespace Control

/-- What is asked for with a move. -/
def question? (c : Control ω) : Move ω → Option Request
  | .step _ k choice => part? (Thread.question? choice) c k
  | _ => none

/-- The work in the thread with a number. -/
def work? (c : Control ω) (k : Nat) : Option Work := part? Thread.work? c k

variable {S : Surroundings ω} {c : Control ω} {k : Nat} {w : Work}

/-- A step of a thread leaves its work as it was, and the queue; or the work goes on with what it is
answered; or a cycle of a loop starts. -/
theorem work?_step {choice : Nat} (hS : ∀ w tid now q w', S.serve w tid now q ≠ .panicked w')
    (h : (c.step S k choice).2.work? k = some w) :
    (c.work? k = some w ∧ (c.step S k choice).2.queue = c.queue) ∨
    (∃ w₀ q next a c', c.work? k = some w₀ ∧ w₀.pose? choice = some ⟨q, next⟩ ∧
      c.question? (.step S k choice) = some q ∧ c.ask S k q = .answered a c' ∧ w = next a) ∨
    ∃ policy, w = .ofPolicy policy S.settings := by
  have hsteps := steps S c k choice
  generalize (c.step S k choice).2 = c₁ at hsteps h
  cases hsteps with
  | stays => exact .inl ⟨h, rfl⟩
  | turns hth hturn =>
    have hw := of_part?_put h
    cases hturn with
    | enters _ => exact .inl ⟨(part?_at hth).trans hw, rfl⟩
    | starts => exact .inl ⟨(part?_at hth).trans hw, rfl⟩
    | cycles _ _ => exact .inr (.inr ⟨_, (Option.some.inj hw).symm⟩)
    | _ => cases hw
  | @works wrap w₀ hwrap hth _ =>
    have hw₀ : c.work? k = some w₀ := (part?_at hth).trans (hwrap.work? w₀)
    have hquestion : c.question? (.step S k choice) = w₀.question? choice :=
      (part?_at hth).trans (hwrap.question? w₀)
    unfold stepWork at h ⊢
    cases hpose : w₀.pose? choice with
    | none =>
      rw [hpose] at h
      exact .inl ⟨h, rfl⟩
    | some p =>
      obtain ⟨q, next⟩ := p
      rw [hpose] at h
      dsimp only at h ⊢
      obtain ⟨a, c', hask, -⟩ | ⟨c', hask, hasked, hq⟩ := ask_cases hS c k q
      · rw [hask] at h
        have hw := of_part?_put h
        rw [hwrap.work?] at hw
        refine .inr (.inl ⟨w₀, q, next, a, c', hw₀, hpose, ?_, hask, (Option.some.inj hw).symm⟩)
        rw [hquestion, Work.question?, hpose, Option.map_some]
      · rw [hask] at h ⊢
        refine .inl ⟨?_, hq⟩
        change part? Thread.work? c' k = some w at h
        unfold part? at h
        rwa [hasked.threads] at h
  | @dispatches wrap d hwrap hth _ =>
    obtain h | ⟨d', c', -, hw⟩ := of_part?_resume (fun _ => rfl) (threads_stepDispatch d) h
    · rw [part?_at hth, hwrap.work?] at h
      cases h
    · rw [hwrap.work?] at hw
      cases hw
  | breaks hth _ =>
    have hw := of_part?_breakOff (fun _ => rfl) h
    rw [part?_at hth] at hw
    cases hw
  | passes _ _ => cases of_part?_put h

/-- What is asked for is asked for by work or by a dispatch. -/
theorem question?_cases {m : Move ω} {q : Request} (h : c.question? m = some q) :
    ∃ S k choice, m = .step S k choice ∧
      ((∃ w next, c.work? k = some w ∧ w.pose? choice = some ⟨q, next⟩) ∨
        ∃ d, c.dispatch? k = some d ∧ d.question? = some q) := by
  cases m with
  | step S k choice =>
    refine ⟨S, k, choice, rfl, ?_⟩
    obtain ⟨th, hth, hq⟩ := Option.bind_eq_some_iff.mp h
    have hwork : ∀ {w : Work}, th.work? = some w → w.question? choice = some q →
        ∃ w next, c.work? k = some w ∧ w.pose? choice = some ⟨q, next⟩ := by
      intro w hw hq
      obtain ⟨⟨_, next⟩, hpose, rfl⟩ := Option.map_eq_some_iff.mp hq
      exact ⟨w, next, (part?_at hth).trans hw, hpose⟩
    cases th with
    | working tracked w => exact .inl (hwork rfl hq)
    | looping l =>
      obtain ⟨w, hw, hq⟩ := Option.bind_eq_some_iff.mp hq
      exact .inl (hwork hw hq)
    | dispatching d => exact .inr ⟨d, dispatch?_at hth, hq⟩
    | ticking t =>
      obtain ⟨d, hd, hq⟩ := Option.bind_eq_some_iff.mp hq
      exact .inr ⟨d, (dispatch?_at hth).trans hd, hq⟩
    | arriving tracked w => cases hq
    | staged stages e => cases hq
    | ended e => cases hq
  | _ => cases h

/-- The work that a move brings with a thread. -/
theorem work?_of_brings {m : Move ω} {th : Thread} (hm : m.brings? = some th)
    (hw : th.work? = some w) : (∃ tracked, m = .begin tracked w) ∨ m = .receive w := by
  cases m <;> cases hm <;> cases hw
  · exact .inl ⟨_, rfl⟩
  · exact .inr rfl

end Control

end GameFleet
