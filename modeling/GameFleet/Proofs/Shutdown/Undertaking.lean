import GameFleet.Proofs.Queue.Course

/-!
# What threads undertake

A thread undertakes an operation, a cycle, the run of a task, or what follows a task. These go on
question by question until they are over, and the run of a task may lead to what follows the task.

- `Undertaking`: what a thread undertakes; `Undertaking.Proceeds` and `Undertaking.IsOver`: how it
  goes on, and when nothing of it is left to do.
- `Control.Undertakes`: all that can happen to what a thread undertakes at once;
  `Control.undertakes_apply`: it is all.
- `Control.CarriesOut`: what a thread undertakes is not given up before it is over.
-/

namespace GameFleet

/-- What a thread undertakes. -/
inductive Undertaking where
  /-- An operation or a cycle. -/
  | work (w : Work)
  /-- The run of a task. -/
  | run (t : Task) (p : Running Json.Value)
  /-- What follows a task. -/
  | sequel (p : Running Unit)

namespace Undertaking

/-- An undertaking goes on: a question is answered, or the run of a task leads to what follows the
task on success, or on error after the last run. -/
inductive Proceeds : Undertaking → Undertaking → Prop where
  | works {w : Work} {choice : Nat} {q : Request} {next : q.Answer → Work}
    (h : w.pose? choice = some ⟨q, next⟩) (a : q.Answer) : Proceeds (.work w) (.work (next a))
  | runs (t : Task) {q : Request} (next : q.Answer → Running Json.Value) (a : q.Answer) :
    Proceeds (.run t (.ask q next)) (.run t (next a))
  | succeeds (t : Task) (v : Json.Value) :
    Proceeds (.run t (.done (.ok v))) (.sequel (FollowUp.after t.onSuccess (.ok v)))
  | fails {t : Task} {f : Failure} (hf : f ≠ .shuttingDown) (hlast : t.policy.maxRuns ≤ t.attempt) :
    Proceeds (.run t (.done (.error f))) (.sequel (FollowUp.after t.onError (.error f)))
  | follows {q : Request} (next : q.Answer → Running Unit) (a : q.Answer) :
    Proceeds (.sequel (.ask q next)) (.sequel (next a))

/-- Nothing of an undertaking is left to do. Nothing follows a task that is to be run again. -/
inductive IsOver : Undertaking → Prop where
  | worked {w : Work} {o : Outcome Yield} (h : w.outcome? = some o) : IsOver (.work w)
  | isRefused (t : Task) : IsOver (.run t (.done (.error .shuttingDown)))
  | retries {t : Task} (f : Failure) (h : t.attempt < t.policy.maxRuns) :
    IsOver (.run t (.done (.error f)))
  | followed (o : Outcome Unit) : IsOver (.sequel (.done o))

end Undertaking

/-- What a dispatch undertakes. -/
def Dispatch.undertaking? : Dispatch → Option Undertaking
  | processing t p => some (.run t p)
  | following p => some (.sequel p)
  | _ => none

namespace Thread

/-- What a thread undertakes. -/
def undertaking? : Thread → Option Undertaking
  | working _ w => some (.work w)
  | dispatching d => d.undertaking?
  | ticking t => t.current.bind Dispatch.undertaking?
  | looping l => l.current.map .work
  | _ => none

theorem undertaking?_signalled (th : Thread) : th.signalled.undertaking? = th.undertaking? := by
  cases th <;> rfl

theorem Works.undertaking? {wrap : Work → Thread} (h : Works wrap) (w : Work) :
    (wrap w).undertaking? = some (.work w) := by
  cases h <;> rfl

theorem Dispatches.undertaking? {wrap : Dispatch → Thread} (h : Dispatches wrap) (d : Dispatch) :
    (wrap d).undertaking? = d.undertaking? := by
  cases h <;> rfl

end Thread

namespace Control

variable {ω : Type}

/-- What the thread with a number undertakes. -/
def undertaking? (c : Control ω) (k : Nat) : Option Undertaking :=
  c.threads[k]?.bind Thread.undertaking?

/-- All that can happen to what a thread undertakes at once. Nothing is begun once draining has
begun. -/
inductive Undertakes (c : Control ω) : Option Undertaking → Option Undertaking → Prop where
  | rests (u : Option Undertaking) : Undertakes c u u
  | begins (hd : c.drain.draining = false) (u : Undertaking) : Undertakes c none (some u)
  | proceeds {u u' : Undertaking} (h : u.Proceeds u') : Undertakes c (some u) (some u')
  | ends {u : Undertaking} (h : u.IsOver) : Undertakes c (some u) none

/-- What a thread undertakes is undertaken after each of some moves too, and goes on meanwhile. -/
inductive Pursues (c : Control ω) (k : Nat) (u : Undertaking) :
    List (Move ω) → Undertaking → Prop where
  | here (h : c.undertaking? k = some u) : Pursues c k u [] u
  | on {m : Move ω} {ms : List (Move ω)} {u' u'' : Undertaking} (h : Pursues c k u ms u')
    (hu : (c.after (m :: ms)).undertaking? k = some u'') (hp : u'' = u' ∨ u'.Proceeds u'') :
    Pursues c k u (m :: ms) u''

/-- What a thread undertakes is undertaken until it is over. -/
def CarriesOut (c : Control ω) (k : Nat) (u : Undertaking) (later : List (Move ω)) : Prop :=
  ∃ ms earlier u', later = ms ++ earlier ∧ c.Pursues k u earlier u' ∧ u'.IsOver

variable {S : Surroundings ω} {c c' c₁ : Control ω} {k choice : Nat} {th th' : Thread}
  {d d' : Dispatch} {t : Task} {u : Undertaking}

theorem undertaking_at (h : c.threads[k]? = some th) : c.undertaking? k = th.undertaking? := by
  unfold undertaking?
  rw [h, Option.bind_some]

theorem undertaking_put (hth : c.threads[k]? = some th) (hc : c₁.threads = c.threads) :
    (c₁.put k th').undertaking? k = th'.undertaking? := by
  refine undertaking_at ?_
  have hlt : k < c₁.threads.length := hc ▸ (List.getElem?_eq_some_iff.mp hth).1
  exact List.getElem?_set_self hlt

theorem undertaking_put_eq_none (h : th'.undertaking? = none) :
    (c₁.put k th').undertaking? k = none := by
  unfold undertaking?
  show (c₁.threads.set k th')[k]?.bind Thread.undertaking? = none
  by_cases hlt : k < c₁.threads.length
  · rw [List.getElem?_set_self hlt, Option.bind_some, h]
  · rw [List.getElem?_eq_none (by rw [List.length_set]; exact Nat.le_of_not_lt hlt)]
    rfl

theorem Leaves.undertaking? (h : Leaves k c c') : c'.undertaking? k = c.undertaking? k := by
  unfold Control.undertaking?
  obtain h | h := h
  · rw [h]
  · rw [h, Option.bind_map]
    congr 1
    funext th
    exact th.undertaking?_signalled

/-! ### Steps -/

theorem Turn.undertakes {drain : Drain} (h : Turn S c choice th drain th')
    (hth : ∀ w, th ≠ .arriving false w) : Undertakes c th.undertaking? th'.undertaking? := by
  cases h with
  | enters h => exact .begins (draining_of_enter? h) _
  | starts => exact absurd rfl (hth _)
  | finishes h => exact .ends (.worked h)
  | endsCycle h => exact .ends (.worked h)
  | cycles _ h => exact .begins (draining_of_enter? h) _
  | _ => exact .rests _

/-- Who asks for something goes on when he is answered, or waits. -/
theorem undertakes_resume {α : Type} {wrap : α → Thread} {x : Served α (Control ω)}
    (hth : c.threads[k]? = some th) (hx : x.state.threads = c.threads)
    (hsteady : ∀ c₁, x ≠ .panicked c₁)
    (h : ∀ a c₁, x = .answered a c₁ → Undertakes c th.undertaking? (wrap a).undertaking?) :
    Undertakes c th.undertaking? ((resume S k wrap x).2.undertaking? k) := by
  cases x with
  | answered a c₁ =>
    have hafter : (c₁.put k (wrap a)).undertaking? k = (wrap a).undertaking? :=
      undertaking_put hth hx
    show Undertakes c _ ((c₁.put k (wrap a)).undertaking? k)
    rw [hafter]
    exact h a c₁ rfl
  | waiting c₁ =>
    have hleaves : Leaves k c c₁ := .of_threads hx
    have hsame : c₁.undertaking? k = th.undertaking? := by
      rw [hleaves.undertaking?, undertaking_at hth]
    show Undertakes c _ (c₁.undertaking? k)
    rw [hsame]
    exact .rests _
  | panicked c₁ => exact absurd rfl (hsteady c₁)

/-- Among steady surroundings nobody breaks off who asks. -/
theorem map_ask_ne_panicked {α : Type} (hS : ∀ w tid now q w', S.serve w tid now q ≠ .panicked w')
    (q : Request) (next : q.Answer → α) (c₁ : Control ω) :
    (c.ask S k q).map next id ≠ .panicked c₁ := by
  intro h
  obtain ⟨a, c', hask, -⟩ | ⟨c', hask, -⟩ := ask_cases hS c k q
  · rw [hask] at h
    cases h
  · rw [hask] at h
    cases h

theorem stepWork_ne_panicked (hS : ∀ w tid now q w', S.serve w tid now q ≠ .panicked w') (w : Work)
    (c₁ : Control ω) : c.stepWork S k choice w ≠ .panicked c₁ := by
  unfold stepWork
  split
  · exact nofun
  · exact map_ask_ne_panicked hS _ _ c₁

theorem stepDispatch_ne_panicked (hS : ∀ w tid now q w', S.serve w tid now q ≠ .panicked w')
    (d : Dispatch) (c₁ : Control ω) : c.stepDispatch S k d ≠ .panicked c₁ := by
  have hanswered : ∀ (d' : Dispatch) (c' : Control ω), Served.answered d' c' ≠ .panicked c₁ := by
    intro d' c' h
    cases h
  have hwaiting : (Served.waiting c : Served Dispatch (Control ω)) ≠ .panicked c₁ := by
    intro h
    cases h
  cases d with
  | arriving => exact hanswered _ _
  | inLine =>
    rw [stepDispatch]
    split
    · exact hanswered _ _
    · exact hwaiting
  | holding t => exact hanswered _ _
  | processing t p =>
    cases p with
    | done o => exact hanswered _ _
    | ask q next => exact map_ask_ne_panicked hS q _ c₁
  | following p =>
    cases p with
    | done o => exact hanswered _ _
    | ask q next => exact map_ask_ne_panicked hS q _ c₁
  | done took => exact hwaiting

theorem proceeds_stepWork {w w' : Work} (h : c.stepWork S k choice w = .answered w' c') :
    (Undertaking.work w).Proceeds (.work w') := by
  unfold stepWork at h
  split at h
  · cases h
  · rename_i q next hpose
    obtain ⟨a, -, -, rfl, -⟩ := Served.of_map_eq_answered h
    exact .works hpose a

theorem undertakes_take : Undertakes c none (c.take k).1.undertaking? := by
  unfold take
  split <;> exact .rests _

theorem undertakes_start : Undertakes c none (c.start k t).1.undertaking? := by
  unfold start
  split
  · exact .rests _
  · split
    · exact .rests _
    · rename_i h
      exact .begins (draining_of_enter? h) _

theorem undertakes_conclude (o : Outcome Json.Value) :
    Undertakes c (some (.run t (.done o))) (c₁.conclude k t o).1.undertaking? := by
  unfold conclude
  split
  · rw [follow_eq]
    exact .proceeds (.succeeds t _)
  · exact .ends (.isRefused t)
  · rename_i f hf
    split
    · rename_i hmore
      exact .ends (.retries f hmore)
    · rename_i hlast
      rw [follow_eq]
      exact .proceeds (.fails hf (Nat.le_of_not_lt hlast))

/-- A step of a dispatch. -/
theorem undertakes_stepDispatch (h : c.stepDispatch S k d = .answered d' c') :
    Undertakes c d.undertaking? d'.undertaking? := by
  match d, h with
  | .arriving, h =>
    cases h
    exact .rests _
  | .inLine, h =>
    rw [stepDispatch] at h
    split at h
    · cases h
      exact undertakes_take
    · cases h
  | .holding t, h =>
    cases h
    exact undertakes_start
  | .processing t (.done o), h =>
    cases h
    exact undertakes_conclude o
  | .processing t (.ask q next), h =>
    rw [stepDispatch] at h
    obtain ⟨a, -, -, rfl, -⟩ := Served.of_map_eq_answered h
    exact .proceeds (.runs t next a)
  | .following (.done o), h =>
    cases h
    exact .ends (.followed o)
  | .following (.ask q next), h =>
    rw [stepDispatch] at h
    obtain ⟨a, -, -, rfl, -⟩ := Served.of_map_eq_answered h
    exact .proceeds (.follows next a)
  | .done took, h => cases h

/-- A step of a thread. -/
theorem undertakes_step (hS : ∀ w tid now q w', S.serve w tid now q ≠ .panicked w')
    (harrives : ∀ w, c.threads[k]? ≠ some (.arriving false w)) :
    Undertakes c (c.undertaking? k) ((c.step S k choice).2.undertaking? k) := by
  have hsteps := steps S c k choice
  generalize (c.step S k choice).2 = c' at hsteps ⊢
  cases hsteps with
  | stays => exact .rests _
  | @turns th th' drain hth h =>
    have hafter : (({ c with drain } : Control ω).put k th').undertaking? k = th'.undertaking? :=
      undertaking_put hth rfl
    rw [undertaking_at hth, hafter]
    exact h.undertakes fun w hw => harrives w (hw ▸ hth)
  | @works wrap w hwrap hth _ =>
    rw [undertaking_at hth]
    refine undertakes_resume hth (threads_stepWork choice w) (stepWork_ne_panicked hS w) ?_
    intro w' c₁ hx
    rw [hwrap.undertaking?, hwrap.undertaking?]
    exact .proceeds (proceeds_stepWork hx)
  | @dispatches wrap d hwrap hth _ =>
    rw [undertaking_at hth]
    refine undertakes_resume hth (threads_stepDispatch d) (stepDispatch_ne_panicked hS d) ?_
    intro d' c₁ hx
    rw [hwrap.undertaking?, hwrap.undertaking?]
    exact undertakes_stepDispatch hx
  | breaks hth _ =>
    -- A loop without a period breaks off, and it undertook nothing.
    have hended : (c.breakOff S k .panicked).undertaking? k = none := by
      unfold breakOff
      rw [hth]
      exact undertaking_put hth (threads_settle _)
    rw [undertaking_at hth, hended]
    exact .rests _
  | passes hth _ =>
    rw [undertaking_at hth, undertaking_put_eq_none rfl]
    exact .rests _

theorem undertaking_spawn (h : th.undertaking? = none) :
    (c.spawn th).1.undertaking? k = c.undertaking? k := by
  unfold undertaking?
  show (c.threads ++ [th])[k]?.bind Thread.undertaking? = _
  by_cases hlt : k < c.threads.length
  · rw [List.getElem?_append_left hlt]
  · rw [List.getElem?_append_right (Nat.le_of_not_lt hlt), List.getElem?_singleton,
      List.getElem?_eq_none (Nat.le_of_not_lt hlt)]
    split
    · exact h
    · rfl

/-- Nothing else can happen to what a thread undertakes, unless it does not ask to be admitted. -/
theorem undertakes_apply {m : Move ω} (hm : Steady c m)
    (harrives : ∀ w, c.threads[k]? ≠ some (.arriving false w)) :
    Undertakes c (c.undertaking? k) ((c.apply m).undertaking? k) := by
  have hspawn : ∀ {th : Thread}, th.undertaking? = none →
      Undertakes c (c.undertaking? k) ((c.spawn th).1.undertaking? k) := by
    intro th hth
    rw [undertaking_spawn hth]
    exact .rests _
  cases m with
  | step S tid choice =>
    by_cases htid : k = tid
    · subst htid
      exact undertakes_step hm harrives
    · have hsame : (c.apply (.step S tid choice)).undertaking? k = c.undertaking? k :=
        (step_leaves choice htid).undertaking?
      rw [hsame]
      exact .rests _
  | begin tracked w => exact hspawn rfl
  | receive w =>
    simp only [apply, receive]
    split
    · exact hspawn rfl
    · exact .rests _
  | dispatch => exact hspawn rfl
  | enqueue S o => exact .rests _
  | register kind process => exact .rests _
  | startQueue =>
    simp only [apply, startQueue]
    split
    · exact .rests _
    · exact hspawn rfl
  | startLoop p => exact hspawn rfl
  | stop stages e => exact hspawn rfl
  | pass millis => exact .rests _

/-! ### Whole runs -/

theorem Pursues.undertaking_eq {ms : List (Move ω)} {u' : Undertaking} (h : c.Pursues k u ms u') :
    (c.after ms).undertaking? k = some u' := by
  cases h with
  | here h => exact h
  | on _ hu _ => exact hu

/-- What a thread undertakes is carried out or still goes on. -/
theorem carriesOut_or_pursues {later : List (Move ω)}
    (hstep : ∀ m earlier, m :: earlier <:+ later → Undertakes (c.after earlier)
      ((c.after earlier).undertaking? k) ((c.after (m :: earlier)).undertaking? k))
    (hu : c.undertaking? k = some u) : c.CarriesOut k u later ∨ ∃ u', c.Pursues k u later u' := by
  -- The induction is on the moves, the last of them first: what was not over before the last may be
  -- over with it.
  induction later with
  | nil => exact .inr ⟨u, .here hu⟩
  | cons m earlier ih =>
    have ih := ih fun m' earlier' h => hstep m' earlier' (h.trans (List.suffix_cons m earlier))
    obtain ⟨ms, older, u', rfl, hpursues, hover⟩ | ⟨u', hpursues⟩ := ih
    · exact .inl ⟨m :: ms, older, u', rfl, hpursues, hover⟩
    · have hmove := hstep m earlier List.suffix_rfl
      rw [hpursues.undertaking_eq] at hmove
      generalize hafter : (c.after (m :: earlier)).undertaking? k = x at hmove
      cases hmove with
      | rests => exact .inr ⟨u', .on hpursues hafter (.inl rfl)⟩
      | proceeds hp => exact .inr ⟨_, .on hpursues hafter (.inr hp)⟩
      | ends hover => exact .inl ⟨[m], earlier, u', rfl, hpursues, hover⟩

/-- A thread that undertakes nothing any more has carried out what it undertook. -/
theorem carriesOut {later : List (Move ω)}
    (hstep : ∀ m earlier, m :: earlier <:+ later → Undertakes (c.after earlier)
      ((c.after earlier).undertaking? k) ((c.after (m :: earlier)).undertaking? k))
    (hend : (c.after later).undertaking? k = none) (hu : c.undertaking? k = some u) :
    c.CarriesOut k u later := by
  obtain h | ⟨u', h⟩ := carriesOut_or_pursues hstep hu
  · exact h
  · rw [h.undertaking_eq] at hend
    cases hend

end Control

end GameFleet
