import GameFleet.Proofs.Control.Within
import GameFleet.Proofs.Queue.Faithful

/-!
# Whether the queue runs (specification §4.1)

The queue is started and stopped by anybody at any time. Who starts it puts a ticker in charge and
says that the queue runs. Who stops it dismisses the ticker, waits for its end, and only then says
that the queue does not run. Whoever starts the queue in between is not heard: the new ticker goes
on, and the queue does not count as running.

- `Control.Ticks`: a ticker goes on that was not told to stop; `Control.Stopping`: a stop is between
  the dismissal of a ticker and its last word.
- `Control.Undisturbed`: tickers go on or break off, and no stop comes closer to its last word.
- `Control.Shift`: what a move does to the ticker in charge and to what is said of the queue;
  `Control.shift_apply`: it is all.
- `Control.Headed`: the invariant; `Headed.shift`: every move keeps it.
- `Control.running_told`: the theorem.
- `Control.exists_unheard`: a ticker goes on though the queue does not count as running.
-/

namespace GameFleet

namespace Thread

/-- A ticker that was not told to stop. -/
def Ticks : Thread → Prop
  | ticking t => t.stopping = false
  | _ => False

/-- A thread goes on: a ticker with what it was told, unless it breaks off, and nothing else becomes
a ticker or has more stages to go through. -/
structure Undisturbed (th th' : Thread) : Prop where
  ticks : th'.Ticks → th.Ticks
  goesOn : th.Ticks → th'.Ticks ∨ th' = .ended .panicked
  brokeOff : th = .ended .panicked → th' = .ended .panicked
  apart : ¬th.IsTicker → ¬th'.IsTicker
  stages : th'.stages ⊆ th.stages

variable {th th' th'' : Thread}

theorem Ticks.isTicker (h : th.Ticks) : th.IsTicker := by
  cases th with
  | ticking t => trivial
  | _ => exact h.elim

theorem not_ticks_signalled (th : Thread) : ¬th.signalled.Ticks := by
  cases th with
  | ticking t => exact Bool.noConfusion
  | _ => exact id

theorem Undisturbed.refl (th : Thread) : th.Undisturbed th := ⟨id, .inl, id, id, fun _ h => h⟩

theorem Undisturbed.trans (h : th.Undisturbed th') (h' : th'.Undisturbed th'') :
    th.Undisturbed th'' where
  ticks ht := h.ticks (h'.ticks ht)
  goesOn ht := (h.goesOn ht).elim h'.goesOn fun hb => .inr (h'.brokeOff hb)
  brokeOff hb := h'.brokeOff (h.brokeOff hb)
  apart ha := h'.apart (h.apart ha)
  stages _ hs := h.stages (h'.stages hs)

theorem Goes.undisturbed (h : th.Goes th') (hth : th ≠ .ended .panicked) :
    th.Undisturbed th' := by
  cases h with
  | ticks t t' h =>
    exact ⟨h.symm.trans, fun ht => .inl (h.trans ht), nofun, fun ha => ha, fun _ hs => hs⟩
  | stops t h =>
    exact ⟨False.elim, fun ht => Bool.noConfusion (h.symm.trans ht), nofun, fun _ => id, nofun⟩
  | breaks th hs => exact ⟨False.elim, fun _ => .inr rfl, fun _ => rfl, fun _ => id, nofun⟩
  | other th th' h h' hs hs' =>
    exact ⟨fun ht => absurd ht.isTicker h', fun ht => absurd ht.isTicker h,
      fun hb => absurd hb hth, fun _ => h', fun _ h => absurd (hs' ▸ h) List.not_mem_nil⟩

theorem Goes.stages_eq (h : th.Goes th') : th.stages = [] := by
  cases h with
  | breaks th hs => exact hs
  | other th th' h h' hs hs' => exact hs
  | _ => rfl

theorem stages_signalled (th : Thread) : th.signalled.stages = th.stages := by
  cases th <;> rfl

/-- A stage is passed that leads to no others. -/
theorem undisturbed_staged (stage : Stage) (rest : List Stage) (e : Ending) :
    (staged (stage :: rest) e).Undisturbed (staged rest e) :=
  ⟨False.elim, False.elim, nofun, fun _ => id, List.subset_cons_self stage rest⟩

theorem undisturbed_signalled (h : ¬th.IsTicker) : th.Undisturbed th.signalled := by
  cases th with
  | ticking t => exact absurd trivial h
  | looping l => exact ⟨False.elim, False.elim, nofun, fun _ => id, fun _ h => h⟩
  | _ => exact .refl _

end Thread

namespace Control

variable {ω : Type} {c c' c₁ : Control ω} {k s t tid : Nat} {th th' : Thread} {m : Move ω}
  {ms : List (Move ω)} {stage : Stage} {rest stages : List Stage} {e : Ending}

/-- A ticker goes on that was not told to stop. -/
def Ticks (c : Control ω) (t : Nat) : Prop := ∃ th, c.threads[t]? = some th ∧ th.Ticks

/-- A thread broke off by itself. -/
def BrokeOff (c : Control ω) (t : Nat) : Prop := c.threads[t]? = some (.ended .panicked)

/-- A thread that is no ticker. -/
def Apart (c : Control ω) (t : Nat) : Prop := ∃ th, c.threads[t]? = some th ∧ ¬th.IsTicker

/-- Some thread has to go through a stage yet. -/
def Ahead (c : Control ω) (stage : Stage) : Prop := ∃ th ∈ c.threads, stage ∈ th.stages

/-- A stop is between the dismissal of a ticker and its last word. -/
def Stopping (c : Control ω) : Prop := c.Ahead .clearRunning

/-- Whoever stops something begins with the first stage, and no ticker is told to stop but by its
dismissal. -/
def Proper (c : Control ω) : Move ω → Prop
  | .stop stages _ => .clearRunning ∉ stages ∧ ∀ s, .signal s ∈ stages → c.Apart s
  | _ => True

/-! ### What becomes of tickers -/

/-- Tickers go on or break off, and no stop comes closer to its last word. -/
structure Undisturbed (c c' : Control ω) : Prop where
  length : c'.threads.length = c.threads.length
  exists_to : ∀ {k : Nat} {th : Thread}, c.threads[k]? = some th →
    ∃ th', c'.threads[k]? = some th' ∧ th.Undisturbed th'

theorem Undisturbed.of_threads (h : c'.threads = c.threads) : Undisturbed c c' :=
  ⟨congrArg List.length h, fun {k th} hth => ⟨th, (congrArg (·[k]?) h).trans hth, .refl th⟩⟩

theorem Undisturbed.trans (h : Undisturbed c c₁) (h' : Undisturbed c₁ c') : Undisturbed c c' := by
  refine ⟨h'.length.trans h.length, fun hth => ?_⟩
  obtain ⟨th₁, hth₁, hto⟩ := h.exists_to hth
  obtain ⟨th', hth', hto'⟩ := h'.exists_to hth₁
  exact ⟨th', hth', hto.trans hto'⟩

theorem getElem?_put (hth : c.threads[k]? = some th) (t : Nat) :
    (c.put k th').threads[t]? = if k = t then some th' else c.threads[t]? := by
  show (c.threads.set k th')[t]? = _
  split
  · rename_i h
    subst h
    exact List.getElem?_set_self (List.getElem?_eq_some_iff.mp hth).1
  · rename_i h
    exact List.getElem?_set_ne h

theorem getElem?_signal (c : Control ω) (s t : Nat) : (c.signal s).threads[t]? =
    if s = t then (c.threads[t]?).map Thread.signalled else c.threads[t]? := by
  unfold signal
  split
  · rename_i h
    split
    · rename_i hs
      rw [← hs, h]
      rfl
    · rfl
  · rename_i th h
    rw [getElem?_put h]
    split
    · rename_i hs
      rw [← hs, h]
      rfl
    · rfl

theorem Undisturbed.put (hth : c.threads[k]? = some th) (h : th.Undisturbed th') :
    Undisturbed c (c.put k th') := by
  refine ⟨List.length_set, fun {t th₁} hth₁ => ?_⟩
  rw [getElem?_put hth]
  split
  · rename_i hk
    obtain rfl := Option.some.inj (hth.symm.trans (hk ▸ hth₁))
    exact ⟨th', rfl, h⟩
  · exact ⟨th₁, hth₁, .refl th₁⟩

theorem Undisturbed.signal (h : c.Apart s) : Undisturbed c (c.signal s) := by
  obtain ⟨th, hth, hapart⟩ := h
  unfold Control.signal
  rw [hth]
  exact .put hth (Thread.undisturbed_signalled hapart)

namespace Undisturbed

variable (h : Undisturbed c c')
include h

theorem exists_from (hth' : c'.threads[k]? = some th') :
    ∃ th, c.threads[k]? = some th ∧ th.Undisturbed th' := by
  have hlt : k < c.threads.length := h.length ▸ (List.getElem?_eq_some_iff.mp hth').1
  obtain ⟨th'', hth'', hto⟩ := h.exists_to (List.getElem?_eq_getElem hlt)
  obtain rfl := Option.some.inj (hth''.symm.trans hth')
  exact ⟨_, List.getElem?_eq_getElem hlt, hto⟩

theorem ticks (ht : c'.Ticks t) : c.Ticks t := by
  obtain ⟨th', hth', ht⟩ := ht
  obtain ⟨th, hth, hto⟩ := h.exists_from hth'
  exact ⟨th, hth, hto.ticks ht⟩

theorem goesOn (ht : c.Ticks t) : c'.Ticks t ∨ c'.BrokeOff t := by
  obtain ⟨th, hth, ht⟩ := ht
  obtain ⟨th', hth', hto⟩ := h.exists_to hth
  exact (hto.goesOn ht).imp (fun h => ⟨th', hth', h⟩) fun h => hth'.trans (congrArg some h)

theorem brokeOff (hb : c.BrokeOff t) : c'.BrokeOff t := by
  obtain ⟨th', hth', hto⟩ := h.exists_to hb
  exact hth'.trans (congrArg some (hto.brokeOff rfl))

theorem apart (ha : c.Apart t) : c'.Apart t := by
  obtain ⟨th, hth, ha⟩ := ha
  obtain ⟨th', hth', hto⟩ := h.exists_to hth
  exact ⟨th', hth', hto.apart ha⟩

theorem ahead (ha : c'.Ahead stage) : c.Ahead stage := by
  obtain ⟨th', hmem, hstage⟩ := ha
  obtain ⟨k, hth'⟩ := List.mem_iff_getElem?.mp hmem
  obtain ⟨th, hth, hto⟩ := h.exists_from hth'
  exact ⟨th, List.mem_of_getElem? hth, hto.stages hstage⟩

end Undisturbed

theorem Ahead.put (h : c.Ahead stage) (hth : c.threads[k]? = some th)
    (hstage : stage ∈ th.stages → stage ∈ th'.stages) : (c.put k th').Ahead stage := by
  obtain ⟨th₁, hmem, hs⟩ := h
  obtain ⟨j, hj⟩ := List.mem_iff_getElem?.mp hmem
  have hget : (c.put k th').threads[j]? = _ := getElem?_put hth j
  split at hget
  · rename_i hk
    obtain rfl := Option.some.inj (hth.symm.trans (hk ▸ hj))
    exact ⟨th', List.mem_of_getElem? hget, hstage hs⟩
  · exact ⟨th₁, List.mem_of_getElem? (hget.trans hj), hs⟩

theorem Ahead.signal (h : c.Ahead stage) (s : Nat) : (c.signal s).Ahead stage := by
  unfold Control.signal
  split
  · exact h
  · rename_i th hth
    exact h.put hth fun hs => th.stages_signalled ▸ hs

theorem Ahead.of_threads (h : c.Ahead stage) (hc : c'.threads = c.threads) : c'.Ahead stage := by
  unfold Ahead
  rw [hc]
  exact h

/-! ### What a move does -/

/-- What a move does to the ticker in charge and to what is said of the queue. -/
inductive Shift (c : Control ω) : Control ω → Prop where
  | keeps {c' : Control ω} (h : Undisturbed c c') (hstopping : c.Stopping → c'.Stopping)
    (hticker : c'.ticker = c.ticker) (hrunning : c'.running = c.running) : Shift c c'
  /-- A thread comes that is no ticker. -/
  | comes {c' : Control ω} (th : Thread) (hthreads : c'.threads = c.threads ++ [th])
    (hth : ¬th.IsTicker) (hclear : .clearRunning ∉ th.stages)
    (hsignal : ∀ s, .signal s ∈ th.stages → c.Apart s) (hticker : c'.ticker = c.ticker)
    (hrunning : c'.running = c.running) : Shift c c'
  /-- A ticker takes charge. -/
  | starts {c' : Control ω} (hnone : c.ticker = none)
    (hthreads : c'.threads = c.threads ++ [.ticking {}])
    (hticker : c'.ticker = some c.threads.length) (hrunning : c'.running = true) : Shift c c'
  /-- The ticker in charge is dismissed. -/
  | dismisses {c' : Control ω} {t : Nat} (ht : c.ticker = some t) (hticker : c'.ticker = none)
    (hlength : c'.threads.length = c.threads.length)
    (hticks : ∀ k, c'.Ticks k → c.Ticks k ∧ k ≠ t) (hapart : ∀ k, c.Apart k → c'.Apart k)
    (hahead : ∀ s, c'.Ahead (.signal s) → c.Ahead (.signal s)) (hstopping : c'.Stopping) :
    Shift c c'
  /-- A stop says its last word. -/
  | clears {c' : Control ω} (h : Undisturbed c c') (hticker : c'.ticker = c.ticker)
    (hrunning : c'.running = false) (hstopping : c.Stopping) : Shift c c'

theorem running_signal : (c.signal t).running = c.running := by
  unfold signal
  split <;> rfl

theorem ticker_signal : (c.signal t).ticker = c.ticker := by
  unfold signal
  split <;> rfl

/-- A stage is passed by which no thread changes but the one that passes it. -/
theorem undisturbed_pass (hth : c.threads[tid]? = some (.staged (stage :: rest) e))
    (hc : c₁.threads = c.threads) : Undisturbed c (c₁.put tid (.staged rest e)) :=
  (Undisturbed.of_threads hc).trans
    (.put ((congrArg (·[tid]?) hc).trans hth) (Thread.undisturbed_staged stage rest e))

theorem stopping_pass (hth : c.threads[tid]? = some (.staged (stage :: rest) e))
    (hc : c₁.threads = c.threads) (hne : stage ≠ .clearRunning) (h : c.Stopping) :
    (c₁.put tid (.staged rest e)).Stopping := by
  refine (Ahead.of_threads h hc).put ((congrArg (·[tid]?) hc).trans hth) fun hmem => ?_
  exact (List.mem_cons.mp hmem).resolve_left hne.symm

theorem shift_dismiss (ht : c.ticker = some t)
    (hth : c.threads[tid]? = some (.staged (.dismissTicker :: rest) e)) :
    Shift c ((({ c with ticker := none } : Control ω).signal t).put tid
      (.staged (.await t :: .clearRunning :: rest) e)) := by
  let c₁ : Control ω := { c with ticker := none }
  let th' : Thread := .staged (.await t :: .clearRunning :: rest) e
  have hth₁ : (c₁.signal t).threads[tid]? = some (.staged (.dismissTicker :: rest) e) := by
    rw [getElem?_signal, show c₁.threads[tid]? = _ from hth]
    split <;> rfl
  have hget : ∀ k : Nat, ((c₁.signal t).put tid th').threads[k]? = if tid = k then some th' else
      if t = k then (c.threads[k]?).map Thread.signalled else c.threads[k]? := by
    intro k
    rw [getElem?_put hth₁, getElem?_signal]
  have hself := (hget tid).trans (if_pos rfl)
  refine .dismisses ht ticker_signal ?_ ?_ ?_ ?_ ⟨th', List.mem_of_getElem? hself, ?_⟩
  · exact (List.length_set).trans (length_signal t)
  · -- Neither the ticker nor the thread that dismisses it ticks now.
    rintro k ⟨th, hth, hticks⟩
    rw [hget] at hth
    split at hth
    · cases hth
      exact hticks.elim
    split at hth
    · obtain ⟨th₂, -, rfl⟩ := Option.map_eq_some_iff.mp hth
      exact absurd hticks (Thread.not_ticks_signalled th₂)
    · rename_i hne
      exact ⟨⟨th, hth, hticks⟩, Ne.symm hne⟩
  · rintro k ⟨th, hth, hapart⟩
    by_cases hk : tid = k
    · exact ⟨th', (hget k).trans (if_pos hk), id⟩
    by_cases hk' : t = k
    · refine ⟨th.signalled, ?_, (Thread.undisturbed_signalled hapart).apart hapart⟩
      rw [hget, if_neg hk, if_pos hk', hth]
      rfl
    · refine ⟨th, ?_, hapart⟩
      rw [hget, if_neg hk, if_neg hk', hth]
  · rintro s ⟨th, hmem, hs⟩
    obtain ⟨k, hk⟩ := List.mem_iff_getElem?.mp hmem
    rw [hget] at hk
    split at hk
    · cases hk
      have hs : .signal s ∈ rest := by simpa [th', Thread.stages] using hs
      exact ⟨_, List.mem_of_getElem? hth, List.mem_cons_of_mem _ hs⟩
    split at hk
    · obtain ⟨th₂, h₂, rfl⟩ := Option.map_eq_some_iff.mp hk
      exact ⟨th₂, List.mem_of_getElem? h₂, th₂.stages_signalled ▸ hs⟩
    · exact ⟨th, List.mem_of_getElem? hk, hs⟩
  · exact List.mem_cons_of_mem _ List.mem_cons_self

theorem shift_pass (hsparing : ∀ s, c.Ahead (.signal s) → c.Apart s)
    (hth : c.threads[tid]? = some (.staged (stage :: rest) e))
    (hp : c.pass? stage = some (stages, c₁)) :
    Shift c (c₁.put tid (.staged (stages ++ rest) e)) := by
  have hahead : c.Ahead stage := ⟨_, List.mem_of_getElem? hth, List.mem_cons_self⟩
  -- Most stages leave all other threads and the ticker alone.
  have hkeeps : ∀ {c₁ : Control ω}, c₁.threads = c.threads → stage ≠ .clearRunning →
      c₁.ticker = c.ticker → c₁.running = c.running → Shift c (c₁.put tid (.staged rest e)) :=
    fun hc hne => .keeps (undisturbed_pass hth hc) (stopping_pass hth hc hne)
  cases stage with
  | closeServer =>
    cases hp
    exact hkeeps rfl (by simp) rfl rfl
  | beginDrain =>
    cases hp
    exact hkeeps rfl (by simp) rfl rfl
  | clearRunning =>
    cases hp
    exact .clears (undisturbed_pass hth rfl) rfl rfl hahead
  | signal s =>
    cases hp
    have hself : (c.signal s).threads[tid]? = some (.staged (.signal s :: rest) e) := by
      rw [getElem?_signal, hth]
      split <;> rfl
    exact .keeps ((Undisturbed.signal (hsparing s hahead)).trans (undisturbed_pass hself rfl))
      (fun h => stopping_pass hself rfl (by simp) (h.signal s)) ticker_signal running_signal
  | awaitRequests =>
    rw [pass?] at hp
    split at hp <;> cases hp
    exact hkeeps rfl (by simp) rfl rfl
  | await t =>
    rw [pass?] at hp
    split at hp <;> cases hp
    exact hkeeps rfl (by simp) rfl rfl
  | awaitSettled =>
    rw [pass?] at hp
    split at hp <;> cases hp
    exact hkeeps rfl (by simp) rfl rfl
  | dismissTicker =>
    rw [pass?] at hp
    split at hp <;> cases hp
    · exact hkeeps rfl (by simp) rfl rfl
    · rename_i t ht
      exact shift_dismiss ht hth

/-- Nothing changes. -/
theorem Shift.same : Shift c c := .keeps (.of_threads rfl) id rfl rfl

theorem shift_step (hsparing : ∀ s, c.Ahead (.signal s) → c.Apart s) (S : Surroundings ω)
    (tid choice : Nat) : Shift c (c.step S tid choice).2 := by
  by_cases hended : c.BrokeOff tid
  · have hsame : (c.step S tid choice).2 = c := by
      unfold step
      rw [hended]
    rw [hsame]
    exact .same
  have hstepped := step_within S c tid choice
  generalize (c.step S tid choice).2 = c' at hstepped ⊢
  cases hstepped with
  | waits h => exact .keeps (.of_threads h.threads) (·.of_threads h.threads) h.ticker h.running
  | goes h hth hgoes =>
    have hto := hgoes.undisturbed fun h => hended (hth.trans (congrArg some h))
    have hth₁ := (congrArg (·[tid]?) h.threads).trans hth
    refine .keeps ((Undisturbed.of_threads h.threads).trans (.put hth₁ hto)) (fun hs => ?_)
      h.ticker h.running
    refine (Ahead.of_threads hs h.threads).put hth₁ fun hmem => ?_
    rw [hgoes.stages_eq] at hmem
    cases hmem
  | passes hth hp => exact shift_pass hsparing hth hp

/-- A move does nothing else. -/
theorem shift_apply (hsparing : ∀ s, c.Ahead (.signal s) → c.Apart s) (hm : c.Proper m) :
    Shift c (c.apply m) := by
  have hcomes : ∀ {c' : Control ω} {th : Thread}, c'.threads = c.threads ++ [th] →
      ¬th.IsTicker → th.stages = [] → c'.ticker = c.ticker → c'.running = c.running →
      Shift c c' := by
    intro c' th hthreads hth hs
    exact .comes th hthreads hth (hs ▸ List.not_mem_nil)
      fun s h => absurd (hs ▸ h) List.not_mem_nil
  have hkeeps : ∀ {c' : Control ω}, c'.threads = c.threads → c'.ticker = c.ticker →
      c'.running = c.running → Shift c c' :=
    fun hc => .keeps (.of_threads hc) (·.of_threads hc)
  cases m with
  | step S tid choice => exact shift_step hsparing S tid choice
  | begin tracked w => exact hcomes rfl id rfl rfl rfl
  | receive w =>
    simp only [apply, receive]
    split
    · exact hcomes rfl id rfl rfl rfl
    · exact .same
  | dispatch => exact hcomes rfl id rfl rfl rfl
  | startLoop p => exact hcomes rfl id rfl rfl rfl
  | startQueue =>
    simp only [apply, startQueue]
    split
    · exact .same
    · rename_i hnone
      exact .starts hnone rfl rfl rfl
  | stop stages e => exact .comes (.staged stages e) rfl id hm.1 hm.2 rfl rfl
  | enqueue S o => exact hkeeps rfl rfl rfl
  | register kind process => exact hkeeps rfl rfl rfl
  | pass millis => exact hkeeps rfl rfl rfl

/-! ### Who is in charge -/

/-- Who is in charge, and what is said of the queue; some tickers took charge unheard. A ticker that
was not told to stop is in charge, and who is in charge is such a ticker or broke off. When none is
in charge the queue does not count as running, or will not in the end. When one is that took charge
unheard, and only then, the queue does not count as running either, or will not in the end. -/
structure Headed (unheard : Nat → Prop) (c : Control ω) : Prop where
  charge : ∀ t, c.Ticks t → c.ticker = some t
  inCharge : ∀ t, c.ticker = some t → c.Ticks t ∨ c.BrokeOff t
  sparing : ∀ s, c.Ahead (.signal s) → c.Apart s
  running : c.ticker = none → c.running = true → c.Stopping
  unheard_iff : ∀ t, c.ticker = some t → (unheard t ↔ c.Stopping ∨ c.running = false)
  known : ∀ t, unheard t → t < c.threads.length

variable {unheard unheard' : Nat → Prop}

/-- A ticker takes charge while a stop is between a dismissal and its last word. -/
def TakesUnheard (c c' : Control ω) (t : Nat) : Prop :=
  c.ticker = none ∧ c'.ticker = some t ∧ c.Stopping

theorem not_takesUnheard (h : c'.ticker = c.ticker) : ¬c.TakesUnheard c' t := by
  rintro ⟨hnone, hsome, -⟩
  rw [h, hnone] at hsome
  cases hsome

theorem Headed.keeps (h : Headed unheard c) (hc : Undisturbed c c')
    (hticker : c'.ticker = c.ticker) (hrunning : c.ticker = none → c'.running = true → c'.Stopping)
    (hunheard : ∀ t, c.ticker = some t → (unheard t ↔ c'.Stopping ∨ c'.running = false)) :
    Headed unheard c' where
  charge t ht := hticker.trans (h.charge t (hc.ticks ht))
  inCharge t ht := (h.inCharge t (hticker.symm.trans ht)).elim hc.goesOn fun hb =>
    .inr (hc.brokeOff hb)
  sparing s hs := hc.apart (h.sparing s (hc.ahead hs))
  running hnone := hrunning (hticker.symm.trans hnone)
  unheard_iff t ht := hunheard t (hticker.symm.trans ht)
  known t ht := Nat.lt_of_lt_of_eq (h.known t ht) hc.length.symm

/-- A thread comes. -/
theorem getElem?_comes (hthreads : c'.threads = c.threads ++ [th])
    (hth : c'.threads[k]? = some th') : c.threads[k]? = some th' ∨
      k = c.threads.length ∧ th' = th := by
  rw [hthreads, List.getElem?_append] at hth
  split at hth
  · exact .inl hth
  · obtain ⟨hk, rfl⟩ := List.getElem?_eq_some_iff.mp hth
    exact .inr ⟨by rw [List.length_singleton] at hk; omega, List.getElem_singleton hk⟩

/-- What there is of threads when another comes. -/
structure Wider (c c' : Control ω) (th : Thread) : Prop where
  ticks : ∀ t, c'.Ticks t → c.Ticks t ∨ t = c.threads.length ∧ th.Ticks
  goesOn : ∀ t, c.Ticks t → c'.Ticks t
  brokeOff : ∀ t, c.BrokeOff t → c'.BrokeOff t
  apart : ∀ t, c.Apart t → c'.Apart t
  ahead_iff : ∀ stage, c'.Ahead stage ↔ c.Ahead stage ∨ stage ∈ th.stages

theorem wider_of_append (hthreads : c'.threads = c.threads ++ [th]) : Wider c c' th := by
  have hold : ∀ {t : Nat} {th₁ : Thread}, c.threads[t]? = some th₁ → c'.threads[t]? = some th₁ := by
    intro t th₁ h
    rw [hthreads, List.getElem?_append_left (List.getElem?_eq_some_iff.mp h).1, h]
  constructor
  · rintro t ⟨th₁, h, ht⟩
    obtain h | ⟨rfl, rfl⟩ := getElem?_comes hthreads h
    · exact .inl ⟨th₁, h, ht⟩
    · exact .inr ⟨rfl, ht⟩
  · exact fun t ⟨th₁, h, ht⟩ => ⟨th₁, hold h, ht⟩
  · exact fun t h => hold h
  · exact fun t ⟨th₁, h, ha⟩ => ⟨th₁, hold h, ha⟩
  · intro stage
    unfold Ahead
    rw [hthreads]
    simp [or_and_right, exists_or]

/-- A thread comes that is no ticker. -/
theorem Headed.comes (h : Headed unheard c) (hw : Wider c c' th)
    (hlength : c'.threads.length = c.threads.length + 1) (hth : ¬th.IsTicker)
    (hclear : .clearRunning ∉ th.stages) (hsignal : ∀ s, .signal s ∈ th.stages → c.Apart s)
    (hticker : c'.ticker = c.ticker) (hrunning : c'.running = c.running) :
    Headed unheard c' := by
  have hstopping : c'.Stopping ↔ c.Stopping := (hw.ahead_iff _).trans (or_iff_left hclear)
  constructor
  · intro t ht
    refine hticker.trans (h.charge t ((hw.ticks t ht).resolve_right ?_))
    rintro ⟨-, ht⟩
    exact hth ht.isTicker
  · exact fun t ht => (h.inCharge t (hticker.symm.trans ht)).imp (hw.goesOn t) (hw.brokeOff t)
  · exact fun s hs => hw.apart s (((hw.ahead_iff _).mp hs).elim (h.sparing s) (hsignal s))
  · exact fun hnone hr => hstopping.mpr
      (h.running (hticker.symm.trans hnone) (hrunning.symm.trans hr))
  · intro t ht
    rw [h.unheard_iff t (hticker.symm.trans ht), hrunning, hstopping]
  · intro t ht
    have := h.known t ht
    omega

/-- A ticker takes charge, unheard when a stop is between a dismissal and its last word. -/
theorem Headed.starts (h : Headed unheard c) (hnone : c.ticker = none)
    (hw : Wider c c' (.ticking {})) (hlength : c'.threads.length = c.threads.length + 1)
    (hticker : c'.ticker = some c.threads.length) (hrunning : c'.running = true)
    (hticks : c'.Ticks c.threads.length)
    (hunheard : ∀ t, unheard' t ↔ unheard t ∨ c.TakesUnheard c' t) : Headed unheard' c' := by
  have hstopping : c'.Stopping ↔ c.Stopping :=
    (hw.ahead_iff _).trans (or_iff_left List.not_mem_nil)
  constructor
  · intro t ht
    obtain ht | ⟨rfl, -⟩ := hw.ticks t ht
    · cases hnone.symm.trans (h.charge t ht)
    · exact hticker
  · intro t ht
    obtain rfl := Option.some.inj (hticker.symm.trans ht)
    exact .inl hticks
  · exact fun s hs => hw.apart s
      (h.sparing s (((hw.ahead_iff _).mp hs).resolve_right List.not_mem_nil))
  · intro hnone'
    cases hticker.symm.trans hnone'
  · -- Its number is new, so it has not taken charge before.
    intro t ht
    obtain rfl := Option.some.inj (hticker.symm.trans ht)
    have hnew : ¬unheard c.threads.length := fun hu => absurd (h.known _ hu) (Nat.lt_irrefl _)
    rw [hunheard, or_iff_right hnew, hrunning, hstopping]
    exact ⟨fun hu => .inl hu.2.2, fun hs => ⟨hnone, hticker, hs.resolve_right nofun⟩⟩
  · intro t ht
    obtain ht | ⟨-, ht, -⟩ := (hunheard t).mp ht
    · have := h.known t ht
      omega
    · obtain rfl := Option.some.inj (hticker.symm.trans ht)
      omega

/-- The ticker in charge is dismissed. -/
theorem Headed.dismisses (h : Headed unheard c) (ht : c.ticker = some t)
    (hticker : c'.ticker = none) (hlength : c'.threads.length = c.threads.length)
    (hticks : ∀ k, c'.Ticks k → c.Ticks k ∧ k ≠ t) (hapart : ∀ k, c.Apart k → c'.Apart k)
    (hahead : ∀ s, c'.Ahead (.signal s) → c.Ahead (.signal s)) (hstopping : c'.Stopping)
    (hunheard : ∀ k, unheard' k ↔ unheard k ∨ c.TakesUnheard c' k) : Headed unheard' c' := by
  constructor
  · intro k hk
    obtain ⟨hk, hne⟩ := hticks k hk
    exact absurd (Option.some.inj ((h.charge k hk).symm.trans ht)) hne
  · intro k hk
    cases hticker.symm.trans hk
  · exact fun s hs => hapart s (h.sparing s (hahead s hs))
  · exact fun _ _ => hstopping
  · intro k hk
    cases hticker.symm.trans hk
  · intro k hk
    obtain hk | ⟨-, hk, -⟩ := (hunheard k).mp hk
    · exact Nat.lt_of_lt_of_eq (h.known k hk) hlength.symm
    · cases hticker.symm.trans hk

/-- What a move does keeps it. -/
theorem Headed.shift (h : Headed unheard c) (hs : Shift c c')
    (hunheard : ∀ t, unheard' t ↔ unheard t ∨ c.TakesUnheard c' t) : Headed unheard' c' := by
  -- Unless another ticker takes charge, the same ones took charge unheard.
  have hsame : c'.ticker = c.ticker → unheard' = unheard := fun hticker => by
    funext t
    rw [propext (hunheard t)]
    exact propext (or_iff_left (not_takesUnheard hticker))
  cases hs with
  | keeps hc hstopping hticker hrunning =>
    rw [hsame hticker]
    refine h.keeps hc hticker (fun hnone hr => ?_) fun t ht => ?_
    · exact hstopping (h.running hnone (hrunning.symm.trans hr))
    · rw [h.unheard_iff t ht, hrunning]
      exact or_congr_left ⟨hstopping, hc.ahead⟩
  | clears hc hticker hrunning hstopping =>
    rw [hsame hticker]
    refine h.keeps hc hticker (fun _ hr => ?_) fun t ht => ?_
    · cases hrunning.symm.trans hr
    · exact iff_of_true ((h.unheard_iff t ht).mpr (.inl hstopping)) (.inr hrunning)
  | comes th hthreads hth hclear hsignal hticker hrunning =>
    have hlength := (congrArg List.length hthreads).trans List.length_append
    rw [hsame hticker]
    exact h.comes (wider_of_append hthreads) hlength hth hclear hsignal hticker hrunning
  | starts hnone hthreads hticker hrunning =>
    have hlength := (congrArg List.length hthreads).trans List.length_append
    refine h.starts hnone (wider_of_append hthreads) hlength hticker hrunning ?_ hunheard
    exact ⟨.ticking {}, by rw [hthreads, List.getElem?_concat_length], rfl⟩
  | dismisses ht hticker hlength hticks hapart hahead hstopping =>
    exact h.dismisses ht hticker hlength hticks hapart hahead hstopping hunheard

/-! ### Runs -/

/-- Nothing goes on, and the queue does not count as running. -/
structure Dormant (c : Control ω) : Prop where
  threads : c.threads = []
  ticker : c.ticker = none
  running : c.running = false

/-- The ticker took charge while a stop was between the dismissal of another and its last word. -/
def Unheard (c : Control ω) (ms : List (Move ω)) (t : Nat) : Prop :=
  ∃ later m earlier, ms = later ++ m :: earlier ∧
    (c.after earlier).TakesUnheard (c.after (m :: earlier)) t

theorem unheard_cons : c.Unheard (m :: ms) t ↔
    c.Unheard ms t ∨ (c.after ms).TakesUnheard (c.after (m :: ms)) t := by
  constructor
  · rintro ⟨later, m', earlier, heq, htakes⟩
    cases later with
    | nil =>
      cases heq
      exact .inr htakes
    | cons m'' later =>
      obtain ⟨rfl, rfl⟩ := List.cons.inj heq
      exact .inl ⟨later, m', earlier, rfl, htakes⟩
  · rintro (⟨later, m', earlier, rfl, htakes⟩ | htakes)
    · exact ⟨m :: later, m', earlier, rfl, htakes⟩
    · exact ⟨[], m, ms, rfl, htakes⟩

theorem headed_after (hc : Dormant c) (hrun : Control.Run Proper c ms) :
    Headed (c.Unheard ms) (c.after ms) := by
  induction ms with
  | nil =>
    have hnone : ∀ {k : Nat} {th : Thread}, c.threads[k]? ≠ some th := by
      intro k th h
      rw [hc.threads] at h
      cases h
    constructor
    · rintro t ⟨th, hth, -⟩
      exact absurd hth hnone
    · intro t ht
      cases hc.ticker.symm.trans ht
    · rintro s ⟨th, hmem, -⟩
      obtain ⟨k, hk⟩ := List.mem_iff_getElem?.mp hmem
      exact absurd hk hnone
    · intro _ hr
      cases hc.running.symm.trans hr
    · intro t ht
      cases hc.ticker.symm.trans ht
    · rintro t ⟨later, m, earlier, heq, -⟩
      cases later <;> cases heq
  | cons m ms ih =>
    have h := ih hrun.1
    exact h.shift (shift_apply h.sparing hrun.2) fun t => unheard_cons

/-- Whatever was started and stopped at the same time, at most one ticker goes on that was not told
to stop, and it is in charge; whoever is in charge is such a ticker, unless it broke off. When no
stop is between a dismissal and its last word, the queue counts as running if and only if a ticker
is in charge that did not take charge while one was. -/
theorem running_told (hc : Dormant c) (hrun : Control.Run Proper c ms) :
    (∀ t, (c.after ms).Ticks t → (c.after ms).ticker = some t) ∧
    (∀ t, (c.after ms).ticker = some t → (c.after ms).Ticks t ∨ (c.after ms).BrokeOff t) ∧
    (¬(c.after ms).Stopping →
      ((c.after ms).running = true ↔ ∃ t, (c.after ms).ticker = some t ∧ ¬c.Unheard ms t)) := by
  have h := headed_after hc hrun
  refine ⟨h.charge, h.inCharge, fun hstopping => ⟨fun hr => ?_, fun ⟨t, ht, hheard⟩ => ?_⟩⟩
  · cases ht : (c.after ms).ticker with
    | none => exact absurd (h.running ht hr) hstopping
    | some t =>
      refine ⟨t, rfl, fun hu => ?_⟩
      obtain hs | hr' := (h.unheard_iff t ht).mp hu
      · exact hstopping hs
      · cases hr.symm.trans hr'
  · cases hr : (c.after ms).running with
    | true => rfl
    | false => exact absurd ((h.unheard_iff t ht).mpr (.inr hr)) hheard

/-- The queue is started, and then somebody stops it. Before the ticker has ended the queue is
started again, and then the stop says its last word. -/
def restartedMeanwhile : List (Move Unit) :=
  let turns (steps tid : Nat) : List (Move Unit) := List.replicate steps (.step silent tid 0)
  turns 3 1 ++ turns 1 0 ++ .startQueue :: turns 1 1 ++
    .stop Stage.stopQueue .stopped :: turns 1 0 ++ [.startQueue]

theorem run_restartedMeanwhile :
    Control.Run (fun c m => Steady c m ∧ Proper c m) { world := () } restartedMeanwhile := by
  simp [restartedMeanwhile, Control.Run, Steady, Proper, silent_ne_panicked, Stage.stopQueue]

theorem after_restartedMeanwhile :
    let c := Control.after ({ world := () } : Control Unit) restartedMeanwhile
    c.threads = [.ended .stopped, .ended .stopped, .ticking {}] ∧ c.running = false := by
  exact ⟨rfl, rfl⟩

/-- The second ticker goes on, is in charge, and took charge unheard. -/
theorem running_told_restartedMeanwhile :
    let c : Control Unit := { world := () }
    (c.after restartedMeanwhile).running = false ∧ (c.after restartedMeanwhile).Ticks 2 ∧
      (c.after restartedMeanwhile).ticker = some 2 ∧ c.Unheard restartedMeanwhile 2 := by
  intro c
  obtain ⟨hthreads, hrunning⟩ := after_restartedMeanwhile
  have hticks : (c.after restartedMeanwhile).Ticks 2 := ⟨.ticking {}, by rw [hthreads]; rfl, rfl⟩
  have hstopping : ¬(c.after restartedMeanwhile).Stopping := by
    rintro ⟨th, hmem, hstage⟩
    rw [hthreads] at hmem
    simp only [List.mem_cons, List.not_mem_nil, or_false] at hmem
    obtain rfl | rfl | rfl := hmem <;> cases hstage
  have htold := running_told (c := c) ⟨rfl, rfl, rfl⟩
    (run_restartedMeanwhile.imp fun _ _ h => h.2)
  have hticker := htold.1 2 hticks
  refine ⟨hrunning, hticks, hticker, ?_⟩
  by_contra hheard
  cases hrunning.symm.trans ((htold.2.2 hstopping).mpr ⟨2, hticker, hheard⟩)

/-- When nobody is about to stop anything, a ticker may go on that was not told to stop, though the
queue does not count as running. -/
theorem exists_unheard :
    ¬∀ (c : Control Unit) (ms : List (Move Unit)), Dormant c →
      Control.Run (fun c m => Steady c m ∧ Proper c m) c ms →
      (∀ th ∈ (c.after ms).threads, ∀ stages e, th ≠ .staged stages e) →
      ((c.after ms).running = true ↔ ∃ t, (c.after ms).Ticks t) := by
  intro hclaim
  obtain ⟨hthreads, hrunning⟩ := after_restartedMeanwhile
  have hnone : ∀ th ∈ (Control.after ({ world := () } : Control Unit) restartedMeanwhile).threads,
      ∀ stages e, th ≠ .staged stages e := by
    simp [hthreads]
  have hruns := (hclaim _ _ ⟨rfl, rfl, rfl⟩ run_restartedMeanwhile hnone).mpr
    ⟨2, .ticking {}, by rw [hthreads]; rfl, rfl⟩
  cases hrunning.symm.trans hruns

end Control

end GameFleet
