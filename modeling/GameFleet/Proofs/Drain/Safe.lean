import GameFleet.Proofs.Drain.Tracking
import GameFleet.Proofs.Queue.Faithful

/-!
# Draining is safe (specification §4.2)

Tracked work comes from anywhere, also from other tracked work, and ends in any way, or is broken
off at any time. Anybody may drain, as often as he likes.

- `Occurrence`: what can happen: a move, or work starts other work, or a thread is broken off.
- `Control.Knock`: a thread is about to start tracked work, and what becomes of it.
- `Control.DrainBegan`: somebody began to drain.
- `Control.Drained`: somebody who drained has come to the end of it.
- `Control.drain_safe`: the theorem.
-/

namespace GameFleet

/-- Something that happens where work is also broken off, and starts other work. -/
inductive Occurrence (ω : Type) where
  | move (m : Move ω)
  /-- Tracked work of a thread has other tracked work start, which has a thread of its own. That the
  one may wait for the other, and is not broken off before it, only rules out some histories. -/
  | nests (tid : Nat) (w : Work)
  /-- A thread is broken off. -/
  | breaksOff (S : Surroundings ω) (tid : Nat)

namespace Control

variable {ω : Type}

/-- The state after something happened. -/
def occur (c : Control ω) : Occurrence ω → Control ω
  | .move m => c.apply m
  | .nests tid w => if c.isTracked tid then (c.begin true w).1 else c
  | .breaksOff S tid => c.breakOff S tid .cancelled

/-- The state after a history, the last occurrence first. -/
def upon (c : Control ω) : List (Occurrence ω) → Control ω
  | [] => c
  | o :: earlier => (c.upon earlier).occur o

/-- Somebody begins to drain. -/
def Begins (c : Control ω) : Occurrence ω → Prop
  | .move m => c.BeginsDrain m
  | _ => False

/-- Somebody began to drain. -/
def DrainBegan (c : Control ω) (os : List (Occurrence ω)) : Prop :=
  ∃ later o earlier, os = later ++ o :: earlier ∧ (c.upon earlier).Begins o

/-- A thread is about to start tracked work: an operation that has arrived, a dispatch with a task
that somebody processes, or a loop whose cycle is due and that does not stop instead. And what the
thread is then when the work is admitted, and when it is refused. -/
inductive Knock (S : Surroundings ω) (c : Control ω) (choice : Nat) :
    Thread → (admitted refused : Thread) → Prop where
  | arrives (w : Work) : Knock S c choice (.arriving true w) (.working true w)
    (.ended (.finished (.error .shuttingDown)))
  | holds {wrap : Dispatch → Thread} (hwrap : Thread.Dispatches wrap) {t : Task}
    {process : Json.Value → Op Json.Value} (hp : c.processors t.kind = some process) :
    Knock S c choice (wrap (.holding t)) (wrap (.processing t (process t.payload).run))
      (wrap (.done true))
  | isDue {policy : Policy} {due : Nat} {stopping : Bool} (hdue : due ≤ c.elapsed)
    (hgo : stopsNow stopping true choice = false) :
    Knock S c choice (.looping ⟨policy, some due, stopping, none⟩)
      (.looping ⟨policy, some (nextBeat due c.elapsed (cyclePeriod S policy)), stopping,
        some (.ofPolicy policy S.settings)⟩)
      (.looping ⟨policy, some (nextBeat due c.elapsed (cyclePeriod S policy)), stopping, none⟩)

/-- A thread that drains has come to the end of it: draining was ahead of it, and now only what
comes afterwards is. -/
def Drained (c : Control ω) (tid : Nat) (os : List (Occurrence ω)) : Prop :=
  ∃ rest e later earlier, os = later ++ earlier ∧
    (c.upon earlier).threads[tid]? = some (.staged (Stage.draining ++ rest) e) ∧
    (c.upon os).threads[tid]? = some (.staged rest e)

variable {S : Surroundings ω} {c c' : Control ω} {os : List (Occurrence ω)} {o : Occurrence ω}
  {tid k choice : Nat} {th yes no : Thread} {may : Prop}

theorem upon_append (later earlier : List (Occurrence ω)) :
    c.upon (later ++ earlier) = (c.upon earlier).upon later := by
  induction later with
  | nil => rfl
  | cons o later ih =>
    show (c.upon (later ++ earlier)).occur o = ((c.upon earlier).upon later).occur o
    rw [ih]

/-- What happens to tracked work at once. -/
theorem tracks_occur (c : Control ω) (o : Occurrence ω) : Tracks (c.Begins o) c (c.occur o) := by
  cases o with
  | move m => exact tracks_apply c m
  | nests tid w =>
    simp only [occur]
    split
    · exact tracks_spawn rfl
    · exact .of_eq rfl rfl
  | breaksOff S tid => exact tracks_breakOff S c tid _

theorem counted_upon (hc : Counted c) (os : List (Occurrence ω)) : Counted (c.upon os) := by
  induction os with
  | nil => exact hc
  | cons o earlier ih => exact (tracks_occur _ o).counted ih

/-! ### When draining has begun -/

theorem Tracks.draining (h : Tracks may c c') (hd : c.drain.draining = true) :
    c'.drain.draining = true := by
  cases h with
  | rests _ h => rw [h, hd]
  | begins _ _ h => rw [h, Drain.draining_begin]
  | spawns _ h => rw [h, hd]
  | starts _ _ h =>
    rw [(Drain.enter?_eq_some h).1] at hd
    cases hd
  | settles _ _ h => rw [h, Drain.draining_settle, hd]

theorem Tracks.may_of_draining (h : Tracks may c c') (hd : c.drain.draining = false)
    (hd' : c'.drain.draining = true) : may := by
  have hne : c'.drain.draining ≠ c.drain.draining := by
    rw [hd, hd']
    exact nofun
  cases h with
  | rests _ h => exact absurd (congrArg Drain.draining h) hne
  | begins h _ _ => exact h
  | spawns _ h => exact absurd (congrArg Drain.draining h) hne
  | starts _ _ h => exact absurd (congrArg Drain.draining (Drain.enter?_eq_some h).2) hne
  | settles _ _ h => exact absurd (congrArg Drain.draining h) hne

/-- Whoever begins to drain has begun. -/
theorem draining_of_begins (h : c.Begins o) : (c.occur o).drain.draining = true := by
  cases o with
  | move m =>
    cases m with
    | step S tid choice =>
      obtain ⟨rest, e, hth⟩ := h
      show (c.step S tid choice).2.drain.draining = true
      unfold step
      rw [hth]
      rfl
    | _ => cases h
  | _ => cases h

theorem drainBegan_iff (hc : c.drain.draining = false) :
    c.DrainBegan os ↔ (c.upon os).drain.draining = true := by
  induction os with
  | nil =>
    constructor
    · rintro ⟨later, o, earlier, hos, -⟩
      cases later <;> cases hos
    · intro h
      rw [upon, hc] at h
      cases h
  | cons o earlier ih =>
    have htracks := tracks_occur (c.upon earlier) o
    constructor
    · -- It began with the last occurrence or before.
      rintro ⟨later, o', older, hos, hbegins⟩
      cases later with
      | nil =>
        cases hos
        exact draining_of_begins hbegins
      | cons _ later =>
        cases hos
        exact htracks.draining (ih.mp ⟨later, o', older, rfl, hbegins⟩)
    · intro h
      by_cases hd : (c.upon earlier).drain.draining = true
      · obtain ⟨later, o', older, rfl, hbegins⟩ := ih.mpr hd
        exact ⟨o :: later, o', older, rfl, hbegins⟩
      · have hmay := htracks.may_of_draining (Bool.eq_false_iff.mpr hd) h
        exact ⟨[], o, earlier, rfl, hmay⟩

/-! ### Who is admitted -/

theorem Knock.tracked (h : Knock S c choice th yes no) :
    th.isTracked = false ∧ yes.isTracked = true ∧ no.isTracked = false := by
  cases h with
  | arrives w => exact ⟨rfl, rfl, rfl⟩
  | holds hwrap hp =>
    rw [hwrap.isTracked, hwrap.isTracked, hwrap.isTracked]
    exact ⟨rfl, rfl, rfl⟩
  | isDue hdue hgo => exact ⟨rfl, rfl, rfl⟩

/-- The thread is admitted, or it is refused. -/
theorem Knock.step_cases (h : Knock S c choice th yes no) (hth : c.threads[tid]? = some th) :
    ∃ c₁ : Control ω, c₁.threads = c.threads ∧
      (c.step S tid choice).2 = c₁.put tid (if c.drain.enter?.isSome then yes else no) := by
  unfold step
  rw [hth]
  cases h with
  | arrives w =>
    dsimp only
    rw [stepArriving, if_pos rfl]
    cases c.drain.enter? with
    | none => exact ⟨c, rfl, rfl⟩
    | some drain => exact ⟨{ c with drain }, rfl, rfl⟩
  | @holds wrap hwrap t process hp =>
    have hstart : ∃ c₁ : Control ω, c₁.threads = c.threads ∧
        (c.start tid t).2.put tid (wrap (c.start tid t).1) = c₁.put tid
          (if c.drain.enter?.isSome then wrap (.processing t (process t.payload).run)
            else wrap (.done true)) := by
      unfold start
      rw [hp]
      dsimp only
      cases c.drain.enter? with
      | none =>
        exact ⟨({ c with queue := c.queue.putBack t } : Control ω).leaveLine tid, rfl, rfl⟩
      | some drain => exact ⟨{ c with drain }, rfl, rfl⟩
    cases hwrap with
    | dispatching => exact hstart
    | ticking due stopping => exact hstart
  | isDue hdue hgo =>
    dsimp only
    unfold stepLoop
    dsimp only
    rw [decide_eq_true hdue, hgo]
    unfold startCycle
    cases c.drain.enter? with
    | none => exact ⟨c, rfl, rfl⟩
    | some drain => exact ⟨{ c with drain }, rfl, rfl⟩

/-- The work is admitted unless draining has begun. -/
theorem Knock.step (h : Knock S c choice th yes no) (hth : c.threads[tid]? = some th) :
    (c.step S tid choice).2.threads[tid]? = some (if c.drain.draining then no else yes) := by
  obtain ⟨c₁, hc₁, heq⟩ := h.step_cases hth
  have hlt : tid < c₁.threads.length := hc₁ ▸ (List.getElem?_eq_some_iff.mp hth).1
  rw [heq, put, List.getElem?_set_self hlt]
  unfold Drain.enter?
  cases c.drain.draining <;> rfl

/-! ### Nobody else starts work -/

theorem Leaves.isTracked (h : Leaves k c c') : c'.isTracked k = c.isTracked k := by
  unfold Control.isTracked flags
  rw [List.getElem?_map, List.getElem?_map]
  obtain h | h := h
  · rw [h]
  · rw [h, Option.map_map]
    congr 2
    funext th
    exact th.isTracked_signalled

/-- A thread that comes does no tracked work yet. -/
theorem Tracks.isTracked_new (h : Tracks may c c') (hk : c.threads.length ≤ k) :
    c'.isTracked k = false := by
  have hlen : c.flags.length ≤ k := by
    unfold flags
    rwa [List.length_map]
  have hnone : c.flags[k]? = none := List.getElem?_eq_none hlen
  have hset : ∀ (tid : Nat) (b : Bool), (c.flags.set tid b)[k]? = none := by
    intro tid b
    exact List.getElem?_eq_none (by rwa [List.length_set])
  unfold Control.isTracked
  cases h with
  | rests hf _ => rw [hf, hnone, Option.getD_none]
  | begins _ hf _ => rw [hf, hnone, Option.getD_none]
  | starts _ hf _ => rw [hf, hset, Option.getD_none]
  | settles _ hf _ => rw [hf, hset, Option.getD_none]
  | spawns hf _ =>
    rw [hf, List.getElem?_append_right hlen, List.getElem?_singleton]
    split <;> rfl

theorem of_isTracked_put (h : (c.put k th).isTracked k = true) : th.isTracked = true := by
  unfold isTracked at h
  rw [flags_put] at h
  by_cases hk : k < c.flags.length
  · rwa [List.getElem?_set_self hk, Option.getD_some] at h
  · rw [List.getElem?_eq_none (by rw [List.length_set]; exact Nat.le_of_not_lt hk)] at h
    cases h

/-- Who breaks off does no tracked work afterwards, unless nothing has changed. -/
theorem isTracked_breakOff (e : Ending) (hk : c.isTracked k = false) :
    (c.breakOff S k e).isTracked k = false := by
  unfold breakOff
  split
  · exact hk
  · split
    · exact hk
    · refine Bool.eq_false_iff.mpr fun h => ?_
      cases of_isTracked_put h

theorem isTracked_resume {α : Type} {wrap : α → Thread} {x : Served α (Control ω)}
    (hx : x.state.threads = c.threads) (hk : c.isTracked k = false)
    (h : (resume S k wrap x).2.isTracked k = true) :
    ∃ a c₁, x = .answered a c₁ ∧ (wrap a).isTracked = true := by
  have hsame : x.state.isTracked k = false := by
    unfold isTracked at hk ⊢
    rwa [flags_eq hx]
  cases x with
  | answered a c₁ => exact ⟨a, c₁, rfl, of_isTracked_put h⟩
  | waiting c₁ => exact absurd h (Bool.eq_false_iff.mp hsame)
  | panicked c₁ => exact absurd h (Bool.eq_false_iff.mp (isTracked_breakOff _ hsame))

/-- A dispatch starts tracked work only with a task that somebody processes. -/
theorem exists_holding {d d' : Dispatch} (hd : d.isTracked = false) (hd' : d'.isTracked = true)
    (h : c.stepDispatch S k d = .answered d' c') :
    ∃ t process, d = .holding t ∧ c.processors t.kind = some process := by
  cases leads_stepDispatch h with
  | starts t p =>
    cases hp : c.processors t.kind with
    | some process => exact ⟨t, process, rfl, hp⟩
    | none =>
      -- A task that nobody processes is dropped.
      rw [stepDispatch, start, hp] at h
      cases h
  | processes t next a => cases hd
  | _ => cases hd'

/-- With a step of its own a thread starts tracked work only if it was about to. -/
theorem exists_knock_step (hk : c.isTracked k = false)
    (h : (c.step S k choice).2.isTracked k = true) :
    ∃ th yes no, c.threads[k]? = some th ∧ Knock S c choice th yes no := by
  have hsteps := steps S c k choice
  generalize hc' : (c.step S k choice).2 = c' at hsteps h
  cases hsteps with
  | stays => exact absurd h (Bool.eq_false_iff.mp hk)
  | turns hth hturn =>
    have hafter := of_isTracked_put h
    rw [isTracked_at hth] at hk
    cases hturn with
    | enters _ => exact ⟨_, _, _, hth, .arrives _⟩
    | @cycles policy due stopping drain hdue _ =>
      refine ⟨_, _, _, hth, .isDue hdue (Bool.eq_false_iff.mpr fun hstops => ?_)⟩
      -- A loop that stops starts no cycle.
      have hstop : (c.step S k choice).2 = c.put k (.ended .stopped) := by
        unfold step
        rw [hth]
        dsimp only
        unfold stepLoop
        dsimp only
        rw [decide_eq_true hdue, if_pos hstops]
      rw [hstop] at hc'
      rw [← hc'] at h
      cases of_isTracked_put h
    | _ => cases hafter
  | works hwrap hth _ =>
    -- Work that goes on was as tracked before.
    obtain ⟨w, c₁, -, hw⟩ := isTracked_resume (threads_stepWork _ _) hk h
    rw [isTracked_at hth, hwrap.isTracked _ w, hw] at hk
    cases hk
  | dispatches hwrap hth _ =>
    obtain ⟨d, c₁, hd, hafter⟩ := isTracked_resume (threads_stepDispatch _) hk h
    rw [isTracked_at hth, hwrap.isTracked] at hk
    rw [hwrap.isTracked] at hafter
    obtain ⟨t, process, rfl, hp⟩ := exists_holding hk hafter hd
    exact ⟨_, _, _, hth, .holds hwrap hp⟩
  | breaks _ _ => exact absurd h (Bool.eq_false_iff.mp (isTracked_breakOff _ hk))
  | passes hth hp => cases of_isTracked_put h

/-- A thread that there is stays as it is, but for its own steps, that it may be told to stop, and
that it may be broken off. -/
theorem occur_leaves (hk : k < c.threads.length) (o : Occurrence ω) :
    Leaves k c (c.occur o) ∨ (∃ S choice, o = .move (.step S k choice)) ∨
      ∃ S, o = .breaksOff S k := by
  cases o with
  | move m => exact (leaves_or_step hk m).imp_right fun ⟨S, choice, h⟩ => .inl ⟨S, choice, h ▸ rfl⟩
  | nests tid w =>
    left
    simp only [occur]
    split
    · exact .inl (List.getElem?_append_left hk)
    · exact .inl rfl
  | breaksOff S tid =>
    by_cases htid : k = tid
    · exact .inr (.inr ⟨S, htid ▸ rfl⟩)
    · exact .inl (breakOff_leaves _ htid)

/-- Of all that can happen only the step of a thread that was about to starts tracked work in it. -/
theorem exists_knock (hk : c.isTracked k = false) (h : (c.occur o).isTracked k = true) :
    ∃ S choice th yes no, o = .move (.step S k choice) ∧ c.threads[k]? = some th ∧
      Knock S c choice th yes no := by
  by_cases hlen : c.threads.length ≤ k
  · -- The thread has only come now.
    rw [(tracks_occur c o).isTracked_new hlen] at h
    cases h
  obtain hleaves | ⟨S, choice, rfl⟩ | ⟨S, rfl⟩ := occur_leaves (Nat.lt_of_not_le hlen) o
  · rw [hleaves.isTracked, hk] at h
    cases h
  · obtain ⟨th, yes, no, hth, hknock⟩ := exists_knock_step hk h
    exact ⟨S, choice, th, yes, no, rfl, hth, hknock⟩
  · exact absurd h (Bool.eq_false_iff.mp (isTracked_breakOff _ hk))

/-! ### When draining is over -/

/-- No tracked work is left, and none will start. -/
structure Quiet (c : Control ω) : Prop where
  draining : c.drain.draining = true
  inFlight : c.drain.inFlight = 0

theorem Tracks.quiet (h : Tracks may c c') (hq : Quiet c) (hc : Counted c) : Quiet c' := by
  refine ⟨h.draining hq.draining, ?_⟩
  cases h with
  | rests _ h => rw [h, hq.inFlight]
  | begins _ _ h => rw [h, Drain.inFlight_begin, hq.inFlight]
  | spawns _ h => rw [h, hq.inFlight]
  | starts _ _ h =>
    have hd := (Drain.enter?_eq_some h).1
    rw [hq.draining] at hd
    cases hd
  | settles hb _ _ =>
    -- The count is right, and none was left to end.
    have := hc.pos hb
    rw [hq.inFlight] at this
    exact absurd this (Nat.lt_irrefl 0)

theorem quiet_upon (hc : Counted c) (hq : Quiet c) (os : List (Occurrence ω)) :
    Quiet (c.upon os) := by
  induction os with
  | nil => exact hq
  | cons o earlier ih => exact (tracks_occur _ o).quiet ih (counted_upon hc earlier)

theorem Quiet.isTracked (h : Quiet c) (hc : Counted c) :
    ∀ th ∈ c.threads, th.isTracked = false := by
  intro th hth
  refine Bool.eq_false_iff.mpr fun ht => ?_
  have hpos : 0 < c.threads.countP Thread.isTracked := List.countP_pos_iff.mpr ⟨th, hth, ht⟩
  rw [← hc, h.inFlight] at hpos
  exact Nat.lt_irrefl 0 hpos

/-- How far a thread has come that drains, unless it was broken off. -/
inductive Draining (c : Control ω) (rest : List Stage) (e : Ending) : Option Thread → Prop where
  | ahead : Draining c rest e (some (.staged (Stage.draining ++ rest) e))
  | waits (h : c.drain.draining = true) :
    Draining c rest e (some (.staged (.awaitSettled :: rest) e))
  | brokenOff : Draining c rest e (some (.ended .cancelled))
  | past (th : Option Thread) (h : Quiet c) : Draining c rest e th

/-- A thread that goes through stages stays as it is, or is broken off, or passes the first. -/
theorem staged_occur {stage : Stage} {rest : List Stage} {e : Ending}
    (hth : c.threads[tid]? = some (.staged (stage :: rest) e)) (o : Occurrence ω) :
    (c.occur o).threads[tid]? = some (.staged (stage :: rest) e) ∨
    (c.occur o).threads[tid]? = some (.ended .cancelled) ∨
    ∃ stages c', c.pass? stage = some (stages, c') ∧
      c.occur o = c'.put tid (.staged (stages ++ rest) e) := by
  have hlt := (List.getElem?_eq_some_iff.mp hth).1
  obtain hleaves | ⟨S, choice, rfl⟩ | ⟨S, rfl⟩ := occur_leaves hlt o
  · exact .inl (hleaves.getElem?_eq hth rfl)
  · exact (staged_apply hth (.step S tid choice)).imp_right .inr
  · right
    left
    simp only [occur, breakOff]
    rw [hth]
    exact List.getElem?_set_self hlt

/-- A thread that has ended is left as it is. -/
theorem ended_occur {e : Ending} (hth : c.threads[tid]? = some (.ended e)) (o : Occurrence ω) :
    (c.occur o).threads[tid]? = some (.ended e) := by
  obtain hleaves | ⟨S, choice, rfl⟩ | ⟨S, rfl⟩ :=
    occur_leaves (List.getElem?_eq_some_iff.mp hth).1 o
  · exact hleaves.getElem?_eq hth rfl
  · exact ended_apply hth (.step S tid choice)
  · simp only [occur, breakOff]
    rw [hth]
    exact hth

/-- A thread that drains goes on. -/
theorem Draining.occur {rest : List Stage} {e : Ending} (hc : Counted c)
    (h : Draining c rest e c.threads[tid]?) (o : Occurrence ω) :
    Draining (c.occur o) rest e (c.occur o).threads[tid]? := by
  have htracks := tracks_occur c o
  generalize hth : c.threads[tid]? = x at h
  cases h with
  | ahead =>
    have hlt := (List.getElem?_eq_some_iff.mp hth).1
    obtain h | h | ⟨stages, c', hp, heq⟩ := staged_occur hth o
    · rw [h]
      exact .ahead
    · rw [h]
      exact .brokenOff
    · cases hp
      have hwaits : (c.occur o).threads[tid]? = some (.staged (.awaitSettled :: rest) e) := by
        rw [heq]
        exact List.getElem?_set_self hlt
      rw [hwaits]
      exact .waits (by rw [heq]; rfl)
  | waits hd =>
    have hlt := (List.getElem?_eq_some_iff.mp hth).1
    obtain h | h | ⟨stages, c', hp, heq⟩ := staged_occur hth o
    · rw [h]
      exact .waits (htracks.draining hd)
    · rw [h]
      exact .brokenOff
    · -- The wait is over when the count is zero.
      rw [pass?] at hp
      split at hp <;> cases hp
      rename_i hsettled
      have hq : Quiet c := ⟨hd, by simpa [Drain.isSettled] using hsettled⟩
      exact .past _ (htracks.quiet hq hc)
  | brokenOff =>
    rw [ended_occur hth o]
    exact .brokenOff
  | past _ hq => exact .past _ (htracks.quiet hq hc)

/-- Once somebody who drained has come to the end of it, no tracked work is left. -/
theorem Drained.quiet (hc : Counted c) (h : c.Drained tid os) : Quiet (c.upon os) := by
  obtain ⟨rest, e, later, earlier, rfl, hth, hend⟩ := h
  have hdraining : ∀ later, Draining (c.upon (later ++ earlier)) rest e
      (c.upon (later ++ earlier)).threads[tid]? := by
    intro later
    induction later with
    | nil =>
      show Draining _ rest e (c.upon earlier).threads[tid]?
      rw [hth]
      exact .ahead
    | cons o later ih => exact ih.occur (counted_upon hc _) o
  have hd := hdraining later
  -- What is left to do tells that neither draining nor the wait is ahead any more.
  rw [hend] at hd
  generalize hx : some (Thread.staged rest e) = x at hd
  cases hd with
  | past _ hq => exact hq
  | ahead =>
    have := congrArg List.length (Thread.staged.inj (Option.some.inj hx)).1
    simp [Stage.draining] at this
    omega
  | waits _ =>
    have := congrArg List.length (Thread.staged.inj (Option.some.inj hx)).1
    simp at this
  | brokenOff => cases hx

/-! ### The theorem -/

/-- From the start, whatever happens: the count is that of the threads that do tracked work, and
when work ends there is one piece less. A thread that is about to start tracked work is refused, and
starts none, if somebody began to drain before; otherwise it is admitted, and there is one piece
more; and nobody else starts any. Once somebody who drained has come to the end of it, the count is
zero and no thread does tracked work, and so it stays whatever happens later. -/
theorem drain_safe (ht : c.threads = []) (hd : c.drain = {}) (os : List (Occurrence ω)) :
    (c.upon os).drain.inFlight = (c.upon os).threads.countP Thread.isTracked ∧
    (∀ o tid, (c.upon os).isTracked tid = true → (c.upon (o :: os)).isTracked tid = false →
      (c.upon (o :: os)).drain.inFlight + 1 = (c.upon os).drain.inFlight) ∧
    (∀ S tid choice th yes no, (c.upon os).threads[tid]? = some th →
      Knock S (c.upon os) choice th yes no →
      let after := c.upon (.move (.step S tid choice) :: os)
      th.isTracked = false ∧ yes.isTracked = true ∧ no.isTracked = false ∧
      (c.DrainBegan os → after.threads[tid]? = some no) ∧
      (¬c.DrainBegan os → after.threads[tid]? = some yes ∧
        after.drain.inFlight = (c.upon os).drain.inFlight + 1)) ∧
    (∀ o tid, (c.upon os).isTracked tid = false → (c.upon (o :: os)).isTracked tid = true →
      ¬c.DrainBegan os ∧ ∃ S choice th yes no, o = .move (.step S tid choice) ∧
        (c.upon os).threads[tid]? = some th ∧ Knock S (c.upon os) choice th yes no) ∧
    ∀ tid, c.Drained tid os → ∀ later, (c.upon (later ++ os)).drain.inFlight = 0 ∧
      ∀ th ∈ (c.upon (later ++ os)).threads, th.isTracked = false := by
  have h₀ : Counted c := by
    unfold Counted
    rw [ht, hd]
    rfl
  have hcounted := counted_upon h₀ os
  have hbegan : c.DrainBegan os ↔ (c.upon os).drain.draining = true :=
    drainBegan_iff (by rw [hd])
  refine ⟨hcounted, fun o tid hb ha => ?_, fun S tid choice th yes no hth hknock => ?_,
    fun o tid hb ha => ?_, fun tid hdrained later => ?_⟩
  · exact (tracks_occur (c.upon os) o).inFlight_of_settles hcounted hb ha
  · obtain ⟨hbefore, hyes, hno⟩ := hknock.tracked
    have hstep := hknock.step hth
    refine ⟨hbefore, hyes, hno, fun h => ?_, fun h => ?_⟩
    · rwa [if_pos (hbegan.mp h)] at hstep
    · rw [if_neg fun h' => h (hbegan.mpr h')] at hstep
      have hb : (c.upon os).isTracked tid = false := by rw [isTracked_at hth, hbefore]
      have ha : ((c.upon os).step S tid choice).2.isTracked tid = true := by
        rw [isTracked_at hstep, hyes]
      exact ⟨hstep, (tracks_step S (c.upon os) tid choice).inFlight_of_starts hb ha⟩
  · obtain ⟨S, choice, th, yes, no, rfl, hth, hknock⟩ := exists_knock hb ha
    refine ⟨fun h => ?_, S, choice, th, yes, no, rfl, hth, hknock⟩
    have hstep := hknock.step hth
    rw [if_pos (hbegan.mp h)] at hstep
    change ((c.upon os).step S tid choice).2.isTracked tid = true at ha
    rw [isTracked_at hstep, hknock.tracked.2.2] at ha
    cases ha
  · have hq := quiet_upon hcounted (hdrained.quiet h₀) later
    have hc := counted_upon hcounted later
    rw [← upon_append] at hq hc
    exact ⟨hq.inFlight, hq.isTracked hc⟩

/-- An operation starts another one, and both are tracked. -/
def nestedStart : List (Occurrence Unit) :=
  let w : Work := .plain (.ask .abandon fun _ => .done (.ok .nothing))
  [.move (.step silent 1 0), .nests 0 w, .move (.step silent 0 0), .move (.begin true w)]

/-- Then somebody drains. A third operation comes too late. The inner one is broken off, the outer
one ends, and so does draining. -/
def nestedDrain : List (Occurrence Unit) :=
  let w : Work := .plain (.done (.ok .nothing))
  [.move (.step silent 2 0), .move (.step silent 0 0), .move (.step silent 0 0),
    .breaksOff silent 1, .move (.step silent 3 0), .move (.begin true w),
    .move (.step silent 2 0), .move (.stop Stage.draining .drained)]

theorem staged_nestedDrain :
    (Control.upon { world := () } (nestedDrain ++ nestedStart)).threads[2]? =
      some (.staged [] .drained) :=
  rfl

/-- Another operation comes afterwards. -/
def lateOperation : List (Occurrence Unit) :=
  [.move (.step silent 4 0), .move (.begin true (.plain (.done (.ok .nothing))))]

/-- Two pieces of work were tracked when somebody began to drain; when he has come to the end of it,
none is, and none comes. -/
theorem drain_safe_nested :
    let c : Control Unit := { world := () }
    let os := nestedDrain ++ nestedStart
    (c.upon nestedStart).drain.inFlight = 2 ∧ c.DrainBegan os ∧ c.Drained 2 os ∧
      (c.upon (lateOperation ++ os)).drain.inFlight = 0 ∧
      ∀ th ∈ (c.upon (lateOperation ++ os)).threads, th.isTracked = false := by
  intro c os
  have hbegan : c.DrainBegan os := ⟨nestedDrain.take 6, _, _, rfl, [.awaitSettled], .drained, rfl⟩
  have hdrained : c.Drained 2 os :=
    ⟨[], .drained, nestedDrain.take 7, _, rfl, rfl, staged_nestedDrain⟩
  exact ⟨by decide +kernel, hbegan, hdrained, (drain_safe rfl rfl os).2.2.2.2 2 hdrained _⟩

end Control

end GameFleet
