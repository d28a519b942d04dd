import GameFleet.Control.Serve
import GameFleet.Proofs.Drain.Tracking
import GameFleet.Proofs.Queue.Faithful
import GameFleet.Proofs.Shutdown.Stages
import GameFleet.Proofs.Shutdown.Undertaking

/-!
# Stopping the program abandons nothing (specification §5)

The program is stopped at any time, whatever goes on then, and its threads go on while it is
stopped.

- `Control.launched`: the program as it starts.
- `Control.shutdownRun`: a run in which the program is stopped.
- `Control.shutdown_abandons_nothing`: the theorem.
-/

namespace GameFleet.Control

variable {ω : Type} {w : ω} {ps : List Policy} {c : Control ω} {loops : List Nat}
  {main k : Nat} {u : Undertaking} {m : Move ω} {ms later earlier : List (Move ω)}

/-- The program as it starts, and the threads of its loops. -/
def launched (w : ω) (ps : List Policy) : Control ω × List Nat :=
  (({ world := w } : Control ω).register DeletionOrder.kind Termination.process).startQueue
    |>.startLoops ps

/-- A run in which the program is stopped, the last move first. -/
def shutdownRun (loops : List Nat) (later earlier : List (Move ω)) : List (Move ω) :=
  later ++ .stop (Stage.shutdown loops) .stopped :: earlier

/-- So the program is brought up before it is let run. -/
theorem bringUp_eq (S : Surroundings ω) (w : ω) :
    bringUp S { world := w } = ((launched w (policies S.settings)).1.rest S,
      (launched w (policies S.settings)).2) := rfl

/-! ### The start -/

theorem startLoops_eq (c : Control ω) (ps : List Policy) : c.startLoops ps =
    ({ c with threads := c.threads ++ ps.map fun policy => .looping { policy } },
      List.range' c.threads.length ps.length) := by
  induction ps generalizing c with
  | nil => simp [startLoops]
  | cons p ps ih =>
    have hrest := ih (c.startLoop p).1
    have hlen : (c.startLoop p).1.threads.length = c.threads.length + 1 := List.length_append
    rw [hlen] at hrest
    show (((c.startLoop p).1.startLoops ps).1,
      c.threads.length :: ((c.startLoop p).1.startLoops ps).2) = _
    rw [hrest]
    simp [startLoop, spawn, List.range'_succ]

theorem staffed_launched (hc : launched w ps = (c, loops)) :
    Staffed loops main c ∧ c.ticker = some 0 := by
  rw [launched, startLoops_eq] at hc
  cases hc
  refine ⟨⟨fun k th hth => ?_, fun k hk => ?_⟩, rfl⟩
  · change (.ticking {} :: ps.map fun policy => Thread.looping { policy })[k]? = some th at hth
    cases k with
    | zero =>
      cases hth
      rfl
    | succ k =>
      rw [List.getElem?_cons_succ, List.getElem?_map] at hth
      obtain ⟨p, hp, rfl⟩ := Option.map_eq_some_iff.mp hth
      have hlt := (List.getElem?_eq_some_iff.mp hp).1
      show k + 1 ∈ List.range' 1 ps.length
      rw [List.mem_range'_1]
      omega
  · show k < (Thread.ticking {} :: ps.map fun policy => Thread.looping { policy }).length
    rw [List.length_cons, List.length_map]
    rcases List.mem_cons.mp hk with rfl | hk
    · omega
    · have hk : k ∈ List.range' 1 ps.length := by
        rcases List.mem_append.mp hk with hk | hk
        · exact hk
        · cases hk
      rw [List.mem_range'_1] at hk
      omega

/-! ### The run -/

/-- The program serves, or a thread with a given number comes and stops it. -/
def Serving (main : Nat) (c : Control ω) (m : Move ω) : Prop :=
  m.IsService ∨ ∃ stages e, m = .stop stages e ∧ c.threads.length = main

theorem Serving.steady (h : Serving main c m) : Steady c m := by
  obtain h | ⟨stages, e, rfl, -⟩ := h
  · cases m with
    | step S tid choice => exact h
    | _ => trivial
  · trivial

theorem Staffed.serving (hs : Staffed loops main c) (hm : Serving main c m) :
    Staffed loops main (c.apply m) := by
  obtain hm | ⟨stages, e, rfl, hmain⟩ := hm
  · exact hs.apply hm
  · refine hs.spawn (List.Subset.refl _) (fun k hk => ?_) hmain
    have := hs.known k (List.mem_cons_of_mem 0 (List.mem_append_right _ hk))
    omega

theorem staffed_after (hs : Staffed loops main c) (hrun : Run (Serving main) c ms) :
    Staffed loops main (c.after ms) :=
  hrun.invariant hs fun _ _ hs hm => hs.serving hm

theorem Run.of_services (h : ∀ m ∈ ms, m.IsService) : Run (Serving main) c ms := by
  induction ms with
  | nil => trivial
  | cons m earlier ih =>
    exact ⟨ih fun m' hm' => h m' (List.mem_cons_of_mem m hm'), .inl (h m List.mem_cons_self)⟩

theorem run_shutdown (h : ∀ m ∈ later ++ earlier, m.IsService) :
    Run (Serving (c.after earlier).threads.length) c (shutdownRun loops later earlier) := by
  refine Run.append ⟨?_, .inr ⟨_, _, rfl, rfl⟩⟩ ?_
  · exact .of_services fun m hm => h m (List.mem_append_right _ hm)
  · exact .of_services fun m hm => h m (List.mem_append_left _ hm)

/-- As long as nobody has come to stop the program, the ticker is in charge. -/
theorem ticker_after (hs : Staffed loops main c) (h : ∀ m ∈ ms, m.IsService)
    (hmain : (c.after ms).threads.length ≤ main) : (c.after ms).ticker = c.ticker := by
  induction ms with
  | nil => rfl
  | cons m earlier ih =>
    -- Threads do not go away, so there was none to stop the program before this move either.
    have hlen : (c.after earlier).threads.length ≤ (c.after (m :: earlier)).threads.length :=
      (tracks_apply _ m).length_le
    have hearlier : ∀ m ∈ earlier, m.IsService := fun m' hm' => h m' (List.mem_cons_of_mem m hm')
    have ih := ih hearlier (Nat.le_trans hlen hmain)
    have hs := staffed_after hs (.of_services hearlier)
    obtain hticker | ⟨stage, rest, e, stages, c', hth, -⟩ :=
      ticker_apply hs (h m List.mem_cons_self)
    · exact hticker.trans ih
    · have := (List.getElem?_eq_some_iff.mp hth).1
      omega

theorem atStage_after (hs : Staffed loops main c) (h : ∀ m ∈ ms, m.IsService)
    (hmain : AtStage loops c c.threads[main]?) :
    AtStage loops (c.after ms) (c.after ms).threads[main]? := by
  induction ms with
  | nil => exact hmain
  | cons m earlier ih =>
    have hearlier : ∀ m ∈ earlier, m.IsService := fun m' hm' => h m' (List.mem_cons_of_mem m hm')
    exact (ih hearlier).apply (staffed_after hs (.of_services hearlier)) (h m List.mem_cons_self)

theorem length_le_after (c : Control ω) (ms : List (Move ω)) :
    c.threads.length ≤ (c.after ms).threads.length := by
  induction ms with
  | nil => exact Nat.le_refl _
  | cons m earlier ih => exact Nat.le_trans ih (tracks_apply _ m).length_le

/-- When the thread has ended that stops the program, so have all others. -/
theorem isEnded_shutdown (hc : launched w ps = (c, loops))
    (hservice : ∀ m ∈ later ++ earlier, m.IsService)
    (hmain : (c.after (shutdownRun loops later earlier)).hasEnded (c.after earlier).threads.length
      = true) : ∀ th ∈ (c.after (shutdownRun loops later earlier)).threads, th.isEnded = true := by
  have hearlier : ∀ m ∈ earlier, m.IsService := fun m hm => hservice m (List.mem_append_right _ hm)
  have hlater : ∀ m ∈ later, m.IsService := fun m hm => hservice m (List.mem_append_left _ hm)
  generalize heq : (c.after earlier).threads.length = main at hmain
  obtain ⟨hs, hticker⟩ : Staffed loops main c ∧ c.ticker = some 0 := staffed_launched hc
  have hticker := (ticker_after hs hearlier (Nat.le_of_eq heq)).trans hticker
  -- The thread comes with all stages ahead.
  generalize hc₁ : c.after (.stop (Stage.shutdown loops) .stopped :: earlier) = c₁
  have hs₁ : Staffed loops main c₁ :=
    hc₁ ▸ (staffed_after hs (.of_services hearlier)).serving (.inr ⟨_, _, rfl, heq⟩)
  have hth₁ : c₁.threads[main]? = some (.staged (Stage.shutdown loops) .stopped) := by
    rw [← hc₁, ← heq]
    exact List.getElem?_concat_length
  have hstage₁ : AtStage loops c₁ c₁.threads[main]? := by
    rw [hth₁]
    have hahead : [] ++ Stage.quieting loops = Stage.quieting loops := rfl
    exact .ahead (.quiets hahead (hc₁ ▸ hticker) nofun)
  -- From there it goes on to its end.
  have hstage := atStage_after hs₁ hlater hstage₁
  have hs₂ := staffed_after hs₁ (.of_services hlater)
  rw [shutdownRun, after_append, hc₁] at hmain ⊢
  have hlt : main < (c₁.after later).threads.length :=
    Nat.lt_of_lt_of_le (List.getElem?_eq_some_iff.mp hth₁).1 (length_le_after c₁ later)
  obtain ⟨e, he⟩ := ended_of_hasEnded hlt hmain
  rw [he] at hstage
  exact hstage.isEnded hs₂ ⟨e, he⟩

/-! ### What goes on -/

/-- What can happen to what a thread undertakes while the program serves or is stopped. -/
theorem Staffed.undertakes (hs : Staffed loops main c) (hm : Serving main c m) (k : Nat) :
    Undertakes c (c.undertaking? k) ((c.apply m).undertaking? k) := by
  refine undertakes_apply hm.steady fun w hth => ?_
  cases (hs.posts k _ hth).1

/-- What a thread undertakes is carried out if all threads end. -/
theorem Staffed.carriesOut (hs : Staffed loops main c) (hrun : Run (Serving main) c later)
    (hended : ∀ th ∈ (c.after later).threads, th.isEnded = true)
    (hu : c.undertaking? k = some u) : c.CarriesOut k u later := by
  refine Control.carriesOut (fun m older hsuffix => ?_) ?_ hu
  · obtain ⟨newer, rfl⟩ := hsuffix
    have hrun : Run (Serving main) c (m :: older) := hrun.of_append
    exact (staffed_after hs hrun.1).undertakes hrun.2 k
  · unfold undertaking?
    refine Option.bind_eq_none_iff.mpr fun th hth => ?_
    have := hended th (List.mem_of_getElem? hth)
    cases th with
    | ended e => rfl
    | _ => cases this

/-- No task is in hand when all threads have ended. -/
theorem inHand_of_ended (h : ∀ th ∈ c.threads, th.isEnded = true) : c.inHand = [] := by
  refine List.filterMap_eq_nil_iff.mpr fun hand hmem => ?_
  obtain ⟨th, hth, rfl⟩ := List.mem_map.mp hmem
  have := h th hth
  cases th with
  | ended e => rfl
  | _ => cases this

theorem accounted_launched (hc : launched w ps = (c, loops)) :
    LineUp c.hands c.line ∧ Accounted c [] := by
  rw [launched, startLoops_eq] at hc
  cases hc
  refine accounted_of_free (fun h hh => ?_) rfl rfl
  obtain ⟨th, hth, rfl⟩ := List.mem_map.mp hh
  rcases List.mem_append.mp hth with hth | hth
  · rw [List.mem_singleton.mp hth]
    rfl
  · obtain ⟨p, -, rfl⟩ := List.mem_map.mp hth
    rfl

/-- The program serves from its start on, is stopped at some time, and its services go on until the
thread that stops them has come to its end. Then all threads have ended. Whatever was undertaken at
any time was carried out, the run of a task together with what it led to. Nothing was begun once
draining had begun. And every task that came still waits once, or it has ended, or it was dropped
when nobody processed it. -/
theorem shutdown_abandons_nothing (hc : launched w ps = (c, loops))
    (hservice : ∀ m ∈ later ++ earlier, m.IsService)
    (hms : ms = shutdownRun loops later earlier)
    (hmain : (c.after ms).hasEnded (c.after earlier).threads.length = true) :
    (∀ th ∈ (c.after ms).threads, th.isEnded = true) ∧
    (∀ newer older k u, ms = newer ++ older → (c.after older).undertaking? k = some u →
      (c.after older).CarriesOut k u newer) ∧
    (∀ newer m older k u, ms = newer ++ m :: older → (c.after older).drain.draining = true →
      (c.after (m :: older)).undertaking? k = some u →
      ∃ u', (c.after older).undertaking? k = some u' ∧ (u = u' ∨ u'.Proceeds u)) ∧
    (∀ t, .came t ∈ c.deeds ms →
      (c.after ms).queue.tasks.countP (t.isOriginOf (c.deeds ms)) +
        ((c.deeds ms).filterMap Deed.gone?).countP (t.isOriginOf (c.deeds ms)) = 1) ∧
    ∀ newer m older t o, ms = newer ++ m :: older →
      (c.after older).deed? m = some (.dropped t o) →
      o = none ∧ (c.after older).processors t.kind = none := by
  have hs : Staffed loops (c.after earlier).threads.length c := (staffed_launched hc).1
  have hrun : Run (Serving (c.after earlier).threads.length) c ms := hms ▸ run_shutdown hservice
  have hended : ∀ th ∈ (c.after ms).threads, th.isEnded = true := by
    subst hms
    exact isEnded_shutdown hc hservice hmain
  have hsteady : ∀ {ms}, Run (Serving (c.after earlier).threads.length) c ms → Run Steady c ms :=
    fun h => h.imp fun _ _ hm => hm.steady
  have haccounted := (accounted_run (accounted_launched hc) (hsteady hrun)).2
  refine ⟨hended, ?_, ?_, fun t ht => ?_, ?_⟩
  · rintro newer older k u rfl hu
    rw [after_append] at hended
    exact (staffed_after hs hrun.of_append).carriesOut hrun.of_after hended hu
  · rintro newer m older k u rfl hdraining hu
    have hrun : Run (Serving _) c (m :: older) := hrun.of_append
    have hundertakes := (staffed_after hs hrun.1).undertakes hrun.2 k
    change Undertakes _ _ ((c.after (m :: older)).undertaking? k) at hundertakes
    rw [hu] at hundertakes
    generalize hbefore : (c.after older).undertaking? k = x at hundertakes
    cases hundertakes with
    | rests => exact ⟨u, rfl, .inl rfl⟩
    | begins hd =>
      -- Whatever begins is admitted, and nothing is while the program drains.
      rw [hd] at hdraining
      cases hdraining
    | proceeds hp => exact ⟨_, rfl, .inr hp⟩
  · -- No thread holds a task any more, so each is accounted for by the queue or its end.
    have honce := haccounted.countP_isOriginOf ht
    unfold told at honce
    rw [inHand_of_ended hended, List.nil_append, List.countP_append] at honce
    exact honce
  · rintro newer m older t o rfl hd
    have hrun : Run Steady c (m :: older) := hsteady hrun.of_append
    have hdoes := does hrun.2
    rw [hd] at hdoes
    exact ((accounted_run (accounted_launched hc) hrun.1).2.isRight hdoes).2

/-- Surroundings in which nobody is reached. -/
def deserted : Surroundings Unit :=
  { silent with serve w _ _ _ := .answered (.error (.internal "nobody was reached")) w }

/-- A task that cannot be understood, so that its only run fails. -/
def garbled : Move Unit := .enqueue deserted { kind := DeletionOrder.kind, payload := .null }

/-- A request is served, a cycle goes on, and a task is run. -/
def busy : List (Move Unit) :=
  let turns (k n : Nat) : List (Move Unit) := List.replicate n (.step deserted k 0)
  turns 2 1 ++ turns 1 2 ++ turns 0 5 ++
    [.receive (.plain (.ask .abandon fun _ => .done (.ok .nothing))), garbled]

/-- Another task comes while the program is stopped, and the ticker takes it after draining. -/
def halt : List (Move Unit) :=
  let turns (k n : Nat) : List (Move Unit) := List.replicate n (.step deserted k 0)
  turns 3 3 ++ turns 0 2 ++ turns 3 1 ++ turns 0 7 ++ garbled :: turns 3 1 ++ turns 0 1 ++
    turns 3 2 ++ turns 1 3 ++ turns 3 2 ++ turns 2 2 ++ turns 3 1

/-- A request, a cycle and the run of a task were going on when the program was stopped. They were
carried out, the first task has ended, and the second waits. -/
theorem shutdown_abandons_nothing_busy :
    let c := (launched () [.idle]).1
    let ms := shutdownRun [1] halt busy
    (c.after busy).drain.inFlight = 3 ∧ (∀ th ∈ (c.after ms).threads, th.isEnded = true) ∧
      (∀ k u, (c.after busy).undertaking? k = some u →
        (c.after busy).CarriesOut k u (halt ++ [.stop (Stage.shutdown [1]) .stopped])) ∧
      (c.after ms).queue.tasks.map Task.seq = [2] ∧
      ((c.deeds ms).filterMap Deed.gone?).map Task.seq = [1] := by
  intro c ms
  have hservice : ∀ m ∈ halt ++ busy, m.IsService := by
    have hserve : ∀ w tid now q w', deserted.serve w tid now q ≠ .panicked w' := by
      intro w tid now q w' h
      cases h
    simp [halt, busy, garbled, Move.IsService, hserve]
  have hall : ms = (halt ++ [.stop (Stage.shutdown [1]) .stopped]) ++ busy := by
    rw [List.append_assoc]
    rfl
  obtain ⟨hended, hcarried, -⟩ :=
    shutdown_abandons_nothing (c := c) rfl hservice rfl (by decide +kernel)
  exact ⟨by decide +kernel, hended, fun k u => hcarried _ _ k u hall, by decide +kernel,
    by decide +kernel⟩

end GameFleet.Control
