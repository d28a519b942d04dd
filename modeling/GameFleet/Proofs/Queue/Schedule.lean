import GameFleet.Proofs.Queue.Tally

/-!
# When a task is run again (specification §4.1)

The runs of a task are numbered from 1. After a run that failed the task waits for as long as its
policy says after a run with this number, in a new place, and else it is as it was; after the last
run that its policy allows it is given up. Between its runs nothing about it changes, however often
it is refused.

- `Control.step_of_failed`: what the end of a run that failed leads to.
- `Control.Resting`: the invariant between two runs; `Resting.apply`, `Control.resting_append`: the
  task is the same until a run of it starts.
- `Control.Unchanged`, `Control.WaitsAgain`, `Control.IsGone`: what becomes of a task.
- `Control.retry_schedule`: the theorem.
-/

namespace GameFleet

namespace Task

/-- A task as it waits again at some time in some place after a run that failed. -/
def retried (t : Task) (now seq : Nat) : Task :=
  { t with attempt := t.attempt + 1, due := now + t.policy.delay t.attempt, seq }

/-- A task waits again after the `n`-th run of it that failed at some time. -/
structure IsRetry (t u : Task) (n now : Nat) : Prop where
  attempt : u.attempt = n + 1
  due : u.due = now + t.policy.delay n
  id : u.id = t.id
  order : u.toTaskOrder = t.toTaskOrder

/-- A task that is put back as it was has not been run more often. -/
theorem runs_back (t u : Task) (o : Option (Outcome Json.Value)) (ds : List Deed) :
    t.runs (.back u u o :: ds) = t.runs ds := by
  have horigin : origin (.back u u o :: ds) t.seq = origin ds t.seq := by
    show origin ds (if t.seq = u.seq then u.seq else t.seq) = _
    split
    · rename_i h
      rw [h]
    · rfl
  unfold runs
  rw [horigin]
  exact Deed.times_of_none rfl

end Task

theorem Deed.times_le (f : Deed → Option Task) (n : Nat) (e : Option Deed) (ds : List Deed) :
    times f n ds ≤ times f n (e.toList ++ ds) := by
  cases e with
  | none => exact Nat.le_refl _
  | some e => exact Nat.le_add_left ..

namespace Control

variable {ω : Type} {S : Surroundings ω} {c c' : Control ω} {m : Move ω}
  {ms later : List (Move ω)} {ds : List Deed} {t u v w : Task} {f : Failure} {k n : Nat}

/-! ### The end of a run -/

theorem conclude_of_failed (hf : f ≠ .shuttingDown) : c.conclude k u (.error f) =
    if u.attempt < u.policy.maxRuns then
      (.done true, { c with queue := c.queue.retry c.elapsed u }.leaveLine k)
    else (follow u.onError (.error f), c) := by
  cases f <;> first | rfl | exact absurd rfl hf

/-- After a run that failed the task waits for the next one, or it is given up. -/
theorem step_of_failed (hd : c.dispatch? k = some (.processing u (.done (.error f))))
    (hf : f ≠ .shuttingDown) (S : Surroundings ω) (choice : Nat) :
    (u.attempt < u.policy.maxRuns →
      (c.step S k choice).2.queue.tasks
        = c.queue.tasks ++ [u.retried c.elapsed c.queue.nextSeq] ∧
      c.deed? (.step S k choice)
        = some (.back u (u.retried c.elapsed c.queue.nextSeq) (some (.error f)))) ∧
    (u.policy.maxRuns ≤ u.attempt →
      (c.step S k choice).2.dispatch? k
        = some (.following (FollowUp.after u.onError (.error f))) ∧
      c.deed? (.step S k choice)
        = some (.ended u (.error f) (FollowUp.after u.onError (.error f)))) := by
  have hanswered : c.stepDispatch S k (.processing u (.done (.error f))) =
      .answered ((c.settle true).conclude k u (.error f)).1
        ((c.settle true).conclude k u (.error f)).2 := rfl
  rw [conclude_of_failed hf] at hanswered
  obtain ⟨hdispatch, hleft⟩ := step_of_answered hd nofun hanswered choice
  constructor
  · intro hmore
    have hqueue : (c.settle true).queue = c.queue := (settle_comes true).queue
    rw [if_pos hmore] at hdispatch hleft
    have htasks : (c.step S k choice).2.queue.tasks
        = c.queue.tasks ++ [u.retried c.elapsed c.queue.nextSeq] := by
      rw [hleft, ← hqueue, ← elapsed_settle true]
      rfl
    refine ⟨htasks, ?_⟩
    rw [deed?, hd, hdispatch, new?_eq_some htasks]
    rfl
  · intro hlast
    rw [if_neg (Nat.not_lt.mpr hlast), follow_eq] at hdispatch
    refine ⟨hdispatch, ?_⟩
    rw [deed?, hd, hdispatch]
    rfl

/-- Once draining has begun, no run starts of a task that was taken. -/
theorem deed?_of_draining {process : Json.Value → Op Json.Value}
    (hdrain : c.drain.draining = true) (hd : c.dispatch? k = some (.holding u))
    (hp : c.processors u.kind = some process) (S : Surroundings ω) (choice : Nat) :
    c.deed? (.step S k choice) = some (.back u u none) := by
  have hanswered : c.stepDispatch S k (.holding u) = .answered (c.start k u).1 (c.start k u).2 :=
    rfl
  rw [start_of_draining hdrain hp] at hanswered
  obtain ⟨hdispatch, hqueue⟩ := step_of_answered hd nofun hanswered choice
  have hnew : c.new? (c.step S k choice).2 = some u :=
    new?_eq_some (congrArg TaskQueue.tasks hqueue)
  rw [deed?, hd, hdispatch, hnew]
  rfl

/-! ### Places along a run -/

/-- The places that were given stay given, and tell of the same tasks. -/
theorem origin_append (hrun : Control.Run Steady c (later ++ ms)) :
    (c.after ms).queue.nextSeq ≤ (c.after (later ++ ms)).queue.nextSeq ∧
    ∀ s, s < (c.after ms).queue.nextSeq →
      origin (c.deeds (later ++ ms)) s = origin (c.deeds ms) s := by
  induction later with
  | nil => exact ⟨Nat.le_refl _, fun _ _ => rfl⟩
  | cons m later ih =>
    obtain ⟨hle, horigin⟩ := ih hrun.1
    have hdoes := does hrun.2
    refine ⟨Nat.le_trans hle hdoes.le_nextSeq, fun s hs => ?_⟩
    exact (hdoes.origin_eq _ (Nat.lt_of_lt_of_le hs hle)).trans (horigin s hs)

/-- What was done is never undone. -/
theorem times_append (e? : Deed → Option Task) (n : Nat) (later : List (Move ω)) :
    Deed.times e? n (c.deeds ms) ≤ Deed.times e? n (c.deeds (later ++ ms)) := by
  induction later with
  | nil => exact Nat.le_refl _
  | cons m later ih => exact Nat.le_trans ih (Deed.times_le ..)

theorem deeds_append_subset (ms later : List (Move ω)) : c.deeds ms ⊆ c.deeds (later ++ ms) := by
  induction later with
  | nil => exact fun _ h => h
  | cons m later ih => exact fun e h => List.mem_append_right _ (ih h)

/-- A task in any place is as it came, but for its place, its number and when it is due. -/
theorem Accounted.entered_eq (h : Accounted c ds) (hu : u ∈ c.told ds) (ht : .came t ∈ ds)
    (horigin : origin ds u.seq = t.seq) : u.entered ds = t.entered [] := by
  obtain ⟨s, hs, heq⟩ := h.exists_came hu
  have hseq : origin ds u.seq = s.seq := congrArg Prod.fst heq
  obtain rfl : s = t := List.inj_on_of_nodup_map h.nodup (Deed.mem_came?.mpr hs)
    (Deed.mem_came?.mpr ht) (hseq.symm.trans horigin)
  exact heq

/-- A task that has ended is in no other place. -/
theorem Accounted.not_told_of_gone (h : Accounted c ds) (hu : u ∈ ds.filterMap Deed.gone?) :
    ∀ v ∈ c.queue.tasks ++ c.inHand, origin ds v.seq ≠ origin ds u.seq := by
  intro v hv hseq
  have hn := h.nodup_origin
  unfold told at hn
  rw [← List.append_assoc, List.map_append, List.nodup_append] at hn
  exact hn.2.2 _ (List.mem_map_of_mem hv) _ (List.mem_map_of_mem hu) hseq

/-! ### Between two runs -/

/-- The task that came in some place is now this one, and no run with its number has started. -/
structure Resting (c : Control ω) (ds : List Deed) (n : Nat) (v : Task) : Prop where
  mem : v ∈ c.told ds
  origin : origin ds v.seq = n
  tally : v.Tally ds false

/-- With every move a task either stays as it is, or a run of it starts. -/
theorem Resting.apply (h : Resting c ds n v) (hline : LineUp c.hands c.line)
    (ha : Accounted c ds) (htallied : Tallied c ds) (hm : Steady c m) :
    Resting (c.apply m) ((c.deed? m).toList ++ ds) n v ∨
      Deed.times Deed.ran? n ds < Deed.times Deed.ran? n ((c.deed? m).toList ++ ds) := by
  have hdoes := does hm
  have hmem : v ∈ (c.apply m).told ((c.deed? m).toList ++ ds) := by
    obtain hk | ⟨t, he, -, -, hnew⟩ | ⟨s, s', o, rest, he, hseq, -, -, -, hold, hnew⟩ :=
      hdoes.told ha.nodup_seq ds
    · exact hk.told.mem_iff.mpr h.mem
    · rw [he]
      exact hnew.mem_iff.mpr (List.mem_cons_of_mem _ h.mem)
    · rw [he]
      rcases List.mem_cons.mp (hold.mem_iff.mp h.mem) with rfl | hrest
      · -- Only a task that is processed comes to wait in a new place.
        cases o with
        | none =>
          rw [he] at hdoes
          cases hdoes with
          | returns _ _ _ =>
            have := ha.told_lt v h.mem
            omega
        | some o =>
          obtain ⟨S, k, choice, -, hk⟩ := step_of_deed he rfl
          have hstarted := (htallied.processing k v _ hk).runs
          have hnot := h.tally.runs
          simp only [Bool.toNat_true, Bool.toNat_false] at hstarted hnot
          omega
      · exact hnew.mem_iff.mpr (List.mem_cons_of_mem _ hrest)
  have horigin : GameFleet.origin ((c.deed? m).toList ++ ds) v.seq = n :=
    (hdoes.origin_eq ds (ha.told_lt v h.mem)).trans h.origin
  by_cases hlt : Deed.times Deed.ran? n ds < Deed.times Deed.ran? n ((c.deed? m).toList ++ ds)
  · exact .inr hlt
  · left
    refine ⟨hmem, horigin, ?_⟩
    obtain ⟨started, htally⟩ := (htallied.apply hline ha hm).exists_tally hmem
    have hbefore := h.tally.runs
    have hafter := htally.runs
    have hle := Deed.times_le Deed.uncounted? n (c.deed? m) ds
    unfold Task.runs Task.uncounted at hbefore hafter
    rw [h.origin] at hbefore
    rw [horigin] at hafter
    cases started with
    | false => exact htally
    | true =>
      simp only [Bool.toNat_true, Bool.toNat_false] at hbefore hafter
      omega

/-- Along a run a task either stays as it is, or a run of it starts. -/
theorem resting_append (ho : Unbegun c) (h : Resting (c.after ms) (c.deeds ms) n v)
    (hrun : Control.Run Steady c (later ++ ms)) :
    Resting (c.after (later ++ ms)) (c.deeds (later ++ ms)) n v ∨
      Deed.times Deed.ran? n (c.deeds ms) < Deed.times Deed.ran? n (c.deeds (later ++ ms)) := by
  induction later with
  | nil => exact .inl h
  | cons m later ih =>
    obtain ⟨hline, ha⟩ := accounted_after ho hrun.1
    obtain hrest | hlt := ih hrun.1
    · obtain hrest' | hlt := hrest.apply hline ha (tallied_after ho hrun.1) hrun.2
      · exact .inl hrest'
      · exact .inr (Nat.lt_of_le_of_lt (times_append ..) hlt)
    · exact .inr (Nat.lt_of_lt_of_le hlt (Deed.times_le ..))

/-- What a task is until its next run: this one and no other, and not run before it is due. -/
structure Unchanged (c : Control ω) (ms : List (Move ω)) (t v : Task) : Prop where
  same : ∀ w ∈ (c.after ms).told (c.deeds ms), origin (c.deeds ms) w.seq = t.seq → w = v
  due : ∀ m w p, (c.after ms).deed? m = some (.ran w p) → origin (c.deeds ms) w.seq = t.seq →
    w = v ∧ v.due ≤ (c.after ms).elapsed

/-- The runs of a task that came are counted at the place in which it came. -/
theorem runs_eq (ho : Unbegun c) (hrun : Control.Run Steady c ms) (ht : .came t ∈ c.deeds ms) :
    t.runs (c.deeds ms) = Deed.times Deed.ran? t.seq (c.deeds ms) := by
  unfold Task.runs
  rw [(inTurn_after ho hrun).origin_eq t ht]

/-- A task that waits is unchanged until its next run. -/
theorem unchanged_append (ho : Unbegun c) (hrun : Control.Run Steady c (later ++ ms))
    (ht : .came t ∈ c.deeds ms) (hv : v ∈ (c.after ms).queue.tasks)
    (horigin : origin (c.deeds ms) v.seq = t.seq)
    (hruns : t.runs (c.deeds (later ++ ms)) = t.runs (c.deeds ms)) :
    Unchanged c (later ++ ms) t v := by
  have hstart : Resting (c.after ms) (c.deeds ms) t.seq v :=
    ⟨List.mem_append_left _ hv, horigin, (tallied_after ho hrun.of_append).waiting v hv⟩
  rw [runs_eq ho hrun (deeds_append_subset ms later ht), runs_eq ho hrun.of_append ht] at hruns
  obtain hrest | hlt := resting_append ho hstart hrun
  · have ha := (accounted_after ho hrun).2
    have hsame : ∀ w ∈ (c.after (later ++ ms)).told (c.deeds (later ++ ms)),
        origin (c.deeds (later ++ ms)) w.seq = t.seq → w = v :=
      fun w hw hw' => ha.eq_of_origin_eq hw hrest.mem (hw'.trans hrest.origin.symm)
    refine ⟨hsame, fun m w p he hw => ?_⟩
    obtain ⟨S, k, choice, -, hk⟩ := step_of_deed he rfl
    have hin : w ∈ (c.after (later ++ ms)).inHand := mem_inHand (hand_of_dispatch? hk)
    obtain rfl := hsame w (List.mem_append_right _ (List.mem_append_left _ hin)) hw
    exact ⟨rfl, (inTurn_after ho hrun).held k w hk⟩
  · omega

/-! ### The theorem -/

/-- With a move, after others, a task waits again after the `n`-th run of it that failed, in a place
behind all that tasks ever had, and it is unchanged until its next run. -/
structure WaitsAgain (c : Control ω) (m : Move ω) (ms : List (Move ω)) (t u : Task) (n : Nat) :
    Prop where
  retry : t.IsRetry u n (c.after ms).elapsed
  tasks : (c.after (m :: ms)).queue.tasks = (c.after ms).queue.tasks ++ [u]
  last : ∀ later earlier, ms = later ++ earlier →
    ∀ v ∈ (c.after earlier).told (c.deeds earlier), v.seq < u.seq
  next : ∀ later, Control.Run Steady c (later ++ m :: ms) →
    t.runs (c.deeds (later ++ m :: ms)) = n → Unchanged c (later ++ m :: ms) t u

/-- A task whose run failed comes to wait again. -/
theorem waitsAgain_of_back (ho : Unbegun c) (hrun : Control.Run Steady c ms)
    (ht : .came t ∈ c.deeds ms) (hu : u ∈ (c.after ms).told (c.deeds ms))
    (horigin : origin (c.deeds ms) u.seq = t.seq) (hattempt : u.attempt = t.runs (c.deeds ms))
    {u' : Task} (hu' : u' = u.retried (c.after ms).elapsed (c.after ms).queue.nextSeq)
    {o : Option (Outcome Json.Value)}
    (htasks : (c.after (m :: ms)).queue.tasks = (c.after ms).queue.tasks ++ [u'])
    (hdeed : (c.after ms).deed? m = some (.back u u' o)) :
    WaitsAgain c m ms t u' u.attempt := by
  have hdeeds : c.deeds (m :: ms) = .back u u' o :: c.deeds ms :=
    congrArg (·.toList ++ c.deeds ms) hdeed
  have hentered := (accounted_after ho hrun).2.entered_eq hu ht horigin
  have hid : u.id = t.id := congrArg (fun e => e.2.1) hentered
  have horder : u.toTaskOrder = t.toTaskOrder := congrArg (fun e => e.2.2) hentered
  refine ⟨⟨?_, ?_, ?_, ?_⟩, htasks, fun later earlier hsplit v hv => ?_,
    fun later hrun' hruns => ?_⟩
  · rw [hu']
    rfl
  · rw [hu', ← congrArg TaskOrder.policy horder]
    rfl
  · rw [hu']
    exact hid
  · rw [hu']
    exact horder
  · -- The place is the next one, and every place that was given before is lower.
    rw [hu']
    subst hsplit
    have hlt := (accounted_after ho hrun.of_append).2.told_lt v hv
    exact Nat.lt_of_lt_of_le hlt (origin_append hrun).1
  · have ht' : .came t ∈ c.deeds (m :: ms) := List.mem_append_right _ ht
    have hu'mem : u' ∈ (c.after (m :: ms)).queue.tasks := by
      rw [htasks]
      exact List.mem_append_right _ (List.mem_singleton_self _)
    have horigin' : origin (c.deeds (m :: ms)) u'.seq = t.seq := by
      rw [hdeeds]
      show origin (c.deeds ms) (if u'.seq = u'.seq then u.seq else u'.seq) = _
      rw [if_pos rfl, horigin]
    have hnone : t.runs (c.deeds (m :: ms)) = t.runs (c.deeds ms) := by
      rw [runs_eq ho hrun'.of_append ht', runs_eq ho hrun ht, hdeeds]
      exact Deed.times_of_none rfl
    refine unchanged_append ho hrun' ht' hu'mem horigin' ?_
    rw [hruns, hattempt, hnone]

/-- A task neither waits nor is in hand, whatever comes. -/
def IsGone (c : Control ω) (ms : List (Move ω)) (t : Task) : Prop :=
  ∀ later, Control.Run Steady c (later ++ ms) →
    ∀ v ∈ (c.after (later ++ ms)).queue.tasks ++ (c.after (later ++ ms)).inHand,
      origin (c.deeds (later ++ ms)) v.seq ≠ t.seq

/-- A task that has ended is gone. -/
theorem isGone_of_ended (ho : Unbegun c) {o : Outcome Json.Value} {p : Running Unit}
    (hu : .ended u o p ∈ c.deeds ms) (horigin : origin (c.deeds ms) u.seq = t.seq) :
    IsGone c ms t := by
  intro later hrun
  have hgone : ∀ {ds : List Deed}, .ended u o p ∈ ds → u ∈ ds.filterMap Deed.gone? :=
    fun h => List.mem_filterMap.mpr ⟨_, h, rfl⟩
  have hlt := (accounted_after ho hrun.of_append).2.told_lt u
    (List.mem_append_right _ (List.mem_append_right _ (hgone hu)))
  have hlater : origin (c.deeds (later ++ ms)) u.seq = t.seq :=
    ((origin_append hrun).2 _ hlt).trans horigin
  rw [← hlater]
  exact (accounted_after ho hrun).2.not_told_of_gone (hgone (deeds_append_subset ms later hu))

/-- Of a task no run of which said that the program is being stopped: every run has the number that
it has among the runs of the task. If it fails and the policy allows more, the task waits for the
next run, for as long as the policy says after a run with this number; if the policy allows no more,
what follows is told the failure, and the task is gone. While the task waits it is unchanged until
its next run, which does not start before it is due. Where a run is refused because of draining, the
task waits again as it was and has been run no more often. No number of 32 bits overflows. -/
theorem retry_schedule (ho : Unbegun c) (hrun : Control.Run Steady c ms)
    (ht : .came t ∈ c.deeds ms) (hcounted : t.uncounted (c.deeds ms) = 0) :
    (∀ m u p, (c.after ms).deed? m = some (.ran u p) → origin (c.deeds ms) u.seq = t.seq →
      u.attempt = t.runs (c.deeds ms) + 1) ∧
    (∀ S k choice u f, (c.after ms).dispatch? k = some (.processing u (.done (.error f))) →
      f ≠ .shuttingDown → origin (c.deeds ms) u.seq = t.seq →
      u.attempt = t.runs (c.deeds ms) ∧
      (t.runs (c.deeds ms) < t.policy.maxRuns →
        ∃ u', WaitsAgain c (.step S k choice) ms t u' (t.runs (c.deeds ms))) ∧
      (t.policy.maxRuns ≤ t.runs (c.deeds ms) →
        (c.after (.step S k choice :: ms)).dispatch? k
          = some (.following (FollowUp.after t.onError (.error f))) ∧
        IsGone c (.step S k choice :: ms) t)) ∧
    (∀ v ∈ (c.after ms).queue.tasks, origin (c.deeds ms) v.seq = t.seq →
      ∀ later, Control.Run Steady c (later ++ ms) →
        t.runs (c.deeds (later ++ ms)) = t.runs (c.deeds ms) → Unchanged c (later ++ ms) t v) ∧
    (∀ S k choice u process, (c.after ms).drain.draining = true →
      (c.after ms).dispatch? k = some (.holding u) →
      (c.after ms).processors u.kind = some process →
      (c.after (.step S k choice :: ms)).queue = (c.after ms).queue.putBack u ∧
        t.runs (c.deeds (.step S k choice :: ms)) = t.runs (c.deeds ms)) ∧
    (t.policy.maxRuns ≤ Text.maxWord32 →
      ∀ v ∈ (c.after ms).told (c.deeds ms), origin (c.deeds ms) v.seq = t.seq →
        v.attempt ≤ Text.maxWord32) := by
  have h := tallied_after ho hrun
  have ha := (accounted_after ho hrun).2
  -- Whatever the task is now, it has been run as often as the one that came.
  have hruns : ∀ {u : Task} {started : Bool}, origin (c.deeds ms) u.seq = t.seq →
      u.Tally (c.deeds ms) started → t.runs (c.deeds ms) + 1 = u.attempt + started.toNat := by
    intro u started horigin htally
    have hself := (inTurn_after ho hrun).origin_eq t ht
    have hcount := htally.runs
    unfold Task.uncounted at hcount hcounted
    unfold Task.runs at hcount ⊢
    rw [hself] at hcounted ⊢
    rw [horigin, hcounted] at hcount
    exact hcount
  refine ⟨fun m u p he horigin => ?_, fun S k choice u f hd hf horigin => ?_,
    fun v hv horigin later hrun' => unchanged_append ho hrun' ht hv horigin,
    fun S k choice u process hdrain hd hp => ⟨queue_step_of_holding hdrain hd hp choice, ?_⟩,
    fun hmax v hv horigin => ?_⟩
  · obtain ⟨S, k, choice, -, hk⟩ := step_of_deed he rfl
    have := hruns horigin (h.holding k u hk)
    simp only [Bool.toNat_false] at this
    omega
  · have hattempt : u.attempt = t.runs (c.deeds ms) := by
      have := hruns horigin (h.processing k u _ hd)
      simp only [Bool.toNat_true] at this
      omega
    have hin : u ∈ (c.after ms).told (c.deeds ms) := List.mem_append_right _
      (List.mem_append_left _ (mem_inHand (hand_of_dispatch? hd)))
    have hentered := ha.entered_eq hin ht horigin
    have hid : u.id = t.id := congrArg (fun e => e.2.1) hentered
    have horder : u.toTaskOrder = t.toTaskOrder := congrArg (fun e => e.2.2) hentered
    have hpolicy : u.policy = t.policy := congrArg TaskOrder.policy horder
    obtain ⟨hmore, hlast⟩ := step_of_failed hd hf S choice
    rw [hattempt, hpolicy] at hmore hlast
    refine ⟨hattempt, fun hlt => ?_, fun hle => ?_⟩
    · obtain ⟨htasks, hdeed⟩ := hmore hlt
      rw [← hattempt]
      exact ⟨_, waitsAgain_of_back ho hrun ht hin horigin hattempt rfl htasks hdeed⟩
    · obtain ⟨hdispatch, hdeed⟩ := hlast hle
      rw [show u.onError = t.onError from congrArg TaskOrder.onError horder] at hdispatch
      have hdeeds : c.deeds (.step S k choice :: ms) = _ :: c.deeds ms :=
        congrArg (·.toList ++ c.deeds ms) hdeed
      refine ⟨hdispatch, isGone_of_ended ho (hdeeds ▸ List.mem_cons_self) ?_⟩
      rw [hdeeds]
      exact horigin
  · have hdeeds : c.deeds (.step S k choice :: ms) = .back u u none :: c.deeds ms :=
      congrArg (·.toList ++ c.deeds ms) (deed?_of_draining hdrain hd hp S choice)
    rw [hdeeds]
    exact t.runs_back u none _
  · obtain ⟨started, htally⟩ := h.exists_tally hv
    have hpolicy : v.policy = t.policy :=
      congrArg (fun e => e.2.2.policy) (ha.entered_eq hv ht horigin)
    have hle := htally.le
    rw [hpolicy] at hle
    have : 1 ≤ Text.maxWord32 := by decide
    omega

/-- A task comes that may run twice, and its first run fails. -/
def failing : List (Move Unit) :=
  List.replicate 3 (.step silent 0 0) ++
    [.dispatch, .enqueue silent { kind := "fail", payload := .null, policy := { maxRuns := 2 } },
      .register "fail" fun _ => throw (.internal "no")]

/-- Draining begins, and once the task is due again it is refused. -/
def refusedLater : List (Move Unit) :=
  List.replicate 3 (.step silent 2 0) ++ .pass 1000 :: .dispatch ::
    List.replicate 2 (.step silent 1 0) ++ [.stop [.beginDrain] .drained]

theorem run_refusedLater :
    Control.Run Steady { world := () } (refusedLater ++ .step silent 0 0 :: failing) := by
  simp [refusedLater, failing, Control.Run, Steady, silent_ne_panicked]

/-- After its first run the task waits for one second, and it does so still when it was refused. -/
theorem retry_schedule_refused :
    let c : Control Unit := { world := () }
    let ms : List (Move Unit) := .step silent 0 0 :: failing
    ∃ t u, .came t ∈ c.deeds failing ∧ WaitsAgain c (.step silent 0 0) failing t u 1 ∧
      u.attempt = 2 ∧ u.due = 1000 ∧ Unchanged c (refusedLater ++ ms) t u ∧
      (c.after (refusedLater ++ ms)).drain.draining = true ∧
      (c.after (refusedLater ++ ms)).queue.tasks.map Task.seq = [2] := by
  intro c ms
  obtain ⟨t, hcame, hseq⟩ : ∃ t ∈ (c.deeds failing).filterMap Deed.came?, t.seq = 1 := by
    decide +kernel
  have hfacts : ∀ t ∈ (c.deeds failing).filterMap Deed.came?, t.policy.maxRuns = 2 ∧
      t.policy.delay 1 = 1000 ∧ t.uncounted (c.deeds failing) = 0 ∧
      t.runs (c.deeds failing) = 1 ∧ t.runs (c.deeds (refusedLater ++ ms)) = 1 := by decide +kernel
  obtain ⟨hmax, hdelay, huncounted, hruns, hlater⟩ := hfacts t hcame
  obtain ⟨u, f, hd, horigin⟩ : ∃ u f,
      (c.after failing).dispatch? 0 = some (.processing u (.done (.error (.internal f)))) ∧
        origin (c.deeds failing) u.seq = 1 :=
    ⟨_, _, rfl, rfl⟩
  have ht := Deed.mem_came?.mp hcame
  have hrun : Control.Run Steady c failing := run_refusedLater.of_append.1
  obtain ⟨-, hfails, -⟩ := retry_schedule ⟨rfl, rfl, rfl⟩ hrun ht huncounted
  obtain ⟨-, hmore, -⟩ := hfails silent 0 0 u _ hd nofun (horigin.trans hseq.symm)
  rw [hruns, hmax] at hmore
  obtain ⟨u', hagain⟩ := hmore (by decide)
  have hdue : u'.due = 1000 := by
    rw [hagain.retry.due, hdelay]
    rfl
  exact ⟨t, u', ht, hagain, hagain.retry.attempt, hdue, hagain.next _ run_refusedLater hlater,
    by decide +kernel, by decide +kernel⟩

end Control

end GameFleet
