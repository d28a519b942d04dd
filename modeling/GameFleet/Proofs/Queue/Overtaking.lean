import GameFleet.Proofs.Queue.FirstCome

/-!
# Who is overtaken (specification §4.1)

A task that is due waits for those ahead of it and for no others. Every pick takes one of those
ahead away, and what comes to wait comes behind it, unless a task that was taken before waits again
in its old place because it was refused.

- `Control.picks`: what the dispatches of a run picked.
- `Control.ahead`: how many tasks wait ahead of a task.
- `Control.ahead_of_pick`, `Control.ahead_of_rest`: what a move does to a task that is due.
- `Control.not_overtaken`: the task is picked when those ahead of it have been.
- `Control.exists_overtaken`: it is overtaken by a task that was taken before and is refused, and
  by one that was stamped before and is pushed later.
-/

namespace GameFleet

/-- A task that was taken waits again because it was refused. -/
def Deed.isRefusal : Deed → Bool
  | back _ _ none => true
  | back _ _ (some (.error .shuttingDown)) => true
  | _ => false

namespace Control

variable {ω : Type} {c : Control ω} {m : Move ω} {later earlier : List (Move ω)} {x : Task}
  {o : Option Task} {k : Nat}

/-- What the dispatches of a run picked, the last first: tasks, or nothing. -/
def picks (c : Control ω) : List (Move ω) → List (Option Task)
  | [] => []
  | m :: earlier => ((c.after earlier).pick? m).toList ++ c.picks earlier

/-- How many tasks wait ahead of a task. -/
def ahead (c : Control ω) (x : Task) : Nat := c.queue.tasks.countP (·.before x)

/-- A task waits that is due. -/
structure IsReady (c : Control ω) (x : Task) : Prop where
  mem : x ∈ c.queue.tasks
  due : x.due ≤ c.elapsed

/-- A dispatch picks the task itself if nobody is ahead of it, and else one of those ahead. -/
theorem ahead_of_pick (hn : (c.queue.tasks.map Task.seq).Nodup) (hx : c.IsReady x)
    (hp : c.pick? m = some o) : ∃ t, o = some t ∧
      ((t = x ∧ c.ahead x = 0) ∨
        (t ≠ x ∧ (c.apply m).IsReady x ∧ (c.apply m).ahead x + 1 = c.ahead x)) := by
  obtain ⟨hfirst, -⟩ := pick_cases hp
  obtain ⟨-, hq⟩ := waiting_of_pick hp
  cases o with
  | none =>
    have hlate := TaskQueue.earliest?_eq_none_iff.mp hfirst.symm x hx.mem
    rw [Task.isDue_iff.mpr hx.due] at hlate
    cases hlate
  | some t =>
    refine ⟨t, rfl, ?_⟩
    obtain ⟨hmem, -⟩ := TaskQueue.earliest?_mem hfirst.symm
    by_cases hseq : x.seq = t.seq
    · -- The earliest is the task itself, so none comes before it.
      obtain rfl := TaskQueue.eq_of_seq_eq hn hx.mem hmem hseq
      refine .inl ⟨rfl, List.countP_eq_zero.mpr fun u hu => ?_⟩
      by_cases hu' : u.seq = x.seq
      · rw [TaskQueue.eq_of_seq_eq hn hu hmem hu', Task.not_before_self]
        exact Bool.false_ne_true
      · have hbefore := TaskQueue.before_of_earliest? hfirst.symm hu hu'
        rw [Task.not_before_of_before hbefore]
        exact Bool.false_ne_true
    · right
      change (c.apply m).queue.tasks = TaskQueue.without t.seq c.queue.tasks at hq
      have hbefore := TaskQueue.before_of_earliest? hfirst.symm hx.mem hseq
      refine ⟨fun h => hseq (congrArg Task.seq h.symm),
        ⟨?_, Nat.le_trans hx.due (le_elapsed_apply m)⟩, ?_⟩
      · rw [hq]
        exact (List.mem_eraseP_of_neg (by simpa using hseq)).mpr hx.mem
      · have hperm := (TaskQueue.perm_without hn hmem).countP_eq (·.before x)
        rw [List.countP_cons, if_pos hbefore] at hperm
        unfold ahead
        rw [hq, hperm]

/-- What comes to wait comes behind a task that is due, unless it was refused. -/
theorem behind_of_waiting {e : Deed} {t : Task} (hm : Steady c m) (hx : c.IsReady x)
    (hlt : x.seq < c.queue.nextSeq) (he : c.deed? m = some e) (hno : e.isRefusal = false)
    (ht : e.waiting? = some t) : t.before x = false := by
  have hlate : c.elapsed ≤ t.due → t.seq = c.queue.nextSeq → t.before x = false := by
    intro hdue hseq
    have := hx.due
    refine Bool.eq_false_iff.mpr fun hbefore => ?_
    rw [Task.before_iff] at hbefore
    omega
  have hdoes := does hm
  rw [he] at hdoes
  cases hdoes with
  | enqueues hnew _ =>
    cases ht
    exact hlate (Nat.le_of_eq hnew.due.symm) hnew.seq
  | retries _ _ _ _ _ hlater _ =>
    cases ht
    exact hlate (hlater.2 ▸ Nat.le_add_right ..) hlater.1
  | @returns _ _ o _ ho _ =>
    -- A task that waits again as it was has been refused.
    obtain ⟨rfl, -⟩ | rfl := ho <;> cases hno
  | _ => cases ht

/-- Where nothing is picked, a task that is due waits on, and nobody comes ahead of it. -/
theorem ahead_of_rest (hm : Steady c m) (hx : c.IsReady x) (hlt : x.seq < c.queue.nextSeq)
    (hno : ∀ e, c.deed? m = some e → e.isRefusal = false) (hp : c.pick? m = none) :
    (c.apply m).IsReady x ∧ (c.apply m).ahead x = c.ahead x := by
  have hq := waiting_apply hm hp
  refine ⟨⟨?_, Nat.le_trans hx.due (le_elapsed_apply m)⟩, ?_⟩
  · rw [hq]
    exact List.mem_append_left _ hx.mem
  · unfold ahead
    rw [hq, List.countP_append, Nat.add_eq_left, List.countP_eq_zero]
    intro t ht
    obtain ⟨e, he, ht⟩ := Option.bind_eq_some_iff.mp (Option.mem_toList.mp ht)
    rw [behind_of_waiting hm hx hlt he (hno e he) ht]
    exact Bool.false_ne_true

/-- While no more tasks were picked than were ahead of it, a task that is due waits, and those that
are ahead of it are those that were and have not been picked. -/
theorem ahead_after (ho : Unbegun c) (hrun : Control.Run Steady c (later ++ earlier))
    (hx : (c.after earlier).IsReady x)
    (hno : ∀ e ∈ (c.after earlier).deeds later, e.isRefusal = false)
    (hle : ((c.after earlier).picks later).length ≤ (c.after earlier).ahead x) :
    (c.after (later ++ earlier)).IsReady x ∧
      (c.after (later ++ earlier)).ahead x + ((c.after earlier).picks later).length
        = (c.after earlier).ahead x := by
  induction later with
  | nil => exact ⟨hx, rfl⟩
  | cons m later ih =>
    rw [List.cons_append] at hrun ⊢
    have hafter : (c.after earlier).after later = c.after (later ++ earlier) :=
      (after_append later earlier).symm
    simp only [picks, deeds, hafter, List.length_append] at hle hno ⊢
    obtain ⟨hready, hahead⟩ := ih hrun.1
      (fun e he => hno e (List.mem_append_right _ he)) (by omega)
    have ha := (accounted_after ho hrun.1).2
    show ((c.after (later ++ earlier)).apply m).IsReady x ∧
      ((c.after (later ++ earlier)).apply m).ahead x + _ = _
    cases hp : (c.after (later ++ earlier)).pick? m with
    | none =>
      have hlt := ha.told_lt x (List.mem_append_left _ hready.mem)
      obtain ⟨hready', hsame⟩ := ahead_of_rest hrun.2 hready hlt
        (fun e he => hno e (List.mem_append_left _ (Option.mem_toList.mpr he))) hp
      refine ⟨hready', ?_⟩
      rw [hsame]
      simpa using hahead
    | some o =>
      rw [hp] at hle
      obtain ⟨t, -, ⟨-, hzero⟩ | ⟨-, hready', hless⟩⟩ := ahead_of_pick ha.nodup_seq hready hp
      · simp only [Option.toList_some, List.length_singleton] at hle
        omega
      · refine ⟨hready', ?_⟩
        simp only [Option.toList_some, List.length_singleton]
        omega

/-- A task that is due is picked as soon as all that were ahead of it have been, and not before, if
meanwhile no task is refused that was taken: whenever it is the turn of a dispatch until then, it
picks a task, and it picks this one just when as many have been picked as were ahead. A task that
comes, or is to run again, is stamped and waits in one step. -/
theorem not_overtaken (ho : Unbegun c) (hrun : Control.Run Steady c (later ++ earlier))
    (hmem : x ∈ (c.after earlier).queue.tasks) (hdue : x.due ≤ (c.after earlier).elapsed)
    (hno : ∀ e ∈ (c.after earlier).deeds later, e.isRefusal = false)
    (hle : ((c.after earlier).picks later).length ≤ (c.after earlier).ahead x)
    (hd : (c.after (later ++ earlier)).dispatch? k = some .inLine)
    (hhead : (c.after (later ++ earlier)).line.head? = some k)
    (S : Surroundings ω) (choice : Nat) :
    ∃ t, (c.after (later ++ earlier)).pick? (.step S k choice) = some (some t) ∧
      (t = x ↔ ((c.after earlier).picks later).length = (c.after earlier).ahead x) := by
  obtain ⟨hready, hahead⟩ := ahead_after ho hrun ⟨hmem, hdue⟩ hno hle
  have hp := pick?_step hd hhead S choice
  obtain ⟨t, hfirst, ht⟩ := ahead_of_pick (accounted_after ho hrun).2.nodup_seq hready hp
  refine ⟨t, hp.trans (congrArg some hfirst), ?_⟩
  obtain ⟨htx, hzero⟩ | ⟨htx, -, hless⟩ := ht
  · constructor
    · intro _
      omega
    · intro _
      exact htx
  · constructor
    · intro h
      exact absurd h htx
    · intro _
      omega

/-- Both tasks wait, and the second is picked once the first has been. -/
theorem not_overtaken_secondTry :
    let c : Control Unit := { world := () }
    let earlier := secondTry.drop 17
    let later := (secondTry.drop 8).take 9
    ∃ x ∈ (c.after earlier).queue.tasks, x.kind = "echo" ∧ (c.after earlier).ahead x = 1 ∧
      (c.after (later ++ earlier)).pick? (.step silent 1 0) = some (some x) := by
  intro c earlier later
  obtain ⟨x, hmem, hseq⟩ : ∃ x ∈ (c.after earlier).queue.tasks, x.seq = 2 := by decide +kernel
  have hfacts : ∀ x ∈ (c.after earlier).queue.tasks, x.seq = 2 → x.kind = "echo" ∧
      x.due ≤ (c.after earlier).elapsed ∧ (c.after earlier).ahead x = 1 := by decide +kernel
  have hno : ∀ e ∈ (c.after earlier).deeds later, e.isRefusal = false := by decide +kernel
  have hpicks : ((c.after earlier).picks later).length = 1 := by decide +kernel
  have hsome : ((c.after (later ++ earlier)).pick? (.step silent 1 0)).isSome = true := by
    decide +kernel
  obtain ⟨o, hpick⟩ := Option.isSome_iff_exists.mp hsome
  obtain ⟨-, _, _, _, ⟨⟩, hd, hhead⟩ := pick_cases hpick
  obtain ⟨hkind, hdue, hahead⟩ := hfacts x hmem hseq
  have hrun : Control.Run Steady c (later ++ earlier) :=
    Control.Run.of_append ((List.take_append_drop 8 secondTry).symm ▸ run_secondTry)
  have heq : ((c.after earlier).picks later).length = (c.after earlier).ahead x := by
    rw [hpicks, hahead]
  obtain ⟨t, hp, ht⟩ := not_overtaken ⟨rfl, rfl, rfl⟩ hrun hmem hdue hno (Nat.le_of_eq heq)
    hd hhead silent 0
  rw [ht.mpr heq] at hp
  exact ⟨x, hmem, hkind, hahead, hp⟩

/-- A task is taken, and its run says that the program is being stopped. Meanwhile another comes,
and then a dispatch comes. -/
def refusedMeanwhile : List (Move Unit) :=
  let task (kind : String) : Move Unit := .enqueue silent { kind, payload := .null }
  let turn (tid : Nat) : Move Unit := .step silent tid 0
  [turn 1, turn 1, .dispatch, turn 0, task "echo", turn 0, turn 0, turn 0, .dispatch, task "stop",
    .register "echo" pure, .register "stop" fun _ => throw .shuttingDown]

theorem run_refusedMeanwhile : Control.Run Steady { world := () } refusedMeanwhile := by
  simp [refusedMeanwhile, Control.Run, Steady, silent_ne_panicked]

/-- It is not enough that no task is refused that was picked meanwhile: a task that had been taken
before may be refused, and then overtakes one that is due and had nobody ahead of it. Nor would it
be enough for tasks that are stamped in one step and pushed in another: what was stamped first and
is pushed last overtakes what waits. -/
theorem exists_overtaken :
    (¬∀ (c : Control Unit) (later earlier : List (Move Unit)) (x : Task), Unbegun c →
      Control.Run Steady c (later ++ earlier) →
      x ∈ (c.after earlier).queue.tasks → x.due ≤ (c.after earlier).elapsed →
      (∀ e ∈ (c.after earlier).deeds later, e.isRefusal = true →
        ∀ t, e.handled? = some t → some t ∉ (c.after earlier).picks later) →
      ((c.after earlier).picks later).length ≤ (c.after earlier).ahead x →
      ∀ k, (c.after (later ++ earlier)).dispatch? k = some .inLine →
        (c.after (later ++ earlier)).line.head? = some k → ∀ S choice,
        ∃ t, (c.after (later ++ earlier)).pick? (.step S k choice) = some (some t) ∧
          (t = x ↔ ((c.after earlier).picks later).length = (c.after earlier).ahead x)) ∧
    let order : TaskOrder := { kind := "echo", payload := .null }
    let a := TaskQueue.stamp {} order "a" 1 0
    let x := a.2.stamp order "x" 1 0
    let waiting := x.2.push x.1
    (x.1 ∈ waiting.tasks ∧ x.1.due ≤ 0 ∧ ∀ t ∈ waiting.tasks, t.before x.1 = false) ∧
      (waiting.push a.1).takeDue 0 = some (a.1, waiting) ∧ a.1 ≠ x.1 := by
  refine ⟨fun hclaim => ?_, ⟨List.mem_singleton_self _, Nat.le_refl 0, ?_⟩, rfl, ?_⟩
  · let c : Control Unit := { world := () }
    let earlier := refusedMeanwhile.drop 4
    let later := (refusedMeanwhile.drop 1).take 3
    obtain ⟨x, hmem, hseq⟩ : ∃ x ∈ (c.after earlier).queue.tasks, x.seq = 2 := by decide +kernel
    have hfacts : ∀ x ∈ (c.after earlier).queue.tasks, x.seq = 2 →
        x.due ≤ (c.after earlier).elapsed ∧ (c.after earlier).ahead x = 0 := by decide +kernel
    have hpicks : (c.after earlier).picks later = [] := by
      refine List.length_eq_zero_iff.mp ?_
      decide +kernel
    have hfirst : ((c.after (later ++ earlier)).pick? (.step silent 1 0)).map (Option.map Task.seq)
        = some (some 1) := by decide +kernel
    obtain ⟨hdue, hahead⟩ := hfacts x hmem hseq
    obtain ⟨o, hpick, -⟩ := Option.map_eq_some_iff.mp hfirst
    obtain ⟨-, _, _, _, ⟨⟩, hd, hhead⟩ := pick_cases hpick
    have hrun : Control.Run Steady c (later ++ earlier) :=
      Control.Run.of_append ((List.take_append_drop 1 refusedMeanwhile).symm ▸ run_refusedMeanwhile)
    have heq : ((c.after earlier).picks later).length = (c.after earlier).ahead x := by
      rw [hpicks, hahead]
      rfl
    obtain ⟨t, hp, ht⟩ := hclaim c later earlier x ⟨rfl, rfl, rfl⟩ hrun hmem hdue
      (fun e _ _ t _ => by simp [hpicks]) (Nat.le_of_eq heq) 1 hd hhead silent 0
    rw [hp, ht.mpr heq, Option.map_some, Option.map_some, hseq] at hfirst
    cases hfirst
  · exact List.forall_mem_singleton.mpr (Task.not_before_self _)
  · exact fun hsame => absurd (congrArg Task.seq hsame) (by decide)

end Control

end GameFleet
