import GameFleet.Proofs.Queue.Line

/-!
# Where tasks are

Every task that came waits, or a dispatch has it in hand, or it has ended, and it is in one of these
places only.

- `origin`: which task a task is that waits for its next run.
- `Control.told`: the tasks in all places.
- `Control.Accounted`: the invariant: the tasks in all places are those that came.
- `Control.Does.told`: a move takes a task from one place to another, or a task comes.
- `Control.Accounted.of_does`: every move keeps it.
-/

namespace GameFleet

/-- The place that a task had when it came, from the place that it has. -/
def origin : List Deed → Nat → Nat
  | [], s => s
  | .back t t' _ :: earlier, s => origin earlier (if s = t'.seq then t.seq else s)
  | _ :: earlier, s => origin earlier s

/-- The place that a task had when it came, its name, and what it was enqueued with. -/
def Task.entered (ds : List Deed) (t : Task) : Nat × String × TaskOrder :=
  (origin ds t.seq, t.id, t.toTaskOrder)

namespace Deed

/-- The task that came. -/
def came? : Deed → Option Task
  | came t => some t
  | _ => none

/-- The task that has ended. -/
def gone? : Deed → Option Task
  | dropped t _ => some t
  | ended t _ _ => some t
  | _ => none

/-- The task that a dispatch had in hand. -/
def handled? : Deed → Option Task
  | came _ => none
  | ran t _ => some t
  | back t _ _ => some t
  | dropped t _ => some t
  | ended t _ _ => some t

theorem mem_came? {ds : List Deed} {t : Task} : t ∈ ds.filterMap came? ↔ .came t ∈ ds := by
  rw [List.mem_filterMap]
  constructor
  · rintro ⟨e, he, h⟩
    cases e with
    | came => exact Option.some.inj h ▸ he
    | _ => cases h
  · exact fun h => ⟨_, h, rfl⟩

end Deed

/-- Whether a task came that is now, perhaps after some runs, another one. -/
def Task.isOriginOf (ds : List Deed) (t u : Task) : Bool := origin ds u.seq == t.seq

/-! ### Lists -/

section

variable {α β : Type}

/-- One element of a list is replaced, and of what comes of the others nothing changes. -/
theorem filterMap_set_perm {f : α → Option β} {l : List α} {i : Nat} {a : α}
    (h : l[i]? = some a) (b : α) :
    ∃ rest, (l.filterMap f).Perm ((f a).toList ++ rest) ∧
      ((l.set i b).filterMap f).Perm ((f b).toList ++ rest) := by
  obtain ⟨hlt, rfl⟩ := List.getElem?_eq_some_iff.mp h
  refine ⟨(l.take i).filterMap f ++ (l.drop (i + 1)).filterMap f, ?_, ?_⟩
  · have hl : l = l.take i ++ l[i] :: l.drop (i + 1) := by
      rw [← List.drop_eq_getElem_cons hlt, List.take_append_drop]
    refine .trans (.of_eq (congrArg (List.filterMap f) hl)) ?_
    rw [List.filterMap_append, List.filterMap_cons]
    cases f l[i] with
    | none => exact .refl _
    | some x => exact List.perm_middle
  · rw [List.set_eq_take_append_cons_drop, if_pos hlt, List.filterMap_append, List.filterMap_cons]
    cases f b with
    | none => exact .refl _
    | some x => exact List.perm_middle

/-- The tasks without one of them. -/
theorem TaskQueue.perm_without {tasks : List Task} {t : Task}
    (hn : (tasks.map Task.seq).Nodup) (h : t ∈ tasks) :
    tasks.Perm (t :: TaskQueue.without t.seq tasks) := by
  unfold TaskQueue.without
  induction tasks with
  | nil => cases h
  | cons s rest ih =>
    rw [List.map_cons, List.nodup_cons] at hn
    by_cases hs : s.seq = t.seq
    · rw [List.eraseP_cons_of_pos (by simpa using hs)]
      rcases List.mem_cons.mp h with rfl | h
      · exact .refl _
      · exact absurd (List.mem_map.mpr ⟨t, h, hs.symm⟩) hn.1
    · rw [List.eraseP_cons_of_neg (by simpa using hs)]
      rcases List.mem_cons.mp h with rfl | h
      · exact absurd rfl hs
      · exact ((ih hn.2 h).cons s).trans (.swap ..)

end

namespace Control

variable {ω : Type} {c c' : Control ω} {e : Option Deed} {ds : List Deed} {t : Task}

/-- The tasks in all places: those that wait, those in hand, and those that have ended. -/
def told (c : Control ω) (ds : List Deed) : List Task :=
  c.queue.tasks ++ (c.inHand ++ ds.filterMap Deed.gone?)

/-- The tasks in all places are those that came. -/
structure Accounted (c : Control ω) (ds : List Deed) : Prop where
  told_lt : ∀ t ∈ c.told ds, t.seq < c.queue.nextSeq
  came_lt : ∀ t ∈ ds.filterMap Deed.came?, t.seq < c.queue.nextSeq
  origin_eq : ∀ s, c.queue.nextSeq ≤ s → origin ds s = s
  perm : ((c.told ds).map (Task.entered ds)).Perm
    ((ds.filterMap Deed.came?).map (Task.entered []))
  nodup : ((ds.filterMap Deed.came?).map Task.seq).Nodup

/-! ### From place to place -/

/-- One hand has changed. -/
theorem inHand_set {tid : Nat} {h h' : Hand} (hc : c'.hands = c.hands.set tid h')
    (hhand : c.hands[tid]? = some h) :
    ∃ rest, c.inHand.Perm (h.task?.toList ++ rest) ∧ c'.inHand.Perm (h'.task?.toList ++ rest) := by
  unfold inHand
  rw [hc]
  exact filterMap_set_perm hhand h'

section

variable (waiting inHand gone : List Task) (t : Task)

theorem perm_waiting : ((waiting ++ [t]) ++ (inHand ++ gone)).Perm
    (t :: (waiting ++ (inHand ++ gone))) := by
  rw [List.append_assoc]
  exact List.perm_middle

theorem perm_inHand : (waiting ++ ((t :: inHand) ++ gone)).Perm
    (t :: (waiting ++ (inHand ++ gone))) := List.perm_middle

theorem perm_gone : (waiting ++ (inHand ++ t :: gone)).Perm
    (t :: (waiting ++ (inHand ++ gone))) :=
  (List.perm_middle.append_left waiting).trans List.perm_middle

end

/-- Nothing is new: at most one task has changed its place. -/
structure Keeps (c c' : Control ω) (ds ds' : List Deed) : Prop where
  told : (c'.told ds').Perm (c.told ds)
  nextSeq : c'.queue.nextSeq = c.queue.nextSeq
  origin : ∀ s, origin ds' s = origin ds s
  came : ds'.filterMap Deed.came? = ds.filterMap Deed.came?

/-- Nothing is taken from any place. -/
theorem Keeps.of_inHand {ds' : List Deed} (hi : c'.inHand.Perm c.inHand) (hq : c'.queue = c.queue)
    (ho : ∀ s, GameFleet.origin ds' s = GameFleet.origin ds s)
    (hc : ds'.filterMap Deed.came? = ds.filterMap Deed.came?)
    (hg : ds'.filterMap Deed.gone? = ds.filterMap Deed.gone?) : Keeps c c' ds ds' := by
  refine ⟨?_, congrArg TaskQueue.nextSeq hq, ho, hc⟩
  unfold Control.told
  rw [hq, hg]
  exact (hi.append_right _).append_left _

/-- A task that was in hand is in another place. -/
theorem Keeps.of_told {ds' : List Deed} {rest : List Task} (hi : c.inHand.Perm (t :: rest))
    (hq : c'.queue.nextSeq = c.queue.nextSeq)
    (ho : ∀ s, GameFleet.origin ds' s = GameFleet.origin ds s)
    (hc : ds'.filterMap Deed.came? = ds.filterMap Deed.came?)
    (ht : (c'.told ds').Perm
      (t :: (c.queue.tasks ++ (rest ++ ds.filterMap Deed.gone?)))) : Keeps c c' ds ds' := by
  refine ⟨ht.trans ?_, hq, ho, hc⟩
  refine (perm_inHand c.queue.tasks rest (ds.filterMap Deed.gone?) t).symm.trans ?_
  exact (hi.symm.append_right _).append_left _

/-- A move leaves every task where it is, or takes one from one place to another; or a task comes;
or a task waits for its next run. -/
theorem Does.told (hd : Does c c' e) (hn : (c.queue.tasks.map Task.seq).Nodup) (ds : List Deed) :
    Keeps c c' ds (e.toList ++ ds) ∨
    (∃ t, e = some (.came t) ∧ t.seq = c.queue.nextSeq ∧
      c'.queue.nextSeq = c.queue.nextSeq + 1 ∧ (c'.told (.came t :: ds)).Perm (t :: c.told ds)) ∨
    ∃ t t' o rest, e = some (.back t t' o) ∧ t'.seq = c.queue.nextSeq ∧
      c'.queue.nextSeq = c.queue.nextSeq + 1 ∧ t'.id = t.id ∧ t'.toTaskOrder = t.toTaskOrder ∧
      (c.told ds).Perm (t :: rest) ∧ (c'.told (.back t t' o :: ds)).Perm (t' :: rest) := by
  have hsame : c'.hands = c.hands → c'.inHand.Perm c.inHand := by
    intro hh
    unfold inHand
    rw [hh]
  -- A task ends that was in hand.
  have hends : ∀ {tid : Nat} {t : Task} {h : Hand} {d : Deed},
      c.hands[tid]? = some (.busy (some t)) → h.task? = none → d.gone? = some t →
      d.came? = none → (∀ s, origin (d :: ds) s = origin ds s) →
      c'.hands = c.hands.set tid h → c'.queue = c.queue → Keeps c c' ds (d :: ds) := by
    intro tid t h d hhand hnone hgone hcame horigin hh hq
    obtain ⟨rest, hi, hi'⟩ := inHand_set hh hhand
    rw [hnone] at hi'
    refine .of_told hi (congrArg TaskQueue.nextSeq hq) horigin ?_ ?_
    · rw [List.filterMap_cons, hcame]
    · unfold Control.told
      rw [hq, List.filterMap_cons, hgone]
      exact ((hi'.append_right _).append_left _).trans (perm_gone ..)
  cases hd with
  | nothing hc => exact .inl (.of_inHand (hsame hc.hands) hc.queue (fun _ => rfl) rfl rfl)
  | spawns hc =>
    refine .inl (.of_inHand ?_ hc.queue (fun _ => rfl) rfl rfl)
    unfold inHand
    rw [hc.hands, List.filterMap_append]
    exact .of_eq (List.append_nil _)
  | @enqueues t hnew hc =>
    refine .inr (.inl ⟨t, rfl, hnew.seq, congrArg TaskQueue.nextSeq hc.queue, ?_⟩)
    unfold Control.told
    rw [hc.queue]
    exact (((hsame hc.hands).append_right _).append_left _).trans (perm_waiting ..)
  | joins hhand hc =>
    obtain ⟨rest, hi, hi'⟩ := inHand_set hc.hands hhand
    exact .inl (.of_inHand (hi'.trans hi.symm) hc.queue (fun _ => rfl) rfl rfl)
  | @takes tid t hhand _ hfirst hc =>
    obtain ⟨rest, hi, hi'⟩ := inHand_set hc.hands hhand
    refine .inl ⟨?_, by rw [hc.queue], fun _ => rfl, rfl⟩
    unfold Control.told
    rw [hc.queue]
    refine ((hi'.append_right _).append_left _).trans ?_
    refine (perm_inHand ..).trans ?_
    have hmem := (TaskQueue.earliest?_mem hfirst).1
    exact (TaskQueue.perm_without hn hmem).symm.append (hi.symm.append_right _)
  | leaves hhand hnone hc =>
    obtain ⟨rest, hi, hi'⟩ := inHand_set hc.hands hhand
    rw [hnone] at hi
    exact .inl (.of_inHand (hi'.trans hi.symm) hc.queue (fun _ => rfl) rfl rfl)
  | runs _ _ _ hc => exact .inl (.of_inHand (hsame hc.hands) hc.queue (fun _ => rfl) rfl rfl)
  | drops hhand _ hc =>
    exact .inl (hends hhand rfl rfl rfl (fun _ => rfl) hc.hands hc.queue)
  | @returns tid t o hhand _ hc =>
    obtain ⟨rest, hi, hi'⟩ := inHand_set hc.hands hhand
    refine .inl (.of_told hi (by rw [hc.queue]; rfl) (fun s => ?_) rfl ?_)
    · show origin ds (if s = t.seq then t.seq else s) = origin ds s
      split
      · rename_i hs
        rw [hs]
      · rfl
    · unfold Control.told
      rw [hc.queue]
      exact ((hi'.append_right _).append_left _).trans (perm_waiting ..)
  | @retries tid t t' f hhand _ _ _ hsame hlater hc =>
    obtain ⟨rest, hi, hi'⟩ := inHand_set hc.hands hhand
    refine .inr (.inr ⟨t, t', _, c.queue.tasks ++ (rest ++ ds.filterMap Deed.gone?), rfl, hlater.1,
      congrArg TaskQueue.nextSeq hc.queue, hsame.1, hsame.2, ?_, ?_⟩)
    · exact ((hi.append_right _).append_left _).trans (perm_inHand ..)
    · unfold Control.told
      rw [hc.queue]
      exact ((hi'.append_right _).append_left _).trans (perm_waiting ..)
  | succeeds hhand hc =>
    exact .inl (hends hhand rfl rfl rfl (fun _ => rfl) hc.hands hc.queue)
  | fails hhand _ _ hc =>
    exact .inl (hends hhand rfl rfl rfl (fun _ => rfl) hc.hands hc.queue)

/-- The tasks that there were keep their origins. -/
theorem Does.origin_eq (hd : Does c c' e) (ds : List Deed) {s : Nat} (hs : s < c.queue.nextSeq) :
    origin (e.toList ++ ds) s = origin ds s := by
  cases hd with
  | @returns tid t o _ _ _ =>
    show origin ds (if s = t.seq then t.seq else s) = origin ds s
    split
    · rename_i h
      rw [h]
    · rfl
  | @retries tid t t' f _ _ _ _ _ hlater _ =>
    show origin ds (if s = t'.seq then t.seq else s) = origin ds s
    rw [if_neg (by omega)]
  | _ => rfl

namespace Accounted

/-- No two tasks in any places are the same task. -/
theorem nodup_origin (h : Accounted c ds) :
    ((c.told ds).map fun t => origin ds t.seq).Nodup := by
  have hperm := h.perm.map Prod.fst
  rw [List.map_map, List.map_map] at hperm
  exact hperm.nodup_iff.mpr h.nodup

/-- Tasks are told apart by their origins. -/
theorem eq_of_origin_eq (h : Accounted c ds) {s u : Task} (hs : s ∈ c.told ds)
    (hu : u ∈ c.told ds) (heq : origin ds s.seq = origin ds u.seq) : s = u :=
  List.inj_on_of_nodup_map h.nodup_origin hs hu heq

/-- The tasks that wait have different places. -/
theorem nodup_seq (h : Accounted c ds) : (c.queue.tasks.map Task.seq).Nodup := by
  have htold : ((c.told ds).map Task.seq).Nodup := by
    refine .of_map (origin ds) ?_
    rw [List.map_map]
    exact h.nodup_origin
  exact htold.sublist ((List.sublist_append_left ..).map _)

/-- Every task in any place is one that came. -/
theorem exists_came {u : Task} (h : Accounted c ds) (hu : u ∈ c.told ds) :
    ∃ t, .came t ∈ ds ∧ u.entered ds = t.entered [] := by
  have hmem := h.perm.mem_iff.mp (List.mem_map_of_mem hu)
  obtain ⟨t, ht, heq⟩ := List.mem_map.mp hmem
  exact ⟨t, Deed.mem_came?.mp ht, heq.symm⟩

/-- Every task that came is in one place, once. -/
theorem countP_isOriginOf (h : Accounted c ds) (ht : .came t ∈ ds) :
    (c.told ds).countP (t.isOriginOf ds) = 1 := by
  have hmem : t.seq ∈ (c.told ds).map fun u => origin ds u.seq := by
    obtain ⟨u, hu, heq⟩ := List.mem_map.mp
      (h.perm.mem_iff.mpr (List.mem_map_of_mem (Deed.mem_came?.mpr ht)))
    exact List.mem_map.mpr ⟨u, hu, congrArg Prod.fst heq⟩
  have hcount := List.count_eq_one_of_mem h.nodup_origin hmem
  rw [List.count, List.countP_map] at hcount
  exact hcount

theorem of_keeps {ds' : List Deed} (h : Accounted c ds) (hk : Keeps c c' ds ds') :
    Accounted c' ds' := by
  have hentered : Task.entered ds' = Task.entered ds := by
    funext t
    unfold Task.entered
    rw [hk.origin]
  refine ⟨fun t ht => ?_, ?_, fun s hs => ?_, ?_, ?_⟩
  · rw [hk.nextSeq]
    exact h.told_lt t (hk.told.mem_iff.mp ht)
  · rw [hk.nextSeq, hk.came]
    exact h.came_lt
  · rw [hk.nextSeq] at hs
    exact (hk.origin s).trans (h.origin_eq s hs)
  · rw [hentered, hk.came]
    exact (hk.told.map _).trans h.perm
  · rw [hk.came]
    exact h.nodup

/-- A task comes. -/
theorem of_comes (h : Accounted c ds) (hseq : t.seq = c.queue.nextSeq)
    (hnext : c'.queue.nextSeq = c.queue.nextSeq + 1)
    (ht : (c'.told (.came t :: ds)).Perm (t :: c.told ds)) : Accounted c' (.came t :: ds) := by
  refine ⟨fun u hu => ?_, fun u hu => ?_, fun s hs => ?_, ?_, ?_⟩
  · rw [hnext]
    rcases List.mem_cons.mp (ht.mem_iff.mp hu) with rfl | hu
    · omega
    · have := h.told_lt u hu
      omega
  · rw [hnext]
    rcases List.mem_cons.mp hu with rfl | hu
    · omega
    · have := h.came_lt u hu
      omega
  · exact h.origin_eq s (by omega)
  · have hentered : Task.entered ds t = Task.entered [] t := by
      unfold Task.entered
      rw [h.origin_eq _ (Nat.le_of_eq hseq.symm)]
      rfl
    refine (ht.map _).trans ?_
    show (Task.entered ds t :: (c.told ds).map (Task.entered ds)).Perm _
    rw [hentered]
    exact h.perm.cons _
  · show (t.seq :: (ds.filterMap Deed.came?).map Task.seq).Nodup
    rw [List.nodup_cons]
    refine ⟨fun hmem => ?_, h.nodup⟩
    obtain ⟨u, hu, hut⟩ := List.mem_map.mp hmem
    have := h.came_lt u hu
    omega

/-- A task waits for its next run. -/
theorem of_retries {t' : Task} {o : Option (Outcome Json.Value)} {rest : List Task}
    (h : Accounted c ds) (hseq : t'.seq = c.queue.nextSeq)
    (hnext : c'.queue.nextSeq = c.queue.nextSeq + 1)
    (hid : t'.id = t.id) (horder : t'.toTaskOrder = t.toTaskOrder)
    (hold : (c.told ds).Perm (t :: rest))
    (hnew : (c'.told (.back t t' o :: ds)).Perm (t' :: rest)) :
    Accounted c' (.back t t' o :: ds) := by
  -- The new place is higher than all that are taken, so the other tasks keep their origins.
  have hrest : ∀ u ∈ rest, u.seq < c.queue.nextSeq :=
    fun u hu => h.told_lt u (hold.mem_iff.mpr (List.mem_cons_of_mem _ hu))
  refine ⟨fun u hu => ?_, fun u hu => ?_, fun s hs => ?_, ?_, h.nodup⟩
  · rw [hnext]
    rcases List.mem_cons.mp (hnew.mem_iff.mp hu) with rfl | hu
    · omega
    · have := hrest u hu
      omega
  · have := h.came_lt u hu
    omega
  · show origin ds (if s = t'.seq then t.seq else s) = s
    rw [if_neg (by omega)]
    exact h.origin_eq s (by omega)
  · have hself : Task.entered (.back t t' o :: ds) t' = Task.entered ds t := by
      show (origin ds (if t'.seq = t'.seq then t.seq else t'.seq), t'.id, t'.toTaskOrder) = _
      rw [if_pos rfl, hid, horder]
      rfl
    have hothers : rest.map (Task.entered (.back t t' o :: ds)) = rest.map (Task.entered ds) := by
      refine List.map_congr_left fun u hu => ?_
      have := hrest u hu
      show (origin ds (if u.seq = t'.seq then t.seq else u.seq), u.id, u.toTaskOrder) = _
      rw [if_neg (by omega)]
      rfl
    refine (hnew.map _).trans ?_
    rw [List.map_cons, hself, hothers]
    exact (hold.map _).symm.trans h.perm

/-- With every move the tasks in all places are those that came. -/
theorem of_does (h : Accounted c ds) (hd : Does c c' e) : Accounted c' (e.toList ++ ds) := by
  obtain hk | ⟨t, rfl, hseq, hnext, ht⟩ | ⟨t, t', o, rest, rfl, hseq, hnext, hid, ho, hold, hnew⟩ :=
    hd.told h.nodup_seq ds
  · exact h.of_keeps hk
  · exact h.of_comes hseq hnext ht
  · exact h.of_retries hseq hnext hid ho hold hnew

end Accounted

end Control

end GameFleet
