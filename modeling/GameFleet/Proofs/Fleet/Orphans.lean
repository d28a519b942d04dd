import GameFleet.Proofs.Fleet.LifeCycle

/-!
# Instances without a row (specification §4.3)

An instance that was deployed is an orphan when its row is gone and nobody has called for its
destruction since: no policy will ever find it. Once the thread that deployed the instance is quiet
there are two ways in which this can have come about, and no other. The row was removed after the
deployment by a thread that had destroyed the instance before, when there was nothing to destroy; or
it was removed before, and the thread that deployed the instance could not look for it then.

- `Entry.loses`, `Entry.finds`, `Entry.misses`, `Entry.destroys`: what a call has to do with the row
  of an instance.
- `Chained`, `Entry.Backed`, `Registry.Storied`: the rows and the ledger tell one story.
- `Thread.isQuiet`: whether a thread has nothing in hand.
- `Fleet.Slipped`: the two ways in which an instance becomes an orphan.
- `Fleet.orphan_slipped`: the theorem; `Fleet.exists_orphan`: a run that leaves an orphan.
-/

namespace GameFleet

open Registry

namespace Entry

/-- The row of an instance was there before a call, and is not there afterwards. -/
def loses (id : InstanceId) (e : Entry) : Prop := phase id e.before ≠ none ∧ phase id e.after = none

/-- Whether the row of an instance was found in a transaction. -/
def finds (id : InstanceId) : Entry → Bool
  | ⟨_, .lockInstance i, .ok (row : Option Instance), _, _⟩ => decide (i = id) && row.isSome
  | _ => false

/-- Whether the row of an instance could not be looked for in a transaction. -/
def misses (id : InstanceId) : Entry → Bool
  | ⟨_, .begin, .error _, _, _⟩ => true
  | ⟨_, .lockInstance i, .error _, _, _⟩ => i = id
  | _ => false

/-- Whether an instance was to be destroyed. -/
def destroys (id : InstanceId) (e : Entry) : Bool :=
  match e.call with
  | .destroy i _ => i = id
  | _ => false

variable {id : InstanceId} {e : Entry}

/-- A thread knows what becomes of an instance in one of three ways. -/
theorem decides_cases (h : e.decides id = true) :
    e.misses id = true ∨ e.finds id = true ∨ e.destroys id = true := by
  obtain ⟨t, c, o, before, after⟩ := e
  cases c with
  | begin =>
    cases o with
    | ok => cases h
    | error => exact .inl rfl
  | lockInstance =>
    cases o with
    | ok => exact .inr (.inl h)
    | error => exact .inl h
  | destroy => exact .inr (.inr h)
  | _ => cases h

theorem destroys_eq_true {region : String} (h : e.call = .destroy id region) :
    e.destroys id = true := by
  rw [destroys, h]
  exact decide_eq_true rfl

theorem exists_of_deployed (h : e.deployed? = some id) : ∃ order, e.call = .deploy order := by
  obtain ⟨t, c, o, before, after⟩ := e
  cases c with
  | deploy order => exact ⟨order, rfl⟩
  | _ => cases h

end Entry

/-- Each call found the rows as the call before it left them. -/
def Chained : List Instance → List Entry → Prop
  | _, [] => True
  | rows, e :: earlier => e.after = rows ∧ Chained e.before earlier

/-- What was not so of the rows after some call, and is so now, came about with a later one. -/
theorem Chained.exists_turn {P : List Instance → Prop} {e : Entry} {rows : List Instance}
    {newer older : List Entry} (h : Chained rows (newer ++ e :: older)) (hthen : ¬P e.after)
    (hnow : P rows) : ∃ f ∈ newer, ¬P f.before ∧ P f.after := by
  induction newer generalizing rows with
  | nil =>
    obtain ⟨rfl, -⟩ := h
    exact absurd hnow hthen
  | cons f newer ih =>
    obtain ⟨rfl, h⟩ := h
    by_cases hb : P f.before
    · obtain ⟨g, hg, hturn⟩ := ih h hb
      exact ⟨g, List.mem_cons_of_mem _ hg, hturn⟩
    · exact ⟨f, List.mem_cons_self .., hb, hnow⟩

/-- A row that was there once, and is not there any more, was lost in the meantime. -/
theorem Chained.exists_loses {id : InstanceId} {e : Entry} {rows : List Instance}
    {newer older : List Entry} (h : Chained rows (newer ++ older)) (he : e ∈ newer)
    (hthere : phase id e.after ≠ none) (hnone : phase id rows = none) :
    ∃ f ∈ newer, f.loses id := by
  obtain ⟨after, before, rfl⟩ := List.append_of_mem he
  rw [List.append_assoc, List.cons_append] at h
  obtain ⟨f, hf, hlost⟩ := h.exists_turn (P := fun rows => phase id rows = none) hthere hnone
  exact ⟨f, List.mem_append_left _ hf, hlost⟩

/-- A call is backed by the calls before it: only a thread that has destroyed an instance removes
its row, a row that is found is there, and an instance is only deployed once its row stood. -/
structure Entry.Backed (older : List Entry) (e : Entry) : Prop where
  lost : ∀ id, e.loses id → e.call = .removeInstance id ∧
    ∃ d ∈ older, d.thread = e.thread ∧ d.isOk = true ∧ d.destroys id = true
  found : ∀ id, e.finds id = true → phase id e.before ≠ none
  deployed : ∀ id, e.deployed? = some id → ∃ f ∈ older, phase id f.after ≠ none

namespace Registry

variable {locking : Bool} {b b' : Registry} {r : Role} {own : List Uuid} {c : Call}
  {o : Outcome c.Result} {id : InstanceId} {tid : Nat} {d : Entry}

theorem phase_ne_none {i : Instance} {rows : List Instance} (hi : i ∈ rows) (hid : i.id = id) :
    phase id rows ≠ none := fun h => phase_eq_none_iff.mp h i hi hid

theorem mem_of_lastEnd {ledger : List Entry} (h : lastEnd tid id ledger = some d) :
    d ∈ ledger ∧ d.thread = tid := by
  have hd := List.find?_some h
  rw [decide_eq_true_iff] at hd
  exact ⟨List.mem_of_find?_eq_some h, hd.1⟩

/-- A thread that has written nothing sees the rows as they are. -/
theorem view_eq (h : ∀ t, b.own? tid = some t → t.written = []) : b.view tid = b.rows := by
  unfold view
  cases ht : b.own? tid with
  | none => rfl
  | some t =>
    rw [Option.map_some, Option.getD_some, h t ht]
    rfl

/-- What is allowed is backed. -/
theorem Allows.backed (hs : b.Sane) (ha : b.Allows r own (.call c))
    (h : b.Answers locking r.thread c o b') :
    Entry.Backed b.ledger ⟨r.thread, c, o, b.rows, b'.rows⟩ := by
  refine ⟨fun id hlost => ?_, fun id hfound => ?_, fun id hdeployed => ?_⟩
  -- A row is only lost by its removal, and what is removed was razed.
  · have hm : b.Moves locking b' := .inr (.inl ⟨r, own, .call c, o, ha, h⟩)
    obtain ⟨i, hi, hid⟩ : ∃ i ∈ b.rows, i.id = id := by
      by_contra hno
      exact hlost.1 (phase_eq_none_iff.mpr fun i hi hid => hno ⟨i, hi, hid⟩)
    obtain ⟨e, d, hl, hcall, hd, hdestroy, hok⟩ :=
      hm.razed hs hi fun j hj => hid ▸ phase_eq_none_iff.mp hlost.2 j hj
    obtain rfl := (List.cons.inj (hl.symm.trans h.ledger_eq.1)).1
    obtain ⟨hmem, ht⟩ := mem_of_lastEnd hd
    rw [hid] at hcall hdestroy
    exact ⟨hcall, d, hmem, ht, hok, Entry.destroys_eq_true hdestroy⟩
  · cases c with
    | lockInstance i =>
      cases o with
      | error f => cases hfound
      | ok row =>
        simp only [Entry.finds, Bool.and_eq_true, decide_eq_true_eq] at hfound
        obtain ⟨rfl, hsome⟩ := hfound
        have hrow : row = Rows.find? Instance.id i (b.view r.thread) := h.read_eq rfl
        rw [view_eq ha.2.2] at hrow
        obtain ⟨j, hj, hid⟩ := Rows.find?_isSome_iff.mp (hrow ▸ hsome)
        exact phase_ne_none hj hid
    | _ => cases hfound
  · cases c with
    | deploy order =>
      cases o with
      | error f => cases hdeployed
      | ok deployment =>
        obtain rfl : order.id = id := Option.some.inj hdeployed
        obtain ⟨i, hfor, e, he, -, -, -, -, hi, -⟩ := ha.2.2
        exact ⟨e, he, phase_ne_none hi hfor.1.symm⟩
    | _ => cases hdeployed

/-- The rows and the ledger tell one story. -/
structure Storied (b : Registry) : Prop where
  chained : Chained b.rows b.ledger
  backed : ∀ newer e older, b.ledger = newer ++ e :: older → e.Backed older

theorem Storied.moves (h : b.Storied) (hs : b.Sane) (hm : b.Moves locking b') : b'.Storied := by
  obtain ⟨r, own, c, o, ha, hans⟩ | ⟨hr, hl, -⟩ := hm.cases
  · have hl := hans.ledger_eq.1
    refine ⟨hl ▸ ⟨rfl, h.chained⟩, fun newer e older heq => ?_⟩
    rw [hl] at heq
    cases newer with
    | nil =>
      obtain ⟨rfl, rfl⟩ := List.cons.inj heq
      exact ha.backed hs hans
    | cons f newer => exact h.backed newer e older (List.cons.inj heq).2
  · exact ⟨hr ▸ hl ▸ h.chained, fun newer e older heq => h.backed newer e older (hl ▸ heq)⟩

/-- Where rows are locked, a row that was lost does not come back. -/
theorem Moves.bereft (hm : b.Moves true b') (hp : b.Pinned)
    (h : (∃ e ∈ b.ledger, e.loses id) → phase id b.rows = none) :
    (∃ e ∈ b'.ledger, e.loses id) → phase id b'.rows = none := by
  have hkept : (∃ e ∈ b.ledger, e.loses id) → phase id b'.rows = none := by
    intro hlost
    have hnone := h hlost
    obtain hsame | ⟨hunused, -⟩ | ⟨hne, -⟩ | ⟨hne, -⟩ := hm.phase_cases hp id
    · exact hsame.trans hnone
    · obtain ⟨e, he, hbefore, -⟩ := hlost
      refine absurd (phase_eq_none_iff.mpr fun i hi => ?_) hbefore
      exact hunused i (.inr ⟨e, he, .inl hi⟩)
    · exact absurd hnone hne
    · exact absurd hnone hne
  rintro ⟨e, he, hlost⟩
  obtain ⟨r, own, c, o, -, hans⟩ | ⟨-, hl, -⟩ := hm.cases
  · rw [hans.ledger_eq.1] at he
    rcases List.mem_cons.mp he with rfl | he
    · exact hlost.2
    · exact hkept ⟨e, he, hlost⟩
  · exact hkept ⟨e, hl ▸ he, hlost⟩

end Registry

/-- Whether a dispatch has nothing in hand that belongs to the fleet. -/
def Dispatch.isQuiet : Dispatch → Bool
  | processing .. => false
  | following .. => false
  | _ => true

/-- Whether a thread has nothing in hand that belongs to the fleet: it has not started, or it waits,
or it has ended. -/
def Thread.isQuiet : Thread → Bool
  | working .. => false
  | dispatching d => d.isQuiet
  | ticking ⟨_, _, some d⟩ => d.isQuiet
  | looping ⟨_, _, _, some _⟩ => false
  | _ => true

theorem Dispatch.Fits.calm {d : Dispatch} {b : Registry} {tid : Nat} {own : List Uuid}
    (h : d.Fits tid own b) (hq : d.isQuiet = true) : b.Calm tid := by
  cases d with
  | processing => cases hq
  | following => cases hq
  | _ => exact h

/-- A quiet thread has decided about all that it deployed. -/
theorem Thread.Fits.undecided_eq {th : Thread} {b : Registry} {tid : Nat} {own : List Uuid}
    (h : th.Fits tid own b) (hq : th.isQuiet = true) : undecided tid b.ledger = [] := by
  match th, h, hq with
  | .arriving _ w, h, _ => exact Calm.undecided_eq h.1
  | .dispatching d, h, hq => exact (Dispatch.Fits.calm h hq).undecided_eq
  | .ticking ⟨_, _, some d⟩, h, hq => exact (Dispatch.Fits.calm h hq).undecided_eq
  | .ticking ⟨_, _, none⟩, h, _ => exact Calm.undecided_eq h
  | .looping ⟨_, _, _, none⟩, h, _ => exact Calm.undecided_eq h
  | .staged .., h, _ => exact Calm.undecided_eq h
  | .ended e, h, _ => exact h.1

namespace Fleet

variable {locking : Bool} {c : Control Registry} {ms : List (Move Registry)} {id : InstanceId}
  {newer older : List Entry} {d : Entry}

/-- The row of an instance was removed after its deployment, by a thread that had destroyed the
instance before. Or it was removed before, and the thread that deployed the instance could not look
for it afterwards. -/
def Slipped (id : InstanceId) (newer : List Entry) (d : Entry) (older : List Entry) : Prop :=
  (∃ e ∈ newer, e.loses id ∧
    ∃ f ∈ older, f.thread = e.thread ∧ f.isOk = true ∧ f.destroys id = true) ∨
  ((∃ e ∈ older, e.loses id) ∧ ∃ e ∈ newer, e.thread = d.thread ∧ e.misses id = true)

theorem storied_after (ho : Opening c) (hrun : Control.Run (May locking) c ms) :
    (c.after ms).world.Storied := by
  refine registry_after ho hrun ⟨?_, fun newer e older h => ?_⟩ fun b b' hs h hm => h.moves hs hm
  · rw [ho.ledger]
    trivial
  · rw [ho.ledger] at h
    cases newer <;> cases h

/-- A row that is removed after the deployment of its instance, which nobody has destroyed since, is
removed by a thread that had destroyed the instance before. -/
theorem slipped_of_loses {b : Registry} {e : Entry} (h : b.Storied)
    (hl : b.ledger = newer ++ d :: older) (hd : d.deployed? = some id)
    (hnone : ∀ e ∈ newer, e.destroys id = false) (he : e ∈ newer) (hlost : e.loses id) :
    Slipped id newer d older := by
  obtain ⟨after, before, rfl⟩ := List.append_of_mem he
  rw [List.append_assoc, List.cons_append] at hl
  obtain ⟨-, f, hf, ht, hok, hdestroys⟩ := (h.backed after e _ hl).lost id hlost
  refine .inl ⟨e, he, hlost, f, ?_, ht, hok, hdestroys⟩
  rcases List.mem_append.mp hf with hf | hf
  · rw [hnone f (List.mem_append_right _ (List.mem_cons_of_mem _ hf))] at hdestroys
    cases hdestroys
  · rcases List.mem_cons.mp hf with rfl | hf
    · obtain ⟨order, hcall⟩ := Entry.exists_of_deployed hd
      rw [Entry.destroys, hcall] at hdestroys
      cases hdestroys
    · exact hf

/-- However the threads of the fleet take turns, and whatever fails: an instance that was deployed
by a thread that is quiet now, and that nobody has called to destroy since, still has its row,
unless it slipped away in one of two ways. Where rows are locked, an instance that slipped away has
no row. -/
theorem orphan_slipped (ho : Opening c) (hrun : Control.Run (May locking) c ms)
    (hl : (c.after ms).world.ledger = newer ++ d :: older) (hd : d.deployed? = some id)
    (hquiet : ∀ th, (c.after ms).threads[d.thread]? = some th → th.isQuiet = true)
    (hnone : ∀ e ∈ newer, e.destroys id = false) :
    (phase id (c.after ms).world.rows = none → Slipped id newer d older) ∧
    (locking = true → Slipped id newer d older → phase id (c.after ms).world.rows = none) := by
  have hstory := storied_after ho hrun
  constructor
  · intro hgone
    obtain ⟨own, horder⟩ := order_after ho hrun
    -- The thread has decided about the instance, since it is quiet.
    have hund : undecided d.thread (newer ++ d :: older) = [] := by
      have hlt := horder.entered d (hl ▸ List.mem_append_right _ (List.mem_cons_self ..))
      have hth := List.getElem?_eq_getElem hlt
      rw [← hl]
      exact (horder.fits _ _ hth).undecided_eq (hquiet _ hth)
    have hdecided : (∃ e ∈ newer, e.thread = d.thread ∧ e.decides id = true) ∨
        id ∈ undecided d.thread (newer ++ d :: older) := decided_or_mem_undecided rfl hd
    obtain ⟨e, he, ht, hdecides⟩ | hmem := hdecided
    · -- The row stood before the deployment, so it was lost at some time.
      obtain ⟨f, hf, hthere⟩ := (hstory.backed newer d older hl).deployed id hd
      have hchained : Chained (c.after ms).world.rows ((newer ++ d :: older) ++ []) := by
        rw [List.append_nil, ← hl]
        exact hstory.chained
      have hf : f ∈ newer ++ d :: older :=
        List.mem_append_right _ (List.mem_cons_of_mem _ hf)
      obtain ⟨g, hg, hlost⟩ := hchained.exists_loses hf hthere hgone
      rcases List.mem_append.mp hg with hg | hg
      · exact slipped_of_loses hstory hl hd hnone hg hlost
      · rcases List.mem_cons.mp hg with rfl | hg
        · obtain ⟨order, hcall⟩ := Entry.exists_of_deployed hd
          cases hcall.symm.trans ((hstory.backed newer g older hl).lost id hlost).1
        · obtain hmisses | hfinds | hdestroys := Entry.decides_cases hdecides
          · exact .inr ⟨⟨g, hg, hlost⟩, e, he, ht, hmisses⟩
          · -- The row was there once more after the deployment, so it was lost again.
            obtain ⟨after, before, rfl⟩ := List.append_of_mem he
            have hl' := hl
            rw [List.append_assoc, List.cons_append] at hl'
            have hthere := (hstory.backed after e _ hl').found id hfinds
            by_cases hafter : phase id e.after = none
            · exact slipped_of_loses hstory hl hd hnone he ⟨hthere, hafter⟩
            · obtain ⟨k, hk, hlost⟩ := (hl ▸ hstory.chained).exists_loses he hafter hgone
              exact slipped_of_loses hstory hl hd hnone hk hlost
          · rw [hnone e he] at hdestroys
            cases hdestroys
    · rw [hund] at hmem
      cases hmem
  · rintro rfl hslipped
    -- Either way a row was lost, and where rows are locked it does not come back.
    have hlost : ∃ e ∈ (c.after ms).world.ledger, e.loses id := by
      rw [hl]
      obtain ⟨e, he, hlost, -⟩ | ⟨⟨e, he, hlost⟩, -⟩ := hslipped
      · exact ⟨e, List.mem_append_left _ he, hlost⟩
      · exact ⟨e, List.mem_append_right _ (List.mem_cons_of_mem _ he), hlost⟩
    have hbereft : (c.after ms).world.Pinned ∧
        ((∃ e ∈ (c.after ms).world.ledger, e.loses id) →
          phase id (c.after ms).world.rows = none) := by
      refine registry_after (I := fun b => b.Pinned ∧ ((∃ e ∈ b.ledger, e.loses id) →
        phase id b.rows = none)) ho hrun ⟨fun t ht => ?_, ?_⟩ ?_
      · rw [ho.transaction] at ht
        cases ht
      · rw [ho.ledger]
        rintro ⟨e, he, -⟩
        cases he
      · exact fun b b' _ h hm => ⟨hm.pinned h.1, hm.bereft h.1 h.2⟩
    exact hbereft.2 hlost

theorem exists_deployed (ledger : List Entry) (n : Nat) (id : InstanceId)
    (h : ledger[n]?.bind Entry.deployed? = some id) :
    ∃ d, ledger = ledger.take n ++ d :: ledger.drop (n + 1) ∧ d.deployed? = some id := by
  obtain ⟨d, hd, h⟩ := Option.bind_eq_some_iff.mp h
  obtain ⟨hlt, rfl⟩ := List.getElem?_eq_some_iff.mp hd
  refine ⟨_, ?_, h⟩
  rw [← List.drop_eq_getElem_cons hlt, List.take_append_drop]

theorem run_admissionAndRemoval {ts : List (Nat × Bool)}
    (hnew : giveNew true bare [.begin true oneRemoval, .begin true oneAdmission] ts = true) :
    Control.Run (May true) bare
      (turns true [.begin true oneRemoval, .begin true oneAdmission] ts) := by
  have hbegin : Control.Run (May true) bare [.begin true oneRemoval, .begin true oneAdmission] :=
    ⟨⟨trivial, .admission ..⟩, .removal _⟩
  exact run_turns hbegin hnew

/-- A removal has destroyed an instance before it is deployed, and removes its row once it is
ready. -/
def lateRemoval : List (Move Registry) :=
  turns true [.begin true oneRemoval, .begin true oneAdmission]
    (List.replicate 5 (1, false) ++ List.replicate 8 (0, false) ++ List.replicate 3 (1, false) ++
      List.replicate 9 (0, false))

/-- The instance slips away, although no call fails. -/
theorem orphan_slipped_lateRemoval :
    ∃ newer d older, (bare.after lateRemoval).world.ledger = newer ++ d :: older ∧
      d.deployed? = some ⟨.numbered 3⟩ ∧ (∀ e ∈ newer, e.destroys ⟨.numbered 3⟩ = false) ∧
      phase ⟨.numbered 3⟩ (bare.after lateRemoval).world.rows = none ∧
      Slipped ⟨.numbered 3⟩ newer d older := by
  have hrun : Control.Run (May true) bare lateRemoval :=
    run_admissionAndRemoval (by decide +kernel)
  obtain ⟨d, hl, hd⟩ := exists_deployed (bare.after lateRemoval).world.ledger 8 ⟨.numbered 3⟩
    (by decide +kernel)
  have hquiet : ∀ th ∈ (bare.after lateRemoval).threads, th.isQuiet = true :=
    List.all_eq_true.mp (by decide +kernel)
  have hnone : ∀ e ∈ (bare.after lateRemoval).world.ledger.take 8,
      (!e.destroys ⟨.numbered 3⟩) = true := List.all_eq_true.mp (by decide +kernel)
  have hgone : phase ⟨.numbered 3⟩ (bare.after lateRemoval).world.rows = none := by
    decide +kernel
  refine ⟨_, d, _, hl, hd, fun e he => by simpa using hnone e he, hgone, ?_⟩
  exact (orphan_slipped bare_opening hrun hl hd
    (fun th hth => hquiet th (List.mem_of_getElem? hth))
    fun e he => by simpa using hnone e he).1 hgone

/-- A removal comes to its end before an instance is deployed, and whoever deployed it cannot look
for its row then. -/
def failedLookup : List (Move Registry) :=
  turns true [.begin true oneRemoval, .begin true oneAdmission]
    ([(0, false), (0, true), (0, false)] ++ List.replicate 8 (1, false) ++
      List.replicate 9 (0, false))

/-- Not every instance that was deployed has a row, or has been called to be destroyed since, when
nothing goes on. -/
theorem exists_orphan :
    ¬∀ ms, Control.Run (May true) bare ms →
      (∀ th ∈ (bare.after ms).threads, th.isQuiet = true) →
      ∀ newer d older id, (bare.after ms).world.ledger = newer ++ d :: older →
        d.deployed? = some id → (∀ e ∈ newer, e.destroys id = false) →
        phase id (bare.after ms).world.rows ≠ none := by
  intro hno
  have hrun : Control.Run (May true) bare failedLookup :=
    run_admissionAndRemoval (by decide +kernel)
  obtain ⟨d, hl, hd⟩ := exists_deployed (bare.after failedLookup).world.ledger 1 ⟨.numbered 3⟩
    (by decide +kernel)
  have hquiet : ∀ th ∈ (bare.after failedLookup).threads, th.isQuiet = true :=
    List.all_eq_true.mp (by decide +kernel)
  have hnone : ∀ e ∈ (bare.after failedLookup).world.ledger.take 1,
      (!e.destroys ⟨.numbered 3⟩) = true := List.all_eq_true.mp (by decide +kernel)
  have hgone : phase ⟨.numbered 3⟩ (bare.after failedLookup).world.rows = none := by
    decide +kernel
  exact hno failedLookup hrun hquiet _ d _ _ hl hd (fun e he => by simpa using hnone e he) hgone

end Fleet

end GameFleet
