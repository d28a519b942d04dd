import GameFleet.Proofs.Fleet.LifeCycle

/-!
# What a cycle knows of the fleet

A cycle that removes the instances that never became ready lists the pending ones once, and looks
for the row of each again before it ends the instance. What it has learned so was true when it
asked, and it goes by that.

- `Knowledge`: what a thread has learned, and `Knowledge.learn` what it learns from an answer.
- `Knowledge.rules`, `Program.Heeds`: a program ends no instance but those that it knows of.
- `Stuck.survey_heeds`: so does a cycle of the policy.
- `Entry.Lists`, `Entry.Sees`: the calls from which a thread has learned something.
- `Knowledge.Attested`, `Knowledge.Holds`: the ledger bears out what a thread knows;
  `Knowledge.Holds.learn`: also once it has learned more.
-/

namespace GameFleet

open Registry

variable {α β : Type}

/-- The instance that a request ends. -/
def Request.ends? : Request → Option InstanceId
  | call c => c.ends?
  | _ => none

/-- What a thread has learned of the fleet. -/
structure Knowledge where
  /-- The instances that were pending when it listed these last. -/
  listed : List InstanceId := []
  /-- The instances whose rows it has found since. -/
  found : List InstanceId := []

namespace Knowledge

/-- An instance was listed, and its row has been found since. -/
def Covers (k : Knowledge) (id : InstanceId) : Prop := id ∈ k.listed ∧ id ∈ k.found

/-- What is known once a request has been answered. -/
def learn (k : Knowledge) : (q : Request) → q.Answer → Knowledge
  | .call (.listInstances (some .pending)), .ok (rows : List Instance) =>
    ⟨rows.map Instance.id, []⟩
  | .call (.findInstance id), .ok (some (_ : Instance)) => { k with found := id :: k.found }
  | _, _ => k

/-- Only known instances may be ended, and a thread learns from what a registry answers. -/
def rules : Program.Rules Request Request.Answer Knowledge where
  Allows k q := ∀ id, q.ends? = some id → k.Covers id
  Turns k q a k' := (∃ locking b tid b', Serves locking b tid q a b') ∧ k' = k.learn q a

/-- Nothing is ended by a remark, and nothing is learned. -/
theorem passesRemarks (k : Knowledge) : rules.PassesRemarks k := by
  intro q hq
  cases q with
  | call c =>
    cases c with
    | log | notify | console => exact ⟨nofun, fun _ _ h => h.2⟩
    | _ => cases hq
  | now => exact ⟨nofun, fun _ _ h => h.2⟩
  | _ => cases hq

end Knowledge

/-! ### Programs that go by what they know -/

/-- A program ends no instance but those that it knows of, whatever a registry answers, and ends in
what was promised. -/
abbrev Program.Heeds (Q : α → Knowledge → Prop) (k : Knowledge)
    (p : Program Request Request.Answer α) : Prop :=
  p.Meets Knowledge.rules Q k

/-- A call from which nothing is learned. -/
theorem Program.Heeds.call {k : Knowledge} {c : Call}
    (hends : ∀ id, c.ends? = some id → k.Covers id) (hlearn : ∀ o, k.learn (.call c) o = k) :
    (Op.call c).run.Heeds (fun _ k' => k' = k) k :=
  Meets.call hends fun o _ h => h.2.trans (hlearn o)

variable {k : Knowledge} {id : InstanceId}

namespace Termination

open Program

/-- An instance that is known is ended. -/
theorem terminate_heeds {i : Instance} (h : k.Covers i.id) (reason : String) :
    (terminate i reason).run.Heeds (fun _ k' => k' = k) k := by
  have hcovers : ∀ id, some i.id = some id → k.Covers id := by
    rintro _ ⟨⟩
    exact h
  refine Meets.andThen (Heeds.call hcovers fun _ => rfl) (fun _ k' hk => ?_) fun _ _ h => h
  subst hk
  refine Meets.andThen (Heeds.call hcovers fun _ => rfl) (fun _ k' hk => ?_) fun _ _ h => h
  subst hk
  refine Meets.andThen (Heeds.call nofun fun _ => rfl) (fun _ k' hk => ?_) fun _ _ h => h
  subst hk
  exact .record k'.passesRemarks rfl ..

/-- An instance that was listed is ended once its row has been found. -/
theorem remove_heeds (h : id ∈ k.listed) (reason : String) :
    (remove id reason).run.Heeds (fun _ k' => k'.listed = k.listed) k := by
  refine Meets.andThen
    (R := fun o k' => k'.listed = k.listed ∧
      ∀ i : Instance, o = .ok (some i) → i.id = id ∧ id ∈ k'.found)
    (.call nofun ?_) ?_ fun _ _ h => h.1
  · -- The row that is found is one of the instance that was looked for.
    rintro o _ ⟨⟨locking, b, tid, b', hserves⟩, rfl⟩
    match o with
    | .ok (some i) =>
      refine ⟨rfl, ?_⟩
      rintro _ ⟨⟩
      exact ⟨(Rows.mem_of_find? (Answers.read_eq hserves rfl).symm).2, List.mem_cons_self ..⟩
    | .ok none => exact ⟨rfl, nofun⟩
    | .error e => exact ⟨rfl, nofun⟩
  · intro row k' hk
    cases row with
    | none => exact hk.1
    | some i =>
      obtain ⟨rfl, hfound⟩ := hk.2 i rfl
      refine Meets.andThen (terminate_heeds ⟨hk.1 ▸ h, hfound⟩ reason) ?_ ?_
      · rintro _ _ rfl
        exact hk.1
      · rintro _ _ rfl
        exact hk.1

end Termination

namespace Stuck

open Program

theorem reclaim_heeds {i : Instance} (h : i.id ∈ k.listed) (minutes : Nat) :
    (reclaim minutes i).run.Heeds (fun _ k' => k'.listed = k.listed) k := by
  refine Meets.andThen (R := fun _ k' => k'.listed = k.listed)
    (.attempt (Termination.remove_heeds h _)) ?_ fun _ _ h => h
  intro o k' hk
  match o with
  | .ok true =>
    exact .andThen (.tell (R := fun _ k' => k'.listed = k.listed) k'.passesRemarks hk ..)
      (fun _ _ h => h) fun _ _ h => h
  | .ok false => exact hk
  | .error f => exact hk

theorem reclaimAll_heeds (maxAge : Span) (now : Timestamp) {rows : List Instance}
    (h : ∀ i ∈ rows, i.id ∈ k.listed) :
    (reclaimAll maxAge now rows).run.Heeds (fun _ k' => k'.listed = k.listed) k := by
  induction rows generalizing k with
  | nil => exact (rfl : k.listed = k.listed)
  | cons i rest ih =>
    unfold reclaimAll
    have hrest : ∀ j ∈ rest, j.id ∈ k.listed := fun j hj => h j (List.mem_cons_of_mem _ hj)
    split
    · refine Meets.andThen (reclaim_heeds (h i (List.mem_cons_self ..)) _) ?_ fun _ _ h => h
      intro failure k' hk
      refine Meets.andThen (ih (k := k') (hk ▸ hrest)) ?_ fun _ _ h => h.trans hk
      exact fun failures k'' hk' => hk'.trans hk
    · exact ih hrest

/-- A cycle leaves no steps. -/
def Surveyed (o : Outcome Batch) : Prop := ∀ t, o = .ok t → t.branches = []

/-- A cycle ends no instance but those that it has listed and found since. -/
theorem survey_heeds (s : FleetSettings) (k : Knowledge) :
    (survey s).run.Heeds (fun o _ => Surveyed o) k := by
  refine .askThen nofun fun now k' _ => ?_
  refine Meets.andThen
    (R := fun o k' => ∀ rows : List Instance, o = .ok rows → ∀ i ∈ rows, i.id ∈ k'.listed)
    (.call nofun ?_) ?_ fun _ _ _ => nofun
  · rintro o _ ⟨-, rfl⟩
    cases o with
    | ok rows =>
      rintro _ ⟨⟩ i hi
      exact List.mem_map_of_mem hi
    | error e => exact nofun
  · intro rows k' hk
    refine Meets.andThen (reclaimAll_heeds _ now (hk rows rfl)) ?_ fun _ _ _ => nofun
    rintro failures k'' - t ⟨⟩
    rfl

end Stuck

/-! ### What the ledger bears out -/

namespace Entry

/-- A thread listed the pending instances. -/
def Lists (tid : Nat) (e : Entry) : Prop :=
  e.thread = tid ∧ e.call = .listInstances (some .pending) ∧ e.isOk = true

/-- A thread looked for the row of an instance, which was there. -/
def Sees (tid : Nat) (id : InstanceId) (e : Entry) : Prop :=
  e.thread = tid ∧ e.call = .findInstance id ∧ phase id e.before ≠ none

end Entry

namespace Knowledge

/-- When a thread last listed the pending instances, those that it knows of were pending, and it has
seen the rows of those that it has found since. -/
structure Attested (tid : Nat) (k : Knowledge) (newer : List Entry) (e : Entry) : Prop where
  lists : e.Lists tid
  last : ∀ f ∈ newer, ¬f.Lists tid
  pending : ∀ id ∈ k.listed, phase id e.before = some .pending
  found : ∀ id ∈ k.found, ∃ f ∈ newer, f.Sees tid id

/-- A thread knows nothing, or the ledger bears out what it knows. -/
def Holds (tid : Nat) (k : Knowledge) (ledger : List Entry) : Prop :=
  k.listed = [] ∨ ∃ newer e older, ledger = newer ++ e :: older ∧ k.Attested tid newer e

variable {tid : Nat} {ledger : List Entry}

/-- What was known still is when nobody has listed anything for the thread. -/
theorem Holds.mono (h : k.Holds tid ledger) {more : List Entry}
    (hmore : ∀ f ∈ more, ¬f.Lists tid) : k.Holds tid (more ++ ledger) := by
  obtain h | ⟨newer, e, older, rfl, hlists, hlast, hpending, hfound⟩ := h
  · exact .inl h
  · refine .inr ⟨more ++ newer, e, older, (List.append_assoc ..).symm, hlists, fun f hf => ?_,
      hpending, fun id hid => ?_⟩
    · exact (List.mem_append.mp hf).elim (hmore f) (hlast f)
    · obtain ⟨f, hf, hsees⟩ := hfound id hid
      exact ⟨f, List.mem_append_right _ hf, hsees⟩

variable {locking : Bool} {b b' : Registry} {q : Request} {a : q.Answer}

/-- The instances that are listed as pending are. -/
theorem holds_listed {rows : List Instance} (hs : b.Sane)
    (h : b.Answers locking tid (.listInstances (some .pending)) (.ok rows) b') :
    Holds tid ⟨rows.map Instance.id, []⟩ b'.ledger := by
  refine .inr ⟨[], ⟨tid, .listInstances (some .pending), .ok rows, b.rows, b'.rows⟩, b.ledger,
    h.ledger_eq.1, ⟨rfl, rfl, rfl⟩, List.forall_mem_nil _, fun id hid => ?_,
    List.forall_mem_nil _⟩
  obtain ⟨i, hi, rfl⟩ := List.mem_map.mp hid
  rw [h.read_eq rfl, Rows.mem_oldestFirst, List.mem_filter] at hi
  have hfind : Rows.find? Instance.id i.id b.rows = some i :=
    (Rows.find?_eq_some_iff hs.nodup).mpr ⟨hi.1, rfl⟩
  have hstatus : (Status.pending == i.status) = true := hi.2
  show phase i.id b.rows = some .pending
  rw [phase, hfind, Option.map_some, ← eq_of_beq hstatus]

/-- A row that is found is there. -/
theorem Holds.found {i : Instance} (hk : k.Holds tid b.ledger)
    (h : b.Answers locking tid (.findInstance id) (.ok (some i)) b') :
    Holds tid { k with found := id :: k.found } b'.ledger := by
  obtain hk | ⟨newer, e, older, hl, hlists, hlast, hpending, hfound⟩ := hk
  · exact .inl hk
  · obtain ⟨hmem, hid⟩ := Rows.mem_of_find? (h.read_eq rfl).symm
    refine .inr ⟨⟨tid, .findInstance id, .ok (some i), b.rows, b'.rows⟩ :: newer, e, older, ?_,
      hlists, fun f hf => ?_, hpending, fun j hj => ?_⟩
    · rw [h.ledger_eq.1, hl]
      rfl
    · rcases List.mem_cons.mp hf with rfl | hf
      · exact fun hl => nomatch hl.2.1
      · exact hlast f hf
    · rcases List.mem_cons.mp hj with rfl | hj
      · refine ⟨_, List.mem_cons_self .., rfl, rfl, fun hnone => ?_⟩
        exact phase_eq_none_iff.mp hnone i hmem hid
      · obtain ⟨f, hf, hsees⟩ := hfound j hj
        exact ⟨f, List.mem_cons_of_mem _ hf, hsees⟩

/-- What a thread learns from an answer is borne out by the ledger. -/
theorem Holds.learn (hk : k.Holds tid b.ledger) (hs : b.Sane)
    (h : b.Serves locking tid q a b') : (k.learn q a).Holds tid b'.ledger := by
  cases q with
  | call c =>
    -- Of the calls only two tell the thread something; the others list no pending instances.
    have hkept : (¬Entry.Lists tid ⟨tid, c, a, b.rows, b'.rows⟩) → k.Holds tid b'.ledger := by
      intro hno
      rw [(Answers.ledger_eq h).1, ← List.singleton_append]
      refine hk.mono fun f hf => ?_
      rw [List.mem_singleton.mp hf]
      exact hno
    cases c with
    | listInstances status =>
      match status, a with
      | some .pending, .ok rows => exact holds_listed hs h
      | some .pending, .error e => exact hkept nofun
      | some .ready, a => exact hkept fun hl => nomatch hl.2.1
      | none, a => exact hkept fun hl => nomatch hl.2.1
    | findInstance id =>
      match a with
      | .ok (some i) => exact hk.found h
      | .ok none => exact hkept fun hl => nomatch hl.2.1
      | .error e => exact hkept fun hl => nomatch hl.2.1
    | _ => exact hkept fun hl => nomatch hl.2.1
  | now =>
    obtain rfl : b' = b := h
    exact hk
  | freshId =>
    obtain ⟨-, rfl⟩ := h
    exact hk
  | abandon =>
    obtain rfl : b' = b.abandon tid := h
    show k.Holds tid (b.abandon tid).ledger
    rw [abandon_eq.2.1]
    exact hk
  | isQueued =>
    obtain rfl : b' = b := h
    exact hk
  | enqueue =>
    obtain ⟨id, -, rfl⟩ := h
    exact hk

end Knowledge

end GameFleet
