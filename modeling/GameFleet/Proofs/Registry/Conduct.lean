import GameFleet.Proofs.Registry.Effect

/-!
# How threads use the registry

A thread may only ask for what keeps the fleet in order. What it may ask for depends on the registry
as it is then, and never on what the other threads are about to do.

- `Registry.Reserves`, `Registry.Promotes`: the rows that may come to stand.
- `Registry.Razed`: an instance was destroyed where its row says it is.
- `Role`: whoever asks: a thread, or the step of its cycle for one instance.
- `Registry.Allows`: what may be asked for.
- `Registry.Sane`: what holds of the registry whatever is asked for, as long as it is allowed.
- `Registry.Beside`: what a role may find changed by the others: nothing it relies on.
- `Allows.sane`, `Allows.beside`: an allowed request keeps the registry in order, and changes
  nothing that another role relies on.
-/

namespace GameFleet

namespace Instance

/-- What never changes about an instance. -/
def particulars (i : Instance) :
    InstanceId × OwnerId × String × String × Option String × Timestamp :=
  (i.id, i.owner, i.region, i.variant, i.guild, i.createdAt)

/-- A pending instance is not reached anywhere yet, and a ready one is, with passwords. -/
def IsWhole (i : Instance) : Prop :=
  match i.status with
  | .pending => i.endpoints = none ∧ i.credentials = none
  | .ready => i.endpoints.isSome = true ∧ i.credentials.isSome = true

variable {i j : Instance}

theorem id_eq (h : i.particulars = j.particulars) : i.id = j.id := congrArg Prod.fst h

theorem owner_eq (h : i.particulars = j.particulars) : i.owner = j.owner :=
  congrArg (fun p => p.2.1) h

theorem region_eq (h : i.particulars = j.particulars) : i.region = j.region :=
  congrArg (fun p => p.2.2.1) h

end Instance

/-- Whoever asks: a thread, or the step of its cycle for one instance. -/
structure Role where
  thread : Nat
  treats : Option InstanceId := none

/-- A call of somebody else leaves a role alone: it comes from another thread, or from another step
of the role's cycle, or it changes nothing. -/
def Role.Spares (r : Role) (e : Entry) : Prop :=
  e.thread = r.thread →
    e.call.isMild = true ∧ ∀ id, e.call.ends? = some id → ∃ k, r.treats = some k ∧ id ≠ k

namespace Registry

/-- A pending row with an identifier of its own may come to stand while its owner has no row. -/
structure Reserves (own : List Uuid) (b : Registry) (row : Instance) : Prop where
  own : row.id.uuid ∈ own
  given : row.id.uuid ∈ b.given
  unused : b.Unused row.id
  pending : row.status = .pending
  whole : row.IsWhole
  free : ∀ i ∈ b.rows, i.owner ≠ row.owner

/-- A ready row may replace the row of its instance that the transaction found and locked. -/
structure Promotes (t : Transaction) (row : Instance) : Prop where
  ready : row.status = .ready
  whole : row.IsWhole
  locked : row.id ∈ t.locked
  same : ∃ i ∈ t.opened, i.particulars = row.particulars

/-- A row may come to stand. -/
def Rightful (own : List Uuid) (b : Registry) (t : Transaction) (row : Instance) : Prop :=
  b.Reserves own row ∨ Promotes t row

/-- The last thing that a thread did to end an instance was to destroy it where its row says it
is. -/
def Razed (b : Registry) (tid : Nat) (id : InstanceId) : Prop :=
  ∃ i e, b.Known i ∧ i.id = id ∧ lastEnd tid id b.ledger = some e ∧
    e.call = .destroy id i.region ∧ e.isOk = true

/-- What the registry says for a call. -/
def Permits (r : Role) (own : List Uuid) (b : Registry) : Call → Prop
  | .lockInstance _ => ∀ t, b.own? r.thread = some t → t.written = []
  | .ownersInTransaction _ => Unstarted r.thread b.ledger
  | .commit =>
    ∀ t, b.own? r.thread = some t → ∃ row, t.written = [row] ∧ b.Rightful own t row
  | .deploy order => ∃ i, order.IsFor i ∧ Reserved r.thread i b.ledger
  | .removeInstance id => b.Razed r.thread id
  | _ => True

/-- What a role may ask for. The step of a cycle makes mild calls only, and ends no instance but its
own. -/
def Allows (r : Role) (own : List Uuid) (b : Registry) : Request → Prop
  | .call c =>
    ¬Refused r.thread b.ledger ∧
      (∀ k, r.treats = some k → c.isMild = true ∧ ∀ id, c.ends? = some id → id = k) ∧
      b.Permits r own c
  | .freshId => ¬Refused r.thread b.ledger ∧ r.treats = none
  | .abandon => r.treats = none ∧ (Refused r.thread b.ledger → (b.own? r.thread).isSome = true)
  | _ => ¬Refused r.thread b.ledger

/-- The registry is in order. -/
structure Sane (b : Registry) : Prop where
  nodup : (b.rows.map Instance.id).Nodup
  given : ∀ i, b.Known i → i.id.uuid ∈ b.given
  agree : ∀ i j, b.Known i → b.Known j → i.id = j.id → i.particulars = j.particulars
  opened : ∀ t, b.transaction = some t →
    (∀ i ∈ b.rows, i ∈ t.opened) ∧ ∀ i ∈ t.opened, b.Known i

/-- What a role may find changed by the others. -/
structure Beside (r : Role) (own : List Uuid) (b b' : Registry) : Prop where
  sane : b'.Sane
  ledger : ∃ newer, b'.ledger = newer ++ b.ledger ∧ ∀ e ∈ newer, r.Spares e
  given : ∀ id ∈ b.given, id ∈ b'.given
  known : ∀ i, b.Known i → b'.Known i
  unused : ∀ id : InstanceId, id.uuid ∈ own → b.Unused id → b'.Unused id
  own : b'.own? r.thread = b.own? r.thread
  rows : ∀ t, b.own? r.thread = some t → ∀ i ∈ b'.rows, i ∈ b.rows

variable {locking : Bool} {b b' b'' : Registry} {r s : Role} {own others : List Uuid}
  {q : Request} {a : q.Answer} {c : Call} {o : Outcome c.Result} {t : Transaction} {row : Instance}

/-! ### The registry stays in order -/

/-- All that an allowed call can do to the rows. -/
theorem Allows.rows_cases (ha : b.Allows r own (.call c)) (h : b.Answers locking r.thread c o b') :
    b'.rows = b.rows ∨
    (∃ t row, c = .commit ∧ b.own? r.thread = some t ∧ t.written = [row] ∧
      b.Rightful own t row ∧ b'.rows = Rows.put Instance.id row b.rows ∧
      b'.transaction = none) ∨
    ∃ id, c = .removeInstance id ∧ b.Razed r.thread id ∧
      b.defers locking (.removeInstance id) = false ∧
      b'.rows = Rows.drop Instance.id id b.rows := by
  obtain hr | ⟨t, rfl, ht, hr, hn⟩ | ⟨id, rfl, hd, hr⟩ := h.rows_cases
  · exact .inl hr
  · obtain ⟨row, hw, hrow⟩ := ha.2.2 t ht
    rw [hw] at hr
    exact .inr (.inl ⟨t, row, rfl, ht, hw, hrow, hr, hn⟩)
  · exact .inr (.inr ⟨id, rfl, ha.2.2, hd, hr⟩)

/-- A row that may come to stand is new, or agrees with one that is known. -/
theorem Rightful.unused_or_same (hrow : b.Rightful own t row) (hs : b.Sane)
    (ht : b.transaction = some t) :
    (row.id.uuid ∈ b.given ∧ b.Unused row.id) ∨
      ∃ i, b.Known i ∧ i.particulars = row.particulars := by
  obtain hrow | hrow := hrow
  · exact .inl ⟨hrow.given, hrow.unused⟩
  · obtain ⟨i, hi, hp⟩ := hrow.same
    exact .inr ⟨i, (hs.opened t ht).2 i hi, hp⟩

/-- A row that is known after an allowed call was known, or it came to stand. -/
theorem Allows.known_cases (ha : b.Allows r own (.call c))
    (h : b.Answers locking r.thread c o b') {i : Instance} (hi : b'.Known i) :
    b.Known i ∨
      ∃ t, c = .commit ∧ b.own? r.thread = some t ∧ t.written = [i] ∧ b.Rightful own t i := by
  obtain hi | hi := h.known_iff.mp hi
  · exact .inl hi
  · obtain hr | ⟨t, row, rfl, ht, hw, hrow, hr, -⟩ | ⟨id, -, -, -, hr⟩ := ha.rows_cases h
    · exact .inl (.inl (hr ▸ hi))
    · rw [hr] at hi
      obtain rfl | hi := Rows.eq_or_mem_of_mem_put hi
      · exact .inr ⟨t, rfl, ht, hw, hrow⟩
      · exact .inl (.inl hi)
    · rw [hr] at hi
      exact .inl (.inl (Rows.mem_drop.mp hi).1)

/-- A row that came to stand agrees with every row of its instance that was known. -/
theorem Rightful.agree (hrow : b.Rightful own t row) (hs : b.Sane) (ht : b.transaction = some t)
    {i : Instance} (hi : b.Known i) (hid : i.id = row.id) : i.particulars = row.particulars := by
  obtain ⟨-, hu⟩ | ⟨j, hj, hp⟩ := hrow.unused_or_same hs ht
  · exact absurd hid (hu i hi)
  · rw [← hp]
    exact hs.agree i j hi hj (hid.trans (Instance.id_eq hp).symm)

/-- The registry stays in order with an allowed call. -/
theorem Allows.sane_call (hs : b.Sane) (ha : b.Allows r own (.call c))
    (h : b.Answers locking r.thread c o b') : b'.Sane := by
  refine ⟨?_, fun i hi => ?_, fun i j hi hj hid => ?_, fun t' ht' => ?_⟩
  -- Only a row that has come to stand is new, and it belongs to an instance that was known or not.
  · obtain hr | ⟨t, row, -, -, -, -, hr, -⟩ | ⟨id, -, -, -, hr⟩ := ha.rows_cases h
    · rw [hr]
      exact hs.nodup
    · rw [hr]
      exact Rows.nodup_put hs.nodup
    · rw [hr]
      exact Rows.nodup_drop hs.nodup
  · rw [h.ledger_eq.2]
    obtain hi | ⟨t, -, ht, -, hrow⟩ := ha.known_cases h hi
    · exact hs.given i hi
    · obtain ⟨hg, -⟩ | ⟨j, hj, hp⟩ := hrow.unused_or_same hs (own?_eq_some.mp ht).1
      · exact hg
      · rw [← Instance.id_eq hp]
        exact hs.given j hj
  · obtain hi | ⟨t, -, ht, hwi, hrow⟩ := ha.known_cases h hi
    · obtain hj | ⟨t, -, ht, -, hrow⟩ := ha.known_cases h hj
      · exact hs.agree i j hi hj hid
      · exact hrow.agree hs (own?_eq_some.mp ht).1 hi hid
    · obtain hj | ⟨u, -, hu, hwj, -⟩ := ha.known_cases h hj
      · exact (hrow.agree hs (own?_eq_some.mp ht).1 hj hid.symm).symm
      · obtain rfl : t = u := Option.some.inj (ht.symm.trans hu)
        obtain rfl : i = j := List.singleton_inj.mp (hwi.symm.trans hwj)
        rfl
  · have hk : ∀ i, b.Known i → b'.Known i := fun i hi => h.known_iff.mpr (.inl hi)
    obtain ⟨hr, ho, -⟩ | ⟨t, ht, ho, -⟩ := h.transaction_cases ht'
    · rw [ho, hr]
      exact ⟨fun i hi => hi, fun i hi => hk i (.inl hi)⟩
    · rw [ho]
      exact ⟨fun i hi => (hs.opened t ht).1 i (h.mem_of_transaction ht' hi),
        fun i hi => hk i ((hs.opened t ht).2 i hi)⟩

/-- Identifiers may be given, and transactions given up, at any time. -/
theorem Sane.give (hs : b.Sane) (id : Uuid) : (b.give id).Sane :=
  ⟨hs.nodup, fun i hi => List.mem_cons_of_mem _ (hs.given i hi), hs.agree, hs.opened⟩

theorem transaction_of_abandon {tid : Nat} (h : (b.abandon tid).transaction = some t) :
    b.transaction = some t := by
  unfold abandon at h
  split at h
  · exact h
  · cases h

theorem Sane.abandon (hs : b.Sane) (tid : Nat) : (b.abandon tid).Sane := by
  refine ⟨?_, fun i hi => ?_, fun i j hi hj => ?_, fun t ht => ?_⟩
  · rw [abandon_eq.1]
    exact hs.nodup
  · rw [abandon_eq.2.2]
    exact hs.given i (known_abandon.mp hi)
  · exact hs.agree i j (known_abandon.mp hi) (known_abandon.mp hj)
  · rw [abandon_eq.1]
    have ho := hs.opened t (transaction_of_abandon ht)
    exact ⟨ho.1, fun i hi => known_abandon.mpr (ho.2 i hi)⟩

/-- The registry stays in order with whatever is allowed. -/
theorem Allows.sane (hs : b.Sane) (ha : b.Allows r own q) (h : b.Serves locking r.thread q a b') :
    b'.Sane := by
  cases q with
  | call c => exact ha.sane_call hs h
  | now => exact h ▸ hs
  | freshId => exact h.2 ▸ hs.give _
  | abandon => exact h ▸ hs.abandon _
  | isQueued => exact h ▸ hs
  | enqueue =>
    obtain ⟨id, -, rfl⟩ := h
    exact hs.give id

/-! ### What others change -/

namespace Beside

theorem refl (hs : b.Sane) : Beside r own b b :=
  ⟨hs, ⟨[], rfl, fun _ h => nomatch h⟩, fun _ h => h, fun _ h => h, fun _ _ h => h, rfl,
    fun _ _ _ h => h⟩

theorem trans (h : Beside r own b b') (h' : Beside r own b' b'') : Beside r own b b'' := by
  obtain ⟨newer, hl, hn⟩ := h.ledger
  obtain ⟨newest, hl', hn'⟩ := h'.ledger
  refine ⟨h'.sane, ⟨newest ++ newer, ?_, fun e he => ?_⟩,
    fun id hid => h'.given id (h.given id hid),
    fun i hi => h'.known i (h.known i hi), fun id hid hu => h'.unused id hid (h.unused id hid hu),
    h'.own.trans h.own, fun t ht i hi => ?_⟩
  · rw [hl', hl, List.append_assoc]
  · rcases List.mem_append.mp he with he | he
    · exact hn' e he
    · exact hn e he
  · exact h.rows t ht i (h'.rows t (h.own.trans ht) i hi)

theorem grows (h : Beside r own b b') : b.Grows b' := by
  obtain ⟨newer, hl, -⟩ := h.ledger
  exact ⟨⟨newer, hl⟩, h.known⟩

/-- What others ask for does not make a role refused. -/
theorem refused_iff (h : Beside r own b b') :
    Refused r.thread b'.ledger ↔ Refused r.thread b.ledger := by
  obtain ⟨newer, hl, hn⟩ := h.ledger
  rw [hl]
  clear hl
  induction newer with
  | nil => rfl
  | cons e newer ih =>
    rw [List.cons_append, refused_cons_of_mild fun ht => (hn e (List.mem_cons_self ..) ht).1]
    exact ih fun e he => hn e (List.mem_cons_of_mem _ he)

/-- What others ask for leaves no more undecided. -/
theorem mem_undecided (h : Beside r own b b') {id : InstanceId}
    (hid : id ∈ undecided r.thread b'.ledger) : id ∈ undecided r.thread b.ledger := by
  obtain ⟨newer, hl, hn⟩ := h.ledger
  rw [hl] at hid
  clear hl
  induction newer with
  | nil => exact hid
  | cons e newer ih =>
    refine ih (mem_undecided_of_cons ?_ hid) fun e he => hn e (List.mem_cons_of_mem _ he)
    exact fun ht => Entry.deployed?_eq_none (hn e (List.mem_cons_self ..) ht).1

/-- Only the role itself ends its instance. -/
theorem lastEnd_eq (h : Beside r own b b') {id : InstanceId}
    (hid : ∀ k, r.treats = some k → id = k) :
    lastEnd r.thread id b'.ledger = lastEnd r.thread id b.ledger := by
  obtain ⟨newer, hl, hn⟩ := h.ledger
  rw [hl]
  clear hl
  induction newer with
  | nil => rfl
  | cons e newer ih =>
    rw [List.cons_append, lastEnd_cons_of_not]
    · exact ih fun e he => hn e (List.mem_cons_of_mem _ he)
    · intro ht he
      obtain ⟨k, hk, hne⟩ := (hn e (List.mem_cons_self ..) ht).2 id he
      exact hne (hid k hk)

/-- A thread that has not started has not started through others. -/
theorem unstarted (h : Beside r own b b') (ht : r.treats = none)
    (hu : Unstarted r.thread b.ledger) : Unstarted r.thread b'.ledger := by
  obtain ⟨newer, hl, hn⟩ := h.ledger
  rw [hl]
  intro e he het
  rcases List.mem_append.mp he with he | he
  · have hmild := (hn e he het).1
    cases hends : e.call.ends? with
    | none => exact Call.isDeed_of_isPlain (by simp [Call.isPlain, hmild, hends])
    | some id =>
      obtain ⟨k, hk, -⟩ := (hn e he het).2 id hends
      rw [ht] at hk
      cases hk
  · exact hu e he het

theorem reserved (h : Beside r own b b') {i : Instance} (hr : Reserved r.thread i b.ledger) :
    Reserved r.thread i b'.ledger := by
  obtain ⟨newer, hl, -⟩ := h.ledger
  rw [hl]
  exact hr.mono fun e he => List.mem_append_right _ he

theorem razed (h : Beside r own b b') {id : InstanceId} (hid : ∀ k, r.treats = some k → id = k)
    (hr : b.Razed r.thread id) : b'.Razed r.thread id := by
  obtain ⟨i, e, hi, hii, hl, he⟩ := hr
  exact ⟨i, e, h.known i hi, hii, (h.lastEnd_eq hid).trans hl, he⟩

end Beside

/-- Two roles are apart: they belong to different threads, which own different identifiers, or they
are different steps of one cycle. -/
def Apart (r : Role) (own : List Uuid) (s : Role) (others : List Uuid) : Prop :=
  (r.thread ≠ s.thread ∧ ∀ id ∈ own, id ∉ others) ∨
  (r.thread = s.thread ∧ ∃ k l, r.treats = some k ∧ s.treats = some l ∧ k ≠ l)

/-- A call that is allowed to one role spares the others. -/
theorem Allows.spares (ha : b.Allows r own (.call c)) (hrs : Apart r own s others)
    (before after : List Instance) : s.Spares ⟨r.thread, c, o, before, after⟩ := by
  intro ht
  obtain ⟨hne, -⟩ | ⟨-, k, l, hk, hl, hkl⟩ := hrs
  · exact absurd ht hne
  · obtain ⟨hm, hends⟩ := ha.2.1 k hk
    refine ⟨hm, fun id hid => ⟨l, hl, ?_⟩⟩
    rw [hends id hid]
    exact hkl

theorem Beside.give (hs : b.Sane) (id : Uuid) : Beside r own b (b.give id) :=
  ⟨hs.give id, ⟨[], rfl, fun _ h => nomatch h⟩, fun _ h => List.mem_cons_of_mem _ h, fun _ h => h,
    fun _ _ h => h, rfl, fun _ _ _ h => h⟩

/-- A call that is allowed to one role changes nothing that another relies on. -/
theorem Allows.beside_call (hs : b.Sane) (ha : b.Allows r own (.call c))
    (h : b.Answers locking r.thread c o b') (hrs : Apart r own s others) :
    Beside s others b b' := by
  -- The step of a cycle closes no transaction.
  have hne : c.isMild = false → s.thread ≠ r.thread ∧ ∀ id ∈ own, id ∉ others := by
    intro hm
    obtain ⟨hne, hd⟩ | ⟨-, k, l, hk, -, -⟩ := hrs
    · exact ⟨hne.symm, hd⟩
    · rw [(ha.2.1 k hk).1] at hm
      cases hm
  refine ⟨ha.sane_call hs h, ⟨[⟨r.thread, c, o, b.rows, b'.rows⟩], h.ledger_eq.1, fun e he => ?_⟩,
    fun id hid => h.ledger_eq.2 ▸ hid, fun i hi => h.known_iff.mpr (.inl hi),
    fun id hid hu i hi => ?_, ?_, fun t ht i hi => ?_⟩
  · rw [List.mem_singleton.mp he]
    exact ha.spares hrs _ _
  -- Nobody reserves with the identifiers of another, and who promotes an instance has known it.
  · obtain hi | ⟨t, rfl, ht, -, hrow⟩ := ha.known_cases h hi
    · exact hu i hi
    · rintro rfl
      obtain hrow | hrow := hrow
      · exact (hne rfl).2 _ hrow.own hid
      · obtain ⟨j, hj, hp⟩ := hrow.same
        exact hu j ((hs.opened t (own?_eq_some.mp ht).1).2 j hj) (Instance.id_eq hp)
  · cases hm : c.isMild with
    | true => rw [own?, own?, h.transaction_of_mild hm]
    | false => exact h.own?_of_ne (hne hm).1
  -- While a transaction is open nobody else commits, so rows can only be removed.
  · obtain hr | ⟨u, row, rfl, hu, -⟩ | ⟨id, -, -, -, hr⟩ := ha.rows_cases h
    · rwa [hr] at hi
    · have hst : t = u := Option.some.inj
        ((own?_eq_some.mp ht).1.symm.trans (own?_eq_some.mp hu).1)
      have hth := (own?_eq_some.mp hu).2
      rw [← hst, (own?_eq_some.mp ht).2] at hth
      exact absurd hth (hne rfl).1
    · rw [hr] at hi
      exact (Rows.mem_drop.mp hi).1

/-- What is allowed to one role changes nothing that another relies on. -/
theorem Allows.beside (hs : b.Sane) (ha : b.Allows r own q)
    (h : b.Serves locking r.thread q a b') (hrs : Apart r own s others) :
    Beside s others b b' := by
  cases q with
  | call c => exact ha.beside_call hs h hrs
  | now =>
    obtain rfl : b' = b := h
    exact Beside.refl hs
  | freshId => exact h.2 ▸ Beside.give hs _
  | abandon =>
    have hne : s.thread ≠ r.thread := by
      obtain ⟨hne, -⟩ | ⟨-, k, -, hk, -⟩ := hrs
      · exact hne.symm
      · rw [ha.1] at hk
        cases hk
    obtain rfl : b' = b.abandon r.thread := h
    exact ⟨hs.abandon _, ⟨[], abandon_eq.2.1, fun _ h => nomatch h⟩,
      fun id hid => by rwa [abandon_eq.2.2], fun i hi => known_abandon.mpr hi,
      fun id _ hu i hi => hu i (known_abandon.mp hi), own?_abandon_of_ne hne,
      fun _ _ i hi => by rwa [abandon_eq.1] at hi⟩
  | isQueued =>
    obtain rfl : b' = b := h
    exact Beside.refl hs
  | enqueue =>
    obtain ⟨id, -, rfl⟩ := h
    exact Beside.give hs id

/-- A role's own plain call changes nothing that it relies on either. -/
theorem Beside.of_plain (hs : b'.Sane) (h : b.Answers locking r.thread c o b')
    (hc : c.isPlain = true) : Beside r own b b' := by
  have hr : b'.rows = b.rows := by
    refine h.rows_eq ?_ ?_
    · rintro rfl
      cases hc
    · rintro id rfl
      cases hc
  refine ⟨hs, ⟨[⟨r.thread, c, o, b.rows, b'.rows⟩], h.ledger_eq.1, fun e he _ => ?_⟩,
    fun id hid => h.ledger_eq.2 ▸ hid, fun i hi => h.known_iff.mpr (.inl hi),
    fun id _ hu i hi => ?_, ?_, fun t _ i hi => hr ▸ hi⟩
  · rw [List.mem_singleton.mp he]
    refine ⟨Call.isMild_of_isPlain hc, fun id hid => ?_⟩
    rw [Call.ends?_of_isPlain hc] at hid
    cases hid
  · obtain hi | hi := h.known_iff.mp hi
    · exact hu i hi
    · exact hu i (.inl (hr ▸ hi))
  · rw [own?, own?, h.transaction_of_mild (Call.isMild_of_isPlain hc)]

end Registry

end GameFleet
