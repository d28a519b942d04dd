import GameFleet.Proofs.Registry.Ledger

/-!
# What requests do to the registry

A request changes little: at most one row comes to stand otherwise, at most one transaction is
opened, changed or closed, and at most one call is entered.

- `Registry.Serves`: what comes of any request, under any circumstances.
- `Registry.Known`: the rows that are or were there when a call was answered.
- `Answers.rows_cases`, `Answers.transaction_cases`: all that a call can do to the rows and to the
  open transaction.
- `Registry.Grows`: nothing is forgotten; `Serves.grows`: whatever is asked for.
- `Registry.Pinned`: the rows that the open transaction locked are there. Where rows are locked, no
  call makes this false.
-/

namespace GameFleet.Registry

/-- A request of a thread may be answered so, and lead to this. -/
def Serves (locking : Bool) (b : Registry) (tid : Nat) :
    (q : Request) → q.Answer → Registry → Prop
  | .call c, o, b' => b.Answers locking tid c o b'
  | .now, _, b' => b' = b
  | .freshId, id, b' => (id : Uuid) ∉ b.given ∧ b' = b.give id
  | .abandon, _, b' => b' = b.abandon tid
  | .isQueued .., _, b' => b' = b
  | .enqueue _, _, b' => ∃ id, id ∉ b.given ∧ b' = b.give id

/-- A row is there, or was there when some call was answered. -/
def Known (b : Registry) (i : Instance) : Prop :=
  i ∈ b.rows ∨ ∃ e ∈ b.ledger, i ∈ e.before ∨ i ∈ e.after

/-- No row of an instance is there or ever was. -/
def Unused (b : Registry) (id : InstanceId) : Prop := ∀ i, b.Known i → i.id ≠ id

/-- The rows that the open transaction locked are there. -/
def Pinned (b : Registry) : Prop :=
  ∀ t, b.transaction = some t → ∀ id ∈ t.locked, ∃ i ∈ b.rows, i.id = id

/-- What the ledger and the rows have told so far is not forgotten. -/
structure Grows (b b' : Registry) : Prop where
  ledger : ∃ newer, b'.ledger = newer ++ b.ledger
  known : ∀ i, b.Known i → b'.Known i

variable {locking : Bool} {b b' b'' : Registry} {tid u : Nat} {c : Call} {o : Outcome c.Result}
  {t : Transaction} {id : Uuid}

theorem own?_eq_some : b.own? tid = some t ↔ b.transaction = some t ∧ t.thread = tid := by
  simp [own?, Option.filter_eq_some_iff]

/-! ### Parts of the registry that stay -/

@[simp] theorem rows_enter (before : List Instance) : (b.enter tid c o before).rows = b.rows := rfl

@[simp] theorem ledger_enter (before : List Instance) :
    (b.enter tid c o before).ledger = ⟨tid, c, o, before, b.rows⟩ :: b.ledger := rfl

@[simp] theorem known_give {i : Instance} : (b.give id).Known i ↔ b.Known i := Iff.rfl

/-- A change of a transaction, or its end, changes nothing else. -/
theorem change_eq (f : Transaction → Transaction) :
    (b.change tid f).rows = b.rows ∧ (b.change tid f).ledger = b.ledger ∧
      (b.change tid f).given = b.given := by
  unfold change
  split <;> exact ⟨rfl, rfl, rfl⟩

/-- The transactions of other threads stay as they are. -/
theorem own?_eq_none_of_ne (h : b.transaction = some t) (hne : t.thread ≠ u) :
    b.own? u = none := by
  simp [own?, h, Option.filter, hne]

theorem own?_change_of_ne {f : Transaction → Transaction} (hf : ∀ t, (f t).thread = t.thread)
    (hne : u ≠ tid) : (b.change tid f).own? u = b.own? u := by
  unfold change
  split
  · rfl
  · rename_i t ht
    obtain ⟨hopen, rfl⟩ := own?_eq_some.mp ht
    rw [own?_eq_none_of_ne hopen hne.symm]
    exact own?_eq_none_of_ne rfl (by rw [hf]; exact hne.symm)

theorem own?_abandon_of_ne (hne : u ≠ tid) : (b.abandon tid).own? u = b.own? u := by
  unfold abandon
  split
  · rfl
  · rename_i t ht
    obtain ⟨hopen, rfl⟩ := own?_eq_some.mp ht
    rw [own?_eq_none_of_ne hopen hne.symm]
    rfl

@[simp] theorem own?_abandon_self : (b.abandon tid).own? tid = none := by
  unfold abandon
  split
  · assumption
  · rfl

theorem abandon_eq :
    (b.abandon tid).rows = b.rows ∧ (b.abandon tid).ledger = b.ledger ∧
      (b.abandon tid).given = b.given := by
  unfold abandon
  split <;> exact ⟨rfl, rfl, rfl⟩

theorem ledger_take : (b.take tid c).ledger = b.ledger := by
  unfold take
  split <;> try rfl
  · split
    · exact (change_eq _).2.1
    · rfl
  · exact (change_eq _).2.1
  · unfold commit
    split <;> rfl

theorem given_take : (b.take tid c).given = b.given := by
  unfold take
  split <;> try rfl
  · split
    · exact (change_eq _).2.2
    · rfl
  · exact (change_eq _).2.2
  · unfold commit
    split <;> rfl

/-- The rows change when a transaction is closed or a row is removed. -/
theorem rows_take_cases (b : Registry) (tid : Nat) (c : Call) :
    (b.take tid c).rows = b.rows ∨
    (∃ t, c = .commit ∧ b.own? tid = some t ∧
      (b.take tid c).rows = Rows.overlaid Instance.id b.rows t.written ∧
      (b.take tid c).transaction = none) ∨
    ∃ id, c = .removeInstance id ∧ (b.take tid c).rows = Rows.drop Instance.id id b.rows := by
  unfold take
  split
  · exact .inl rfl
  · split
    · exact .inl (change_eq _).1
    · exact .inl rfl
  · exact .inl (change_eq _).1
  · unfold commit
    split
    · exact .inl rfl
    · rename_i t ht
      exact .inr (.inl ⟨t, rfl, ht, rfl, rfl⟩)
  · rename_i id
    exact .inr (.inr ⟨id, rfl, rfl⟩)
  · exact .inl rfl

/-! ### What a call does -/

namespace Answers

/-- The call is entered, and the identifiers that were given stay the same. -/
theorem ledger_eq (h : b.Answers locking tid c o b') :
    b'.ledger = ⟨tid, c, o, b.rows, b'.rows⟩ :: b.ledger ∧ b'.given = b.given := by
  have hf : ∀ taken, (b.fail locking tid taken c).ledger = b.ledger ∧
      (b.fail locking tid taken c).given = b.given := by
    intro taken
    unfold fail
    split
    · exact abandon_eq.2
    · split
      · exact ⟨ledger_take, given_take⟩
      · exact ⟨rfl, rfl⟩
    · exact ⟨rfl, rfl⟩
  obtain ⟨f, taken, rfl, rfl⟩ | ⟨a, rfl, -, rfl⟩ := h.cases
  · exact ⟨by rw [ledger_enter, (hf taken).1]; rfl, (hf taken).2⟩
  · exact ⟨by rw [ledger_enter, ledger_take]; rfl, given_take⟩

/-- A call that looks at the rows gives what it finds there. -/
theorem read_eq {a x : c.Result} (h : b.Answers locking tid c (.ok a) b')
    (hx : b.read tid c = some x) : a = x := by
  obtain ⟨_, _, he, -⟩ | ⟨y, he, -, -⟩ := h.cases
  · cases he
  · rw [hx] at he
    exact Except.ok.inj he

/-- The rows change when a transaction is closed or a row is removed. -/
theorem rows_cases (h : b.Answers locking tid c o b') :
    b'.rows = b.rows ∨
    (∃ t, c = .commit ∧ b.own? tid = some t ∧
      b'.rows = Rows.overlaid Instance.id b.rows t.written ∧ b'.transaction = none) ∨
    ∃ id, c = .removeInstance id ∧ b.defers locking (.removeInstance id) = false ∧
      b'.rows = Rows.drop Instance.id id b.rows := by
  obtain ⟨f, taken, rfl, rfl⟩ | ⟨a, rfl, hd, rfl⟩ := h.cases
  · show (b.fail locking tid taken c).rows = b.rows ∨ _
    unfold fail
    split
    · exact .inl abandon_eq.1
    · rename_i id
      split
      · rename_i ht
        simp only [Bool.and_eq_true, Bool.not_eq_true'] at ht
        exact .inr (.inr ⟨id, rfl, ht.2, rfl⟩)
      · exact .inl rfl
    · exact .inl rfl
  · obtain hr | ⟨t, rfl, ht, hr, hn⟩ | ⟨id, rfl, hr⟩ := rows_take_cases b tid c
    · exact .inl hr
    · exact .inr (.inl ⟨t, rfl, ht, hr, hn⟩)
    · exact .inr (.inr ⟨id, rfl, hd, hr⟩)

/-- Other calls leave the rows as they are. -/
theorem rows_eq (h : b.Answers locking tid c o b') (hc : c ≠ .commit)
    (hr : ∀ id, c ≠ .removeInstance id) : b'.rows = b.rows := by
  obtain h | ⟨_, h, -⟩ | ⟨id, h, -⟩ := h.rows_cases
  · exact h
  · exact absurd h hc
  · exact absurd h (hr id)

/-- The transactions of other threads stay as they are. -/
theorem own?_of_ne (h : b.Answers locking tid c o b') (hne : u ≠ tid) :
    b'.own? u = b.own? u := by
  obtain ⟨f, taken, rfl, rfl⟩ | ⟨a, rfl, hd, rfl⟩ := h.cases
  · show (b.fail locking tid taken c).own? u = b.own? u
    unfold fail
    split
    · exact own?_abandon_of_ne hne
    · split <;> rfl
    · rfl
  · show (b.take tid c).own? u = b.own? u
    unfold take
    split
    · have hn : b.transaction = none := by simpa [defers] using hd
      rw [own?_eq_none_of_ne rfl hne.symm, own?, hn]
      rfl
    · split
      · exact own?_change_of_ne (fun _ => rfl) hne
      · rfl
    · exact own?_change_of_ne (fun _ => rfl) hne
    · unfold commit
      split
      · rfl
      · rename_i t ht
        obtain ⟨hopen, rfl⟩ := own?_eq_some.mp ht
        rw [own?_eq_none_of_ne hopen hne.symm]
        rfl
    · rfl
    · rfl

/-- A mild call leaves all transactions as they are. -/
theorem transaction_of_mild (h : b.Answers locking tid c o b') (hm : c.isMild = true) :
    b'.transaction = b.transaction := by
  obtain ⟨f, taken, rfl, rfl⟩ | ⟨a, rfl, -, rfl⟩ := h.cases
  · show (b.fail locking tid taken c).transaction = b.transaction
    unfold fail
    split
    · cases hm
    · split <;> rfl
    · rfl
  · show (b.take tid c).transaction = b.transaction
    unfold take
    split <;> first | rfl | cases hm

/-- A transaction is opened on the rows as they are. -/
theorem own?_begin {a : Unit} (h : b.Answers locking tid .begin (.ok a) b') :
    b'.own? tid = some { thread := tid, opened := b.rows } := by
  obtain ⟨_, _, he, -⟩ | ⟨_, -, -, rfl⟩ := h.cases
  · cases he
  · exact own?_eq_some.mpr ⟨rfl, rfl⟩

/-- A row that is found in the transaction is locked. -/
theorem own?_lock {id : InstanceId} {row : Option Instance}
    (h : b.Answers locking tid (.lockInstance id) (.ok row) b') (ht : b.own? tid = some t)
    (hw : t.written = []) :
    row = Rows.find? Instance.id id b.rows ∧
      b'.own? tid = some (if row.isSome then { t with locked := id :: t.locked } else t) := by
  have hrow : row = Rows.find? Instance.id id b.rows := by
    have := h.read_eq rfl
    rwa [view, ht, Option.map_some, Option.getD_some, hw] at this
  refine ⟨hrow, ?_⟩
  obtain ⟨_, _, he, -⟩ | ⟨_, -, -, rfl⟩ := h.cases
  · cases he
  · show (b.take tid (.lockInstance id)).own? tid = _
    rw [take, hrow]
    split
    · rw [change, ht]
      exact own?_eq_some.mpr ⟨rfl, (own?_eq_some.mp ht).2⟩
    · exact ht

/-- The rows of an owner are those that are there. -/
theorem own?_owners {owner : OwnerId} {rows : List Instance}
    (h : b.Answers locking tid (.ownersInTransaction owner) (.ok rows) b')
    (ht : b.own? tid = some t) (hw : t.written = []) :
    rows = owned owner b.rows ∧ b'.own? tid = some t ∧ b'.rows = b.rows := by
  have hrows : rows = owned owner b.rows := by
    have := h.read_eq rfl
    rwa [view, ht, Option.map_some, Option.getD_some, hw] at this
  obtain ⟨_, _, he, -⟩ | ⟨_, -, -, rfl⟩ := h.cases
  · cases he
  · exact ⟨hrows, ht, rfl⟩

/-- A row is written in the transaction. -/
theorem own?_write {row : Instance} {a : Unit} (h : b.Answers locking tid (.write row) (.ok a) b')
    (ht : b.own? tid = some t) :
    b'.own? tid = some { t with written := t.written ++ [row] } ∧ b'.rows = b.rows := by
  obtain ⟨_, _, he, -⟩ | ⟨_, -, -, rfl⟩ := h.cases
  · cases he
  · refine ⟨?_, (change_eq _).1⟩
    show (b.take tid (.write row)).own? tid = _
    rw [take, change, ht]
    exact own?_eq_some.mpr ⟨rfl, (own?_eq_some.mp ht).2⟩

/-- What was written stands. -/
theorem rows_commit {a : Unit} (h : b.Answers locking tid .commit (.ok a) b')
    (ht : b.own? tid = some t) : b'.rows = Rows.overlaid Instance.id b.rows t.written := by
  obtain ⟨_, _, he, -⟩ | ⟨_, -, -, rfl⟩ := h.cases
  · cases he
  · show (b.take tid .commit).rows = _
    rw [take, commit, ht]

/-- The open transaction has just been opened, or it was open before and may have locked a row. -/
theorem transaction_cases (h : b.Answers locking tid c o b') {t' : Transaction}
    (ht : b'.transaction = some t') :
    (b'.rows = b.rows ∧ t'.opened = b.rows ∧ t'.locked = []) ∨
    ∃ t, b.transaction = some t ∧ t'.opened = t.opened ∧
      ∀ id ∈ t'.locked, id ∈ t.locked ∨ (b'.rows = b.rows ∧ ∃ i ∈ b.rows, i.id = id) := by
  have same : ∀ {x : Option Transaction} {p : InstanceId → Prop}, x = b.transaction →
      x = some t' → ∃ t, b.transaction = some t ∧ t'.opened = t.opened ∧
        ∀ id ∈ t'.locked, id ∈ t.locked ∨ p id :=
    fun hx hs => ⟨t', hx ▸ hs, rfl, fun _ h => .inl h⟩
  -- A failed call locks nothing; of the others only a search locks a row, the one it has found.
  obtain ⟨f, taken, rfl, rfl⟩ | ⟨a, rfl, -, rfl⟩ := h.cases
  · right
    change (b.fail locking tid taken c).transaction = some t' at ht
    unfold fail at ht
    split at ht
    · unfold abandon at ht
      split at ht
      · exact same rfl ht
      · cases ht
    · split at ht <;> exact same rfl ht
    · exact same rfl ht
  · change (b.take tid c).transaction = some t' at ht
    unfold take at ht ⊢
    split at ht
    · cases ht
      exact .inl ⟨rfl, rfl, rfl⟩
    · rename_i id
      right
      split at ht
      · rename_i hs
        unfold change at ht
        split at ht
        · exact same rfl ht
        · rename_i t hown
          cases ht
          refine ⟨t, (own?_eq_some.mp hown).1, rfl, fun x hx => ?_⟩
          rcases List.mem_cons.mp hx with rfl | hx
          · exact .inr ⟨by simp [hs, change_eq], Rows.find?_isSome_iff.mp hs⟩
          · exact .inl hx
      · exact same rfl ht
    · right
      unfold change at ht
      split at ht
      · exact same rfl ht
      · rename_i t hown
        cases ht
        exact ⟨t, (own?_eq_some.mp hown).1, rfl, fun _ hx => .inl hx⟩
    · right
      unfold commit at ht
      split at ht
      · exact same rfl ht
      · cases ht
    · exact .inr (same rfl ht)
    · exact .inr (same rfl ht)

/-- While a transaction is open afterwards, rows have at most been removed. -/
theorem mem_of_transaction (h : b.Answers locking tid c o b') (ht : b'.transaction = some t)
    {i : Instance} (hi : i ∈ b'.rows) : i ∈ b.rows := by
  obtain hr | ⟨_, -, -, -, hn⟩ | ⟨id, -, -, hr⟩ := h.rows_cases
  · rwa [hr] at hi
  · rw [hn] at ht
    cases ht
  · rw [hr] at hi
    exact (Rows.mem_drop.mp hi).1

/-- A row is known afterwards that was known before or is there now. -/
theorem known_iff (h : b.Answers locking tid c o b') {i : Instance} :
    b'.Known i ↔ b.Known i ∨ i ∈ b'.rows := by
  unfold Known
  rw [h.ledger_eq.1]
  simp only [List.mem_cons, exists_eq_or_imp]
  constructor
  · rintro (hi | (hi | hi) | hi)
    · exact .inr hi
    · exact .inl (.inl hi)
    · exact .inr hi
    · exact .inl (.inr hi)
  · rintro ((hi | hi) | hi)
    · exact .inr (.inl (.inl hi))
    · exact .inr (.inr hi)
    · exact .inl hi

/-- Where rows are locked, the rows that the open transaction locked stay there. -/
theorem pinned (h : b.Answers true tid c o b') (hp : b.Pinned) : b'.Pinned := by
  intro t' ht' id hid
  obtain ⟨-, -, hnil⟩ | ⟨t, ht, -, hlock⟩ := h.transaction_cases ht'
  · rw [hnil] at hid
    cases hid
  · rcases hlock id hid with hold | ⟨hr, hi⟩
    · obtain ⟨i, hi, rfl⟩ := hp t ht id hold
      obtain hr | ⟨_, -, -, -, hn⟩ | ⟨k, -, hd, hr⟩ := h.rows_cases
      · exact ⟨i, hr ▸ hi, rfl⟩
      · rw [hn] at ht'
        cases ht'
      · refine ⟨i, ?_, rfl⟩
        rw [hr, Rows.mem_drop]
        refine ⟨hi, ?_⟩
        rintro rfl
        -- The removal would have waited for the transaction.
        simp [defers, ht, hold] at hd
    · exact hr ▸ hi

end Answers

/-! ### What every request keeps -/

theorem Grows.refl : b.Grows b := ⟨⟨[], rfl⟩, fun _ h => h⟩

theorem Grows.trans (h : b.Grows b') (h' : b'.Grows b'') : b.Grows b'' := by
  obtain ⟨newer, hl⟩ := h.ledger
  obtain ⟨newest, hl'⟩ := h'.ledger
  refine ⟨⟨newest ++ newer, ?_⟩, fun i hi => h'.known i (h.known i hi)⟩
  rw [hl', hl, List.append_assoc]

theorem known_abandon {i : Instance} : (b.abandon tid).Known i ↔ b.Known i := by
  unfold Known
  rw [abandon_eq.1, abandon_eq.2.1]

/-- Nothing is forgotten with any request. -/
theorem Serves.grows {q : Request} {a : q.Answer} (h : b.Serves locking tid q a b') :
    b.Grows b' := by
  cases q with
  | call c =>
    exact ⟨⟨[_], (Answers.ledger_eq h).1⟩, fun i hi => (Answers.known_iff h).mpr (.inl hi)⟩
  | now =>
    obtain rfl : b' = b := h
    exact .refl
  | freshId =>
    obtain ⟨-, rfl⟩ := h
    exact ⟨⟨[], rfl⟩, fun _ h => h⟩
  | abandon =>
    obtain rfl : b' = b.abandon tid := h
    exact ⟨⟨[], abandon_eq.2.1⟩, fun _ hi => known_abandon.mpr hi⟩
  | isQueued =>
    obtain rfl : b' = b := h
    exact .refl
  | enqueue =>
    obtain ⟨id, -, rfl⟩ := h
    exact ⟨⟨[], rfl⟩, fun _ h => h⟩

/-- The identifiers that were given stay given. -/
theorem Serves.mem_given {q : Request} {a : q.Answer} (h : b.Serves locking tid q a b')
    {id : Uuid} (hid : id ∈ b.given) : id ∈ b'.given := by
  cases q with
  | call c => exact (Answers.ledger_eq h).2 ▸ hid
  | now =>
    obtain rfl : b' = b := h
    exact hid
  | freshId =>
    obtain ⟨-, rfl⟩ := h
    exact List.mem_cons_of_mem _ hid
  | abandon =>
    obtain rfl : b' = b.abandon tid := h
    rwa [abandon_eq.2.2]
  | isQueued =>
    obtain rfl : b' = b := h
    exact hid
  | enqueue =>
    obtain ⟨id, -, rfl⟩ := h
    exact List.mem_cons_of_mem _ hid

/-- Whoever asks is entered. -/
theorem Serves.thread_of_mem {q : Request} {a : q.Answer} (h : b.Serves locking tid q a b')
    {e : Entry} (he : e ∈ b'.ledger) : e ∈ b.ledger ∨ e.thread = tid := by
  cases q with
  | call c =>
    rw [(Answers.ledger_eq h).1] at he
    rcases List.mem_cons.mp he with rfl | he
    · exact .inr rfl
    · exact .inl he
  | now =>
    obtain rfl : b' = b := h
    exact .inl he
  | freshId =>
    obtain ⟨-, rfl⟩ := h
    exact .inl he
  | abandon =>
    obtain rfl : b' = b.abandon tid := h
    rw [abandon_eq.2.1] at he
    exact .inl he
  | isQueued =>
    obtain rfl : b' = b := h
    exact .inl he
  | enqueue =>
    obtain ⟨id, -, rfl⟩ := h
    exact .inl he

end GameFleet.Registry
