import GameFleet.Proofs.Fleet.Turns

/-!
# The life of a row (specification §3)

However admissions, terminations, tasks and cycles take turns, and whatever fails: the row of an
instance comes to stand as pending, may become ready, and is removed in the end, once the instance
was destroyed. It never comes back, and what it says of the instance never changes.

- `phase`: how far the row of an instance has come.
- `Fleet.course`: the phases that the row has gone through in a run.
- `Fleet.Lives`: the invariant: what the registry knows of a row that has taken some course.
- `Registry.Moves.phase_cases`, `Registry.Moves.razed`: what one move can do to a row.
- `Fleet.life_cycle`: the theorem.
-/

namespace GameFleet

open Registry

/-- How far the row of an instance has come; none where it has no row. -/
def phase (id : InstanceId) (rows : List Instance) : Option Status :=
  (Rows.find? Instance.id id rows).map Instance.status

/-- The phases that come before one, the last first. -/
def phasesBefore : Option Status → List (Option Status)
  | none => []
  | some .pending => [none]
  | some .ready => [some .pending, none]

section

variable {id : InstanceId} {i row : Instance} {rows : List Instance}

theorem phase_eq_none_iff : phase id rows = none ↔ ∀ i ∈ rows, i.id ≠ id := by
  rw [phase, Option.map_eq_none_iff, Rows.find?_eq_none_iff]

theorem phase_put_self : phase row.id (Rows.put Instance.id row rows) = some row.status := by
  rw [phase, Rows.find?_put_self, Option.map_some]

theorem phase_put_of_ne (h : id ≠ row.id) :
    phase id (Rows.put Instance.id row rows) = phase id rows := by
  rw [phase, Rows.find?_put_of_ne _ h, phase]

theorem phase_drop_self : phase id (Rows.drop Instance.id id rows) = none :=
  phase_eq_none_iff.mpr fun _ hi => (Rows.mem_drop.mp hi).2

theorem phase_drop_of_ne {k : InstanceId} (h : id ≠ k) :
    phase id (Rows.drop Instance.id k rows) = phase id rows := by
  rw [phase, Rows.find?_drop_of_ne h, phase]

end

namespace Registry

variable {locking : Bool} {b b' : Registry} {id : InstanceId} {i : Instance}

/-- An instance that has a phase has a row. -/
theorem exists_known_of_phase (h : phase id b.rows ≠ none) : ∃ i, b.Known i ∧ i.id = id := by
  by_contra hno
  refine h (phase_eq_none_iff.mpr fun i hi hid => ?_)
  exact hno ⟨i, .inl hi, hid⟩

theorem Unused.phase_eq (h : b.Unused id) : phase id b.rows = none :=
  phase_eq_none_iff.mpr fun i hi => h i (.inl hi)

/-- An identifier that was never used was never used before. -/
theorem Grows.unused (hg : b.Grows b') (h : b'.Unused id) : b.Unused id :=
  fun i hi => h i (hg.known i hi)

namespace Moves

/-- Where rows are locked, the rows that the open transaction locked stay there. -/
theorem pinned (hm : b.Moves true b') (hp : b.Pinned) : b'.Pinned := by
  obtain ⟨r, own, c, o, -, hans⟩ | ⟨hr, -, ht⟩ := hm.cases
  · exact hans.pinned hp
  · intro t ht' id hid
    rw [hr]
    exact hp t (ht t ht') id hid

/-- All that a move can do to the row of an instance: a pending row comes to stand that was never
there, or the row that is there becomes ready or is removed. -/
theorem phase_cases (hm : b.Moves true b') (hp : b.Pinned) (id : InstanceId) :
    phase id b'.rows = phase id b.rows ∨
    (b.Unused id ∧ phase id b'.rows = some .pending) ∨
    (phase id b.rows ≠ none ∧ phase id b'.rows = some .ready) ∨
    (phase id b.rows ≠ none ∧ phase id b'.rows = none) := by
  obtain ⟨r, own, c, o, ha, hans⟩ | ⟨hr, -, -⟩ := hm.cases
  · obtain hr | ⟨t, row, -, ht, -, hrow, hr, -⟩ | ⟨k, -, -, -, hr⟩ := ha.rows_cases hans
    · exact .inl (by rw [hr])
    · rw [hr]
      by_cases hid : id = row.id
      · subst hid
        rw [phase_put_self]
        obtain hrow | hrow := hrow
        · exact .inr (.inl ⟨hrow.unused, congrArg some hrow.pending⟩)
        · -- The transaction has locked the row, so nobody has removed it in the meantime.
          obtain ⟨i, hi, hid⟩ := hp t (own?_eq_some.mp ht).1 row.id hrow.locked
          refine .inr (.inr (.inl ⟨fun hnone => ?_, congrArg some hrow.ready⟩))
          exact phase_eq_none_iff.mp hnone i hi hid
      · exact .inl (phase_put_of_ne hid)
    · rw [hr]
      by_cases hid : id = k
      · subst hid
        rw [phase_drop_self]
        by_cases hnone : phase id b.rows = none
        · exact .inl hnone.symm
        · exact .inr (.inr (.inr ⟨hnone, rfl⟩))
      · exact .inl (phase_drop_of_ne hid)
  · exact .inl (by rw [hr])

/-- A row comes to stand that is whole. -/
theorem isWhole (hm : b.Moves locking b') (hi : i ∈ b'.rows) : i ∈ b.rows ∨ i.IsWhole := by
  obtain ⟨r, own, c, o, ha, hans⟩ | ⟨hr, -, -⟩ := hm.cases
  · obtain hr | ⟨t, row, -, -, -, hrow, hr, -⟩ | ⟨k, -, -, -, hr⟩ := ha.rows_cases hans
    · exact .inl (hr ▸ hi)
    · rw [hr] at hi
      obtain rfl | hi := Rows.eq_or_mem_of_mem_put hi
      · exact .inr (hrow.elim Reserves.whole Promotes.whole)
      · exact .inl hi
    · rw [hr] at hi
      exact .inl (Rows.mem_drop.mp hi).1
  · exact .inl (hr ▸ hi)

/-- A row is removed by a thread that destroyed its instance, where the row says it is, and has done
nothing to end it since. -/
theorem razed (hm : b.Moves locking b') (hs : b.Sane) (hi : i ∈ b.rows)
    (hgone : ∀ j ∈ b'.rows, j.id ≠ i.id) :
    ∃ e d, b'.ledger = e :: b.ledger ∧ e.call = .removeInstance i.id ∧
      lastEnd e.thread i.id b.ledger = some d ∧ d.call = .destroy i.id i.region ∧
      d.isOk = true := by
  obtain ⟨r, own, c, o, ha, hans⟩ | ⟨hr, -, -⟩ := hm.cases
  · obtain hr | ⟨t, row, -, -, -, -, hr, -⟩ | ⟨k, rfl, hrazed, -, hr⟩ := ha.rows_cases hans
    · exact absurd rfl (hgone i (hr ▸ hi))
    · rw [hr] at hgone
      by_cases hid : row.id = i.id
      · exact absurd hid (hgone row (Rows.mem_put_self ..))
      · exact absurd rfl (hgone i (Rows.mem_put_of_ne hi fun h => hid h.symm))
    · have hid : k = i.id := by
        by_contra hne
        rw [hr] at hgone
        exact hgone i (Rows.mem_drop.mpr ⟨hi, fun h => hne h.symm⟩) rfl
      subst hid
      obtain ⟨j, d, hj, hij, hd, hcall, hok⟩ := hrazed
      have hregion : j.region = i.region := Instance.region_eq (hs.agree j i hj (.inl hi) hij)
      exact ⟨_, d, hans.ledger_eq.1, rfl, hd, hregion ▸ hcall, hok⟩
  · exact absurd rfl (hgone i (hr ▸ hi))

end Moves

end Registry

namespace Fleet

variable {b b' : Registry} {c : Control Registry} {ms : List (Move Registry)} {id : InstanceId}
  {ps : List (Option Status)}

/-- The phases that the row of an instance has gone through in a run, the last first. Of a row that
was there at first it must have come so far before. -/
def course (c : Control Registry) (id : InstanceId) : List (Move Registry) → List (Option Status)
  | [] => phase id c.world.rows :: phasesBefore (phase id c.world.rows)
  | m :: earlier =>
    let now := phase id (c.after (m :: earlier)).world.rows
    if now = phase id (c.after earlier).world.rows then course c id earlier
    else now :: course c id earlier

/-- What the registry knows of a row that has taken some course. -/
inductive Lives (id : InstanceId) (b : Registry) : List (Option Status) → Prop where
  | unborn (h : phase id b.rows = none) : Lives id b [none]
  | pending (h : phase id b.rows = some .pending) : Lives id b [some .pending, none]
  | ready (h : phase id b.rows = some .ready) : Lives id b [some .ready, some .pending, none]
  | lost (h : phase id b.rows = none) (hu : ¬b.Unused id) : Lives id b [none, some .pending, none]
  | gone (h : phase id b.rows = none) (hu : ¬b.Unused id) :
    Lives id b [none, some .ready, some .pending, none]

/-- There are two ways in which the life of a row can go. -/
theorem Lives.prefix_or (h : Lives id b ps) :
    ps.reverse <+: [none, some .pending, some .ready, none] ∨
      ps.reverse <+: [none, some .pending, none] := by
  cases h <;> decide

/-- While a row stays in its phase, it goes on with the same course. -/
theorem Lives.of_phase_eq (h : Lives id b ps) (hg : b.Grows b')
    (heq : phase id b'.rows = phase id b.rows) : Lives id b' ps := by
  cases h with
  | unborn h => exact .unborn (heq.trans h)
  | pending h => exact .pending (heq.trans h)
  | ready h => exact .ready (heq.trans h)
  | lost h hu => exact .lost (heq.trans h) fun hu' => hu (hg.unused hu')
  | gone h hu => exact .gone (heq.trans h) fun hu' => hu (hg.unused hu')

/-- With every move a row goes on with its course. -/
theorem Lives.moves (h : Lives id b ps) (hp : b.Pinned) (hm : b.Moves true b') :
    Lives id b' (if phase id b'.rows = phase id b.rows then ps else phase id b'.rows :: ps) := by
  by_cases heq : phase id b'.rows = phase id b.rows
  · rw [if_pos heq]
    exact h.of_phase_eq hm.grows heq
  · rw [if_neg heq]
    have hused : phase id b.rows ≠ none → ¬b'.Unused id := by
      intro hne hu
      obtain ⟨i, hi, hid⟩ := exists_known_of_phase hne
      exact hu i (hm.grows.known i hi) hid
    -- A row that was used before cannot become pending, and one that is gone cannot change.
    obtain hsame | ⟨hunused, hnow⟩ | ⟨hne, hnow⟩ | ⟨hne, hnow⟩ := hm.phase_cases hp id
    · exact absurd hsame heq
    · rw [hnow]
      cases h with
      | unborn h => exact .pending hnow
      | pending h => cases h.symm.trans hunused.phase_eq
      | ready h => cases h.symm.trans hunused.phase_eq
      | lost h hu => exact absurd hunused hu
      | gone h hu => exact absurd hunused hu
    · rw [hnow]
      cases h with
      | unborn h => exact absurd h hne
      | pending h => exact .ready hnow
      | ready h => exact absurd (hnow.trans h.symm) heq
      | lost h hu => exact absurd h hne
      | gone h hu => exact absurd h hne
    · rw [hnow]
      cases h with
      | unborn h => exact absurd h hne
      | pending h => exact .lost hnow (hused hne)
      | ready h => exact .gone hnow (hused hne)
      | lost h hu => exact absurd h hne
      | gone h hu => exact absurd h hne

/-- Every row takes its course. -/
theorem lives_after (ho : Opening c) (hrun : Control.Run (May true) c ms) (id : InstanceId) :
    Lives id (c.after ms).world (course c id ms) := by
  induction ms with
  | nil =>
    show Lives id c.world (phase id c.world.rows :: phasesBefore (phase id c.world.rows))
    generalize hphase : phase id c.world.rows = p
    match p with
    | none => exact .unborn hphase
    | some .pending => exact .pending hphase
    | some .ready => exact .ready hphase
  | cons m earlier ih =>
    have hp : (c.after earlier).world.Pinned := by
      refine registry_after ho hrun.1 (fun t ht => ?_) fun b b' _ h hm => hm.pinned h
      rw [ho.transaction] at ht
      cases ht
    exact (ih hrun.1).moves hp (moves_after ho hrun).2

/-- However the threads of the fleet take turns, and whatever fails: the row of every instance goes
through its phases one after another and never comes back; what it says of the instance never
changes; a row that came to stand is whole; and a row is only removed by a thread whose last call to
end the instance has destroyed it where the row says it is. -/
theorem life_cycle (ho : Opening c) (hrun : Control.Run (May true) c ms) :
    (∀ id, (course c id ms).reverse <+: [none, some .pending, some .ready, none] ∨
      (course c id ms).reverse <+: [none, some .pending, none]) ∧
    (∀ later earlier, ms = later ++ earlier → ∀ i ∈ (c.after earlier).world.rows,
      ∀ j ∈ (c.after ms).world.rows, j.id = i.id → j.particulars = i.particulars) ∧
    (∀ i ∈ (c.after ms).world.rows, i ∈ c.world.rows ∨ i.IsWhole) ∧
    ∀ m earlier, ms = m :: earlier → ∀ i ∈ (c.after earlier).world.rows,
      (∀ j ∈ (c.after ms).world.rows, j.id ≠ i.id) →
      ∃ e d, (c.after ms).world.ledger = e :: (c.after earlier).world.ledger ∧
        e.call = .removeInstance i.id ∧
        lastEnd e.thread i.id (c.after earlier).world.ledger = some d ∧
        d.call = .destroy i.id i.region ∧ d.isOk = true := by
  refine ⟨fun id => (lives_after ho hrun id).prefix_or, ?_, ?_, ?_⟩
  · intro later earlier hms i hi j hj hij
    subst hms
    obtain ⟨own, horder⟩ := order_after ho hrun
    exact horder.sane.agree j i (.inl hj) ((grows_after ho hrun).known i (.inl hi)) hij
  · refine registry_after (I := fun b => ∀ i ∈ b.rows, i ∈ c.world.rows ∨ i.IsWhole) ho hrun
      (fun i hi => .inl hi) ?_
    intro b b' _ h hm i hi
    obtain hi | hi := hm.isWhole hi
    · exact h i hi
    · exact .inr hi
  · intro m earlier hms i hi hgone
    subst hms
    obtain ⟨hs, hm⟩ := moves_after ho hrun
    exact hm.razed hs hi hgone

/-- An admission, and then a removal up to the moment when the row is gone. -/
def oneLife : List (Move Registry) :=
  turns true [.begin true oneRemoval, .begin true oneAdmission]
    (List.replicate 4 (1, false) ++ List.replicate 18 (0, false))

theorem run_oneLife : Control.Run (May true) bare oneLife := by
  have hbegin : Control.Run (May true) bare [.begin true oneRemoval, .begin true oneAdmission] :=
    ⟨⟨trivial, .admission ..⟩, .removal _⟩
  exact run_turns hbegin (by decide +kernel)

/-- The row goes through its whole life, and the instance is destroyed in the end. -/
theorem life_cycle_oneLife :
    course bare ⟨.numbered 3⟩ oneLife = [none, some .ready, some .pending, none] ∧
    (course bare ⟨.numbered 3⟩ oneLife).reverse <+: [none, some .pending, some .ready, none] ∧
    ∃ e d : Entry, e ∈ (bare.after oneLife).world.ledger ∧
      e.call = .removeInstance ⟨.numbered 3⟩ ∧
      d.call = .destroy ⟨.numbered 3⟩ "us-east" ∧ d.isOk = true := by
  obtain ⟨hcourse, -, -, hrazed⟩ := life_cycle bare_opening run_oneLife
  have heq : course bare ⟨.numbered 3⟩ oneLife = [none, some .ready, some .pending, none] := by
    decide +kernel
  refine ⟨heq, ?_, ?_⟩
  · obtain h | h := hcourse ⟨.numbered 3⟩
    · exact h
    · rw [heq] at h
      exact absurd h (by decide)
  · have hrow : (bare.after (oneLife.drop 1)).world.rows.any
        (fun i => i.id == ⟨.numbered 3⟩ && i.region == "us-east") = true := by decide +kernel
    have hgone : (bare.after oneLife).world.rows = [] :=
      List.isEmpty_iff.mp (by decide +kernel)
    obtain ⟨i, hi, h⟩ := List.any_eq_true.mp hrow
    rw [Bool.and_eq_true, beq_iff_eq, beq_iff_eq] at h
    have hno : ∀ j ∈ (bare.after oneLife).world.rows, j.id ≠ i.id := by
      rw [hgone]
      exact nofun
    obtain ⟨e, d, hl, he, -, hd, hok⟩ := hrazed _ (oneLife.drop 1) rfl i hi hno
    rw [h.1] at he hd
    rw [h.2] at hd
    exact ⟨e, d, hl ▸ List.mem_cons_self .., he, hd, hok⟩

end Fleet

end GameFleet
