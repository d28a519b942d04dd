import GameFleet.Instance
import GameFleet.Sorting

/-!
# Rows in memory

Rows are kept in the order in which they came, each key once.

- `Rows.put`: a row comes; a row with its key gives way to it and keeps its place.
- `Rows.overlaid`: rows with others put over them.
- `Rows.oldestFirst`: the rows in the order of their age; of the same age, as they came.
-/

namespace GameFleet.Rows

variable {α κ : Type} [DecidableEq κ]

/-- The rows with one that comes. -/
def put (key : α → κ) (a : α) : List α → List α
  | [] => [a]
  | b :: rest => if key b = key a then a :: rest else b :: put key a rest

/-- The rows with others put over them, one after another. -/
def overlaid (key : α → κ) (rows written : List α) : List α :=
  written.foldl (fun rows a => put key a rows) rows

/-- The row with a key. -/
def find? (key : α → κ) (k : κ) (rows : List α) : Option α := rows.find? fun a => key a = k

/-- The rows without the one that has a key. -/
def drop (key : α → κ) (k : κ) (rows : List α) : List α := rows.filter fun a => key a ≠ k

/-- Instances in the order in which they were reserved. -/
def oldestFirst (rows : List Instance) : List Instance :=
  Sorting.sorted (fun a b => a.createdAt.le b.createdAt) rows

theorem mem_oldestFirst {i : Instance} {rows : List Instance} :
    i ∈ oldestFirst rows ↔ i ∈ rows :=
  (Sorting.sorted_perm _ rows).mem_iff

/-- The row that came is the one with its key. -/
theorem find?_put_self (key : α → κ) (a : α) (rows : List α) :
    find? key (key a) (put key a rows) = some a := by
  induction rows with
  | nil => simp [find?, put]
  | cons b rest ih =>
    rw [put]
    split
    · simp [find?]
    · rename_i hb
      simpa [find?, hb] using ih

/-- The other rows stay. -/
theorem find?_put_of_ne (key : α → κ) {a : α} {k : κ} (h : k ≠ key a) (rows : List α) :
    find? key k (put key a rows) = find? key k rows := by
  induction rows with
  | nil => simp [find?, put, Ne.symm h]
  | cons b rest ih =>
    rw [put]
    split
    · rename_i hb
      have : key b ≠ k := fun e => h (e.symm.trans hb)
      simp [find?, this, Ne.symm h]
    · by_cases hk : key b = k
      · simp [find?, hk]
      · simpa [find?, hk] using ih

/-- The row that is found is there, and has the key. -/
theorem mem_of_find? {key : α → κ} {a : α} {k : κ} {rows : List α}
    (h : find? key k rows = some a) : a ∈ rows ∧ key a = k :=
  ⟨List.mem_of_find?_eq_some h, by simpa using List.find?_some h⟩

theorem find?_isSome_iff {key : α → κ} {k : κ} {rows : List α} :
    (find? key k rows).isSome = true ↔ ∃ a ∈ rows, key a = k := by
  simp [find?]

theorem find?_eq_none_iff {key : α → κ} {k : κ} {rows : List α} :
    find? key k rows = none ↔ ∀ a ∈ rows, key a ≠ k := by
  simp [find?]

/-- Where each key stands once, the row that is found is any that has the key. -/
theorem find?_eq_some_iff {key : α → κ} {k : κ} {a : α} {rows : List α}
    (h : (rows.map key).Nodup) : find? key k rows = some a ↔ a ∈ rows ∧ key a = k := by
  refine ⟨mem_of_find?, fun ⟨ha, hk⟩ => ?_⟩
  induction rows with
  | nil => cases ha
  | cons b rest ih =>
    obtain ⟨hb, hrest⟩ := List.nodup_cons.mp h
    obtain rfl | ha := List.mem_cons.mp ha
    · simp [find?, hk]
    · have hne : key b ≠ k := fun hbk => hb (hbk.trans hk.symm ▸ List.mem_map_of_mem ha)
      simpa [find?, hne] using ih hrest ⟨ha, hk⟩ ha

/-- Where each key stands once, the order of the rows does not matter. -/
theorem find?_eq_of_perm {key : α → κ} {rows rows' : List α} (h : (rows.map key).Nodup)
    (hp : rows.Perm rows') (k : κ) : find? key k rows = find? key k rows' := by
  have h' : (rows'.map key).Nodup := (hp.map key).nodup_iff.mp h
  refine Option.ext fun a => ?_
  rw [find?_eq_some_iff h, find?_eq_some_iff h', hp.mem_iff]

/-- The rows that stay are those with other keys. -/
theorem mem_drop {key : α → κ} {a : α} {k : κ} {rows : List α} :
    a ∈ drop key k rows ↔ a ∈ rows ∧ key a ≠ k := by
  simp [drop]

/-- The row that is removed is gone. -/
theorem find?_drop_self (key : α → κ) (k : κ) (rows : List α) :
    find? key k (drop key k rows) = none :=
  find?_eq_none_iff.mpr fun _ ha => (mem_drop.mp ha).2

theorem find?_drop_of_ne {key : α → κ} {k l : κ} (h : l ≠ k) (rows : List α) :
    find? key l (drop key k rows) = find? key l rows := by
  induction rows with
  | nil => rfl
  | cons a rest ih =>
    by_cases ha : key a = k
    · have hl : key a ≠ l := fun e => h (e.symm.trans ha)
      simpa [find?, drop, ha, h.symm] using ih
    · by_cases hl : key a = l
      · simp [find?, drop, hl, h]
      · simpa [find?, drop, ha, hl] using ih

theorem mem_put_self (key : α → κ) (a : α) (rows : List α) : a ∈ put key a rows :=
  (mem_of_find? (find?_put_self key a rows)).1

/-- Of rows with one that comes, each is that one or was there. -/
theorem eq_or_mem_of_mem_put {key : α → κ} {a b : α} {rows : List α} (h : b ∈ put key a rows) :
    b = a ∨ b ∈ rows := by
  induction rows with
  | nil => exact .inl (List.mem_singleton.mp h)
  | cons c rest ih =>
    rw [put] at h
    split at h
    · rcases List.mem_cons.mp h with h | h
      · exact .inl h
      · exact .inr (List.mem_cons_of_mem _ h)
    · rcases List.mem_cons.mp h with h | h
      · exact .inr (h ▸ List.mem_cons_self ..)
      · exact (ih h).imp_right (List.mem_cons_of_mem _)

/-- A row with another key stays. -/
theorem mem_put_of_ne {key : α → κ} {a b : α} {rows : List α} (h : b ∈ rows)
    (hne : key b ≠ key a) : b ∈ put key a rows := by
  induction rows with
  | nil => cases h
  | cons c rest ih =>
    rw [put]
    split
    · rename_i hc
      rcases List.mem_cons.mp h with rfl | h
      · exact absurd hc hne
      · exact List.mem_cons_of_mem _ h
    · rcases List.mem_cons.mp h with rfl | h
      · exact List.mem_cons_self ..
      · exact List.mem_cons_of_mem _ (ih h)

/-- The keys after a row has come. -/
theorem map_put (key : α → κ) (a : α) (rows : List α) :
    (put key a rows).map key =
      if key a ∈ rows.map key then rows.map key else rows.map key ++ [key a] := by
  induction rows with
  | nil => rfl
  | cons b rest ih =>
    rw [put]
    split
    · rename_i hb
      simp [hb]
    · rename_i hb
      have hne : key a ≠ key b := fun h => hb h.symm
      rw [List.map_cons, ih]
      by_cases hm : key a ∈ rest.map key
      · rw [if_pos hm, List.map_cons, if_pos (List.mem_cons_of_mem _ hm)]
      · have hm' : key a ∉ key b :: rest.map key := fun h =>
          (List.mem_cons.mp h).elim hne hm
        rw [if_neg hm, List.map_cons, if_neg hm']
        rfl

/-- Each key stays there once when a row comes. -/
theorem nodup_put {key : α → κ} {a : α} {rows : List α} (h : (rows.map key).Nodup) :
    ((put key a rows).map key).Nodup := by
  rw [map_put]
  split
  · exact h
  · rename_i hm
    rw [List.nodup_append]
    refine ⟨h, List.nodup_cons.mpr ⟨List.not_mem_nil, .nil⟩, fun x hx y hy => ?_⟩
    rw [List.mem_singleton.mp hy]
    exact fun hxy => hm (hxy ▸ hx)

theorem nodup_drop {key : α → κ} {k : κ} {rows : List α} (h : (rows.map key).Nodup) :
    ((drop key k rows).map key).Nodup :=
  h.sublist (List.filter_sublist.map key)

end GameFleet.Rows
