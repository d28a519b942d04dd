/-!
# Tables by name

A table is a list of named entries in the order of their names, each name once.

- `Table.put`: a table with an entry set.
- `Table.ofList`: the table of a list of entries; of two with one name the later stands.
- `Table.Ordered`: what makes a list a table; `Table.Ordered.ext`: what is found in it is all there
  is to it.
-/

namespace GameFleet.Table

variable {α : Type} {e : String × α} {table table' : List (String × α)}

/-- The table with an entry at the place of its name; an entry with that name gives way. -/
def put (name : String) (value : α) : List (String × α) → List (String × α)
  | [] => [(name, value)]
  | (n, v) :: rest =>
    if name < n then (name, value) :: (n, v) :: rest
    else if name = n then (name, value) :: rest
    else (n, v) :: put name value rest

/-- The table of some entries. -/
def ofList (entries : List (String × α)) : List (String × α) :=
  entries.foldl (fun table (n, v) => put n v table) []

/-- The entry that was set is the one that is found. -/
theorem lookup_put_self (name : String) (value : α) (table : List (String × α)) :
    (put name value table).lookup name = some value := by
  induction table with
  | nil => simp [put]
  | cons e rest ih =>
    obtain ⟨n, v⟩ := e
    rw [put]
    split
    · simp
    · split
      · simp
      · rename_i hne
        have : (name == n) = false := by simpa using hne
        simp [List.lookup_cons, this, ih]

/-- Setting one entry leaves the others. -/
theorem lookup_put_of_ne {name other : String} (value : α) (table : List (String × α))
    (h : other ≠ name) : (put name value table).lookup other = table.lookup other := by
  have hf : (other == name) = false := by simpa using h
  induction table with
  | nil => simp [put, List.lookup_cons, hf]
  | cons e rest ih =>
    obtain ⟨n, v⟩ := e
    rw [put]
    split
    · simp [List.lookup_cons, hf]
    · split
      · rename_i hn
        subst hn
        simp [List.lookup_cons, hf]
      · simp only [List.lookup_cons, ih]

/-- In the table of some entries the last of a name is found. -/
theorem lookup_ofList (name : String) (entries : List (String × α)) :
    (ofList entries).lookup name = entries.reverse.lookup name := by
  have hfold (table : List (String × α)) :
      (entries.foldl (fun table (n, v) => put n v table) table).lookup name =
        (entries.reverse.lookup name).or (table.lookup name) := by
    induction entries generalizing table with
    | nil => rfl
    | cons first rest ih =>
      obtain ⟨n, v⟩ := first
      rw [List.foldl_cons, ih, List.reverse_cons, List.lookup_append, Option.or_assoc]
      congr 1
      by_cases hn : name = n
      · subst hn
        rw [lookup_put_self, List.lookup_cons_self, Option.some_or]
      · have hf : (name == n) = false := by simpa using hn
        rw [lookup_put_of_ne v table hn]
        simp [List.lookup_cons, hf]
  exact (hfold []).trans Option.or_none

/-- An entry of a table in which one was set is that one or was there. -/
theorem mem_put {name : String} {value : α} {table : List (String × α)}
    (h : e ∈ put name value table) : e = (name, value) ∨ e ∈ table := by
  induction table with
  | nil => exact .inl (List.mem_singleton.mp h)
  | cons first rest ih =>
    obtain ⟨n, v⟩ := first
    rw [put] at h
    split at h
    · exact List.mem_cons.mp h
    · split at h
      · rcases List.mem_cons.mp h with h | h
        · exact .inl h
        · exact .inr (List.mem_cons_of_mem _ h)
      · rcases List.mem_cons.mp h with rfl | h
        · exact .inr List.mem_cons_self
        · exact (ih h).imp_right (List.mem_cons_of_mem _)

/-- The entries of a table are among those that it was made of. -/
theorem mem_of_mem_ofList {entries : List (String × α)} (h : e ∈ ofList entries) :
    e ∈ entries := by
  have hfold (table : List (String × α))
      (he : e ∈ entries.foldl (fun table (n, v) => put n v table) table) :
      e ∈ entries ∨ e ∈ table := by
    clear h
    induction entries generalizing table with
    | nil => exact .inr he
    | cons first rest ih =>
      rcases ih _ he with he | he
      · exact .inl (List.mem_cons_of_mem _ he)
      rcases mem_put he with rfl | he
      · exact .inl List.mem_cons_self
      · exact .inr he
  exact (hfold [] h).resolve_right List.not_mem_nil

/-- Setting an entry with a new name adds it, and leaves all others. -/
theorem perm_put {name : String} (value : α) {table : List (String × α)}
    (h : name ∉ table.map Prod.fst) : (put name value table).Perm ((name, value) :: table) := by
  induction table with
  | nil => exact .refl _
  | cons first rest ih =>
    obtain ⟨n, v⟩ := first
    obtain ⟨hn, hrest⟩ := not_or.mp (mt List.mem_cons.mpr h)
    rw [put]
    split
    · exact .refl _
    · exact ((ih hrest).cons _).trans (.swap _ _ _)

/-- Entries of different names are all kept. -/
theorem perm_ofList {entries : List (String × α)} (h : (entries.map Prod.fst).Nodup) :
    (ofList entries).Perm entries := by
  have hfold (table : List (String × α)) (h : ((entries ++ table).map Prod.fst).Nodup) :
      (entries.foldl (fun table (n, v) => put n v table) table).Perm (entries ++ table) := by
    induction entries generalizing table with
    | nil => exact .refl _
    | cons first rest ih =>
      obtain ⟨n, v⟩ := first
      have hnew : n ∉ table.map Prod.fst := by
        rw [List.cons_append, List.map_cons, List.nodup_cons, List.map_append] at h
        exact fun hn => h.1 (List.mem_append_right _ hn)
      have hput : (rest ++ put n v table).Perm ((n, v) :: rest ++ table) :=
        ((perm_put v hnew).append_left rest).trans List.perm_middle
      have hrest : (rest.map Prod.fst).Nodup := by
        rw [List.cons_append, List.map_cons, List.nodup_cons, List.map_append] at h
        exact (List.nodup_append.mp h.2).1
      exact (ih hrest _ ((hput.map Prod.fst).nodup_iff.mpr h)).trans hput
  have := hfold [] (by rwa [List.append_nil])
  rwa [List.append_nil] at this

/-- The names go up: they are in order, and each is there once. -/
def Ordered (table : List (String × α)) : Prop := table.Pairwise (·.1 < ·.1)

/-- Setting an entry keeps the order. -/
theorem Ordered.put (h : Ordered table) (name : String) (value : α) :
    Ordered (put name value table) := by
  induction table with
  | nil => exact List.pairwise_singleton _ _
  | cons first rest ih =>
    obtain ⟨n, v⟩ := first
    obtain ⟨hfirst, hrest⟩ := List.pairwise_cons.mp h
    rw [Table.put]
    split
    · rename_i hlt
      refine List.pairwise_cons.mpr ⟨fun e he => ?_, h⟩
      rcases List.mem_cons.mp he with rfl | he
      · exact hlt
      · exact String.lt_trans hlt (hfirst e he)
    · rename_i hnot
      split
      · rename_i hname
        exact List.pairwise_cons.mpr ⟨hname ▸ hfirst, hrest⟩
      · -- The entry belongs behind the first, whose name is below all that come to stand there.
        rename_i hne
        refine List.pairwise_cons.mpr ⟨fun e he => ?_, ih hrest⟩
        rcases mem_put he with rfl | he
        · exact Std.lt_of_le_of_ne (String.not_lt.mp hnot) (Ne.symm hne)
        · exact hfirst e he

/-- A table of entries is in order. -/
theorem ordered_ofList (entries : List (String × α)) : Ordered (ofList entries) :=
  List.foldlRecOn entries _ List.Pairwise.nil fun _ h e _ => h.put e.1 e.2

theorem Ordered.nodup (h : Ordered table) : table.Nodup := by
  refine List.Pairwise.imp (fun {a b} hlt => ?_) h
  rintro rfl
  exact String.lt_irrefl _ hlt

/-- An entry of a table is found by its name. -/
theorem Ordered.mem_iff (h : Ordered table) :
    e ∈ table ↔ table.lookup e.1 = some e.2 := by
  rw [List.lookup_eq_some_iff]
  constructor
  · intro he
    -- The names before it are below its name, so none of them is found in its place.
    obtain ⟨before, after, rfl⟩ := List.append_of_mem he
    refine ⟨before, after, rfl, fun p hp => ?_⟩
    have hlt : p.1 < e.1 := (List.pairwise_append.mp h).2.2 p hp e List.mem_cons_self
    simpa using fun heq : e.1 = p.1 => String.lt_irrefl _ (heq ▸ hlt)
  · rintro ⟨before, after, rfl, -⟩
    exact List.mem_append_right before List.mem_cons_self

/-- Tables in which the same is found are the same. -/
theorem Ordered.ext (h : Ordered table) (h' : Ordered table')
    (hlookup : ∀ name, table.lookup name = table'.lookup name) : table = table' := by
  have hperm : table.Perm table' :=
    (List.perm_ext_iff_of_nodup h.nodup h'.nodup).mpr fun e => by
      rw [h.mem_iff, h'.mem_iff, hlookup]
  exact hperm.eq_of_pairwise (fun a b _ _ hab hba => absurd hba (String.lt_asymm hab)) h h'

/-- What is found in a list depends on the entries of the name alone. -/
theorem lookup_filter (name : String) (entries : List (String × α)) :
    (entries.filter (·.1 == name)).lookup name = entries.lookup name := by
  induction entries with
  | nil => rfl
  | cons e rest ih =>
    obtain ⟨n, v⟩ := e
    by_cases hn : n = name
    · simp [hn]
    · have hf : (name == n) = false := by simpa using Ne.symm hn
      simp [List.lookup_cons, hn, hf, ih]

/-- The table of some entries depends on those of each name alone. -/
theorem ofList_eq_of_filter {entries entries' : List (String × α)}
    (h : ∀ name, entries.filter (·.1 == name) = entries'.filter (·.1 == name)) :
    ofList entries = ofList entries' := by
  refine (ordered_ofList _).ext (ordered_ofList _) fun name => ?_
  rw [lookup_ofList, lookup_ofList, ← lookup_filter name, ← lookup_filter name entries'.reverse,
    List.filter_reverse, List.filter_reverse, h]

end GameFleet.Table
