import GameFleet.Proofs.Json.Written
import GameFleet.Instance.Json

/-!
# Reading records back

A record is written as an object with all its fields, and the members of an object may stand in any
order. Whoever reads it finds each field by its name.

- `Value.Reordered`: values that are the same but for the order of members, at any depth.
- `Decoder.Reads`: a decoder finds something in a value, however its members are ordered;
  `Decoder.Reads.decode?`: and then in its text.
- `Shape.Reads`: a record finds the values of its fields among some members; `Shape.Reads.map`,
  `Shape.Reads.seq` and others: field by field; `Shape.Reads.decode`: and then in their object.
- `Decoder.Yields`, `Shape.Yields`: what holds of whatever is read.
-/

namespace GameFleet.Json

/-! ## The order of members -/

namespace Value

mutual
/-- Values that are the same but for the order of the members of objects. -/
inductive Reordered : Value → Value → Prop where
  | same (v : Value) : Reordered v v
  | array {vs ws : List Value} (h : ItemsReordered vs ws) : Reordered (.array vs) (.array ws)
  | object {ms ns os : List (String × Value)} (h : MembersReordered ms ns) (hperm : ns.Perm os) :
    Reordered (.object ms) (.object os)

/-- Items that are the same but for the order of members. -/
inductive ItemsReordered : List Value → List Value → Prop where
  | nil : ItemsReordered [] []
  | cons {v w : Value} {vs ws : List Value} (h : Reordered v w) (hs : ItemsReordered vs ws) :
    ItemsReordered (v :: vs) (w :: ws)

/-- Members with the same names whose values are the same but for the order of members. -/
inductive MembersReordered : List (String × Value) → List (String × Value) → Prop where
  | nil : MembersReordered [] []
  | cons {n : String} {v w : Value} {ms ns : List (String × Value)} (h : Reordered v w)
    (hs : MembersReordered ms ns) : MembersReordered ((n, v) :: ms) ((n, w) :: ns)
end

theorem MembersReordered.refl (ms : List (String × Value)) : MembersReordered ms ms := by
  induction ms with
  | nil => exact .nil
  | cons m ms ih => exact .cons (.same m.2) ih

theorem MembersReordered.names {ms ns : List (String × Value)} (h : MembersReordered ms ns) :
    ns.map Prod.fst = ms.map Prod.fst := by
  induction ms generalizing ns with
  | nil =>
    cases h
    rfl
  | cons m ms ih =>
    cases h with
    | cons _ hs => exact congrArg (_ :: ·) (ih hs)

theorem MembersReordered.mem {ms ns : List (String × Value)} {n : String} {v : Value}
    (h : MembersReordered ms ns) (hv : (n, v) ∈ ms) : ∃ w, v.Reordered w ∧ (n, w) ∈ ns := by
  induction ms generalizing ns with
  | nil => cases hv
  | cons m ms ih =>
    cases h with
    | cons h hs =>
      obtain heq | hv := List.mem_cons.mp hv
      · cases heq
        exact ⟨_, h, List.mem_cons_self⟩
      · obtain ⟨w, hw, hmem⟩ := ih hs hv
        exact ⟨w, hw, List.mem_cons_of_mem _ hmem⟩

/-- An object has the same members in another order. -/
theorem Reordered.of_object {ms : List (String × Value)} {u : Value}
    (h : Reordered (.object ms) u) :
    ∃ ns os, u = .object os ∧ MembersReordered ms ns ∧ ns.Perm os := by
  cases h with
  | same => exact ⟨ms, ms, rfl, .refl ms, .refl ms⟩
  | object h hperm => exact ⟨_, _, rfl, h, hperm⟩

theorem membersIntegral_iff {ms : List (String × Value)} :
    MembersIntegral ms ↔ ∀ m ∈ ms, m.2.IsIntegral := by
  induction ms with
  | nil => simp [MembersIntegral]
  | cons m ms ih =>
    obtain ⟨n, v⟩ := m
    rw [MembersIntegral, ih, List.forall_mem_cons]

mutual
/-- Numbers stay whole in another order. -/
theorem Reordered.isIntegral {v w : Value} : Reordered v w → v.IsIntegral → w.IsIntegral
  | .same _, hv => hv
  | .array h, hv => ItemsReordered.areIntegral h hv
  | .object h hperm, hv => membersIntegral_iff.mpr fun m hm =>
    membersIntegral_iff.mp (MembersReordered.membersIntegral h hv) m (hperm.mem_iff.mpr hm)

theorem ItemsReordered.areIntegral {vs ws : List Value} :
    ItemsReordered vs ws → AreIntegral vs → AreIntegral ws
  | .nil, _ => trivial
  | .cons h hs, hv => ⟨Reordered.isIntegral h hv.1, ItemsReordered.areIntegral hs hv.2⟩

theorem MembersReordered.membersIntegral {ms ns : List (String × Value)} :
    MembersReordered ms ns → MembersIntegral ms → MembersIntegral ns
  | .nil, _ => trivial
  | .cons h hs, hv => ⟨Reordered.isIntegral h hv.1, MembersReordered.membersIntegral hs hv.2⟩
end

/-- The numbers of a record are whole when those of its members are. -/
theorem isIntegral_record {ms : List (String × Value)} (h : ∀ m ∈ ms, m.2.IsIntegral) :
    (record ms).IsIntegral :=
  membersIntegral_iff.mpr fun m hm => h m (Table.mem_of_mem_ofList hm)

theorem isIntegral_opt {α : Type} {f : α → Value} (h : ∀ a, (f a).IsIntegral) (o : Option α) :
    (opt f o).IsIntegral := by
  cases o with
  | none => trivial
  | some a => exact h a

theorem isIntegral_text? (o : Option String) : (text? o).IsIntegral := by
  cases o <;> trivial

end Value

/-! ## What is found in trees -/

namespace Tree

open Value

mutual
/-- Nothing is broken in the tree of a value. -/
theorem isWhole_ofValue : (v : Value) → (ofValue v).isWhole = true
  | .null => rfl
  | .bool _ => rfl
  | .number _ => rfl
  | .string _ => rfl
  | .array items => areWhole_ofItems items
  | .object members => areWholeMembers_ofMembers members

theorem areWhole_ofItems : (vs : List Value) → areWhole (ofItems vs) = true
  | [] => rfl
  | v :: vs => by rw [ofItems, areWhole, isWhole_ofValue v, areWhole_ofItems vs, Bool.and_self]

theorem areWholeMembers_ofMembers :
    (ms : List (String × Value)) → areWholeMembers (ofMembers ms) = true
  | [] => rfl
  | (n, v) :: ms => by
    rw [ofMembers, areWholeMembers, isWhole_ofValue v, areWholeMembers_ofMembers ms,
      Bool.and_self]
end

/-- The tree of a member is found by its name. -/
theorem lookup_ofMembers {ms : List (String × Value)} (hnodup : (ms.map Prod.fst).Nodup)
    {n : String} {v : Value} (h : (n, v) ∈ ms) :
    (ofMembers ms).lookup (some n) = some (ofValue v) := by
  induction ms with
  | nil => cases h
  | cons m ms ih =>
    obtain ⟨n', v'⟩ := m
    obtain ⟨hnew, hrest⟩ := List.nodup_cons.mp hnodup
    rw [ofMembers, List.lookup_cons]
    obtain heq | hmem := List.mem_cons.mp h
    · cases heq
      simp
    · have hne : (n == n') = false := by
        refine beq_eq_false_iff_ne.mpr ?_
        rintro rfl
        exact hnew (List.mem_map.mpr ⟨_, hmem, rfl⟩)
      simp [hne, ih hrest hmem]

end Tree

/-! ## Decoders -/

namespace Decoder

variable {α β : Type} {d : Decoder α} {a : α} {v u : Value}

/-- A decoder finds something in a value, however the members in it are ordered. -/
def Reads (d : Decoder α) (v : Value) (a : α) : Prop :=
  ∀ u, v.Reordered u → d (.ofValue u) = .ok a

namespace Reads

/-- What is found in a value is found in its text. -/
theorem decode? (h : d.Reads v a) (hv : v.IsIntegral) (hu : v.Reordered u) :
    Json.decode? d u.text = some a := by
  unfold Json.decode? Value.text
  rw [String.toList_ofList, Tree.read_chars (hu.isIntegral hv)]
  simp only [h u hu]
  rfl

theorem map (f : α → β) (h : d.Reads v a) : Decoder.Reads (fun t => f <$> d t) v (f a) := by
  intro u hu
  show f <$> d (.ofValue u) = .ok (f a)
  rw [h u hu]
  rfl

theorem string (s : String) : Decoder.string.Reads (.string s) s := by
  intro u hu
  cases hu
  rfl

theorem natural {bound n : Nat} (h : n ≤ bound) (hbound : bound ≤ Text.maxWord64) :
    (Decoder.natural bound).Reads (.nat n) n := by
  intro u hu
  cases hu
  show Decoder.natural bound (.number (Numeral.ofNumber (.whole n))) = .ok n
  rw [Numeral.ofNumber_whole, Decoder.natural, Numeral.value?_ofNat (Nat.le_trans h hbound)]
  exact if_pos h

theorem parsed {read : String → Option α} {s : String} (h : read s = some a) :
    (Decoder.parsed read).Reads (.string s) a := by
  intro u hu
  have hs := string s u hu
  unfold Decoder.parsed
  rw [hs]
  simp only [bind, Except.bind, h]

theorem choice {read : String → Option α} {s : String} (h : read s = some a) :
    (Decoder.choice read).Reads (.string s) a := by
  intro u hu
  cases hu
  exact parsed h _ (.same _)

theorem null : d.optional.Reads .null none := by
  intro u hu
  cases hu
  rfl

/-- Only null stands for nothing. -/
theorem given (h : d.Reads v a) (hv : v ≠ .null) : d.optional.Reads v (some a) := by
  intro u hu
  have hsome : some <$> d (.ofValue u) = .ok (some a) := by
    rw [h u hu]
    rfl
  cases u with
  | null =>
    cases hu
    exact absurd rfl hv
  | _ => exact hsome

theorem opt {f : α → Value} (o : Option α) (h : ∀ a, o = some a → d.Reads (f a) a)
    (hf : ∀ a, f a ≠ .null) : d.optional.Reads (.opt f o) o := by
  cases o with
  | none => exact .null
  | some a => exact (h a rfl).given (hf a)

theorem text? (o : Option String) : Decoder.string.optional.Reads (.text? o) o := by
  cases o with
  | none => exact .null
  | some s => exact (string s).given nofun

end Reads

end Decoder

/-! ## Shapes -/

namespace Shape

variable {α β : Type} {s : Shape α} {ms : List (String × Value)} {a : α} {n : String} {v : Value}

/-- A record finds the values of its fields where some members are found by their names, however
the members in their values are ordered; and nothing is wrong with them. -/
def Reads (s : Shape α) (ms : List (String × Value)) (a : α) : Prop :=
  ∀ find : String → Option Tree,
    (∀ n v, (n, v) ∈ ms → ∃ w, v.Reordered w ∧ find n = some (.ofValue w)) →
    (∀ n check t, (n, check) ∈ s.checks → find n = some t → check t = none) ∧
    s.build (fun n => match find n with
      | some t => .given t
      | none => .missing) = .ok a

namespace Reads

/-- A single field. -/
theorem field {d : Decoder α} {build : (String → Slot) → Except Fault α} (hmem : (n, v) ∈ ms)
    (h : d.Reads v a) (hbuild : ∀ slots t, slots n = .given t → build slots = d t) :
    Shape.Reads ⟨[(n, fault? d)], build⟩ ms a := by
  intro find hfind
  obtain ⟨w, hw, hn⟩ := hfind n v hmem
  have hd := h w hw
  refine ⟨?_, ?_⟩
  · intro n' check t hcheck ht
    cases List.mem_singleton.mp hcheck
    rw [hn] at ht
    cases ht
    unfold fault?
    rw [hd]
  · show build _ = _
    rw [hbuild _ (.ofValue w) (by simp only [hn]), hd]

theorem required {d : Decoder α} (hmem : (n, v) ∈ ms) (h : d.Reads v a) :
    (Shape.required n d).Reads ms a :=
  field hmem h fun slots t ht => by simp only [ht]

theorem optional {d : Decoder α} {o : Option α} (hmem : (n, v) ∈ ms) (h : d.optional.Reads v o) :
    (Shape.optional n d).Reads ms o :=
  field hmem h fun slots t ht => by simp only [ht]

theorem defaulted {d : Decoder α} {o : Option α} (hmem : (n, v) ∈ ms)
    (h : d.optional.Reads v o) : (Shape.defaulted n d).Reads ms o :=
  field hmem h fun slots t ht => by simp only [ht]

theorem map (f : α → β) (h : s.Reads ms a) : (f <$> s).Reads ms (f a) := by
  intro find hfind
  obtain ⟨hchecks, hbuild⟩ := h find hfind
  refine ⟨hchecks, ?_⟩
  show f <$> s.build _ = _
  rw [hbuild]
  rfl

theorem seq {f : Shape (α → β)} {g : α → β} (hf : f.Reads ms g) (h : s.Reads ms a) :
    (f <*> s).Reads ms (g a) := by
  intro find hfind
  obtain ⟨hchecks, hbuild⟩ := h find hfind
  obtain ⟨hchecks', hbuild'⟩ := hf find hfind
  refine ⟨?_, ?_⟩
  · intro n check t hcheck ht
    obtain hcheck | hcheck := List.mem_append.mp hcheck
    · exact hchecks' n check t hcheck ht
    · exact hchecks n check t hcheck ht
  · show (do
      let g ← f.build _
      let a ← s.build _
      return g a) = _
    rw [hbuild', hbuild]
    rfl

end Reads

/-- There is no fault among members that fit. -/
theorem memberFault?_ofMembers {checks : List (String × (Tree → Option Fault))}
    (hnodup : (ms.map Prod.fst).Nodup)
    (h : ∀ n v check, (n, v) ∈ ms → (n, check) ∈ checks → check (.ofValue v) = none)
    {seen : List String} (hseen : ∀ m ∈ ms, m.1 ∉ seen) :
    memberFault? checks seen (Tree.ofMembers ms) = none := by
  induction ms generalizing seen with
  | nil => rfl
  | cons m ms ih =>
    obtain ⟨n, v⟩ := m
    obtain ⟨hnew, hrest⟩ := List.nodup_cons.mp hnodup
    obtain ⟨hn, hseen⟩ := List.forall_mem_cons.mp hseen
    have ih : ∀ {seen : List String}, (∀ m ∈ ms, m.1 ∉ seen) →
        memberFault? checks seen (Tree.ofMembers ms) = none :=
      ih hrest fun n v check hv => h n v check (.tail _ hv)
    rw [Tree.ofMembers, memberFault?]
    cases hcheck : checks.lookup n with
    | none =>
      dsimp only
      rw [Tree.isWhole_ofValue, if_pos rfl]
      exact ih hseen
    | some check =>
      dsimp only
      have hmem : (n, check) ∈ checks := by
        obtain ⟨front, back, rfl, -⟩ := List.lookup_eq_some_iff.mp hcheck
        exact List.mem_append_right _ List.mem_cons_self
      rw [if_neg (by simpa using hn), h n v check List.mem_cons_self hmem]
      refine ih fun m hm => ?_
      rw [List.mem_cons, not_or]
      refine ⟨?_, hseen m hm⟩
      rintro rfl
      exact hnew (List.mem_map.mpr ⟨m, hm, rfl⟩)

/-- A record is found in an object with its members. -/
theorem Reads.decode (hnodup : (ms.map Prod.fst).Nodup) (h : s.Reads ms a) :
    Decoder.Reads s.decode (.record ms) a := by
  intro u hu
  obtain ⟨ns, os, rfl, hns, hperm⟩ := Value.Reordered.of_object hu
  have htable := Table.perm_ofList hnodup
  have hos : (os.map Prod.fst).Nodup := by
    refine (hperm.map Prod.fst).nodup_iff.mp ?_
    rw [hns.names]
    exact (htable.map Prod.fst).nodup_iff.mpr hnodup
  obtain ⟨hchecks, hbuild⟩ := h (fun n => (Tree.ofMembers os).lookup (some n)) fun n v hv => by
    obtain ⟨w, hw, hmem⟩ := hns.mem (htable.mem_iff.mpr hv)
    exact ⟨w, hw, Tree.lookup_ofMembers hos (hperm.mem_iff.mp hmem)⟩
  have hfault : memberFault? s.checks [] (Tree.ofMembers os) = none :=
    memberFault?_ofMembers hos (fun n v check hv hcheck =>
      hchecks n check _ hcheck (Tree.lookup_ofMembers hos hv)) fun _ _ => List.not_mem_nil
  show s.decode (.object (Tree.ofMembers os)) = .ok a
  rw [Shape.decode, hfault]
  exact hbuild

end Shape

/-! ## Whatever is read -/

/-- What holds of whatever a decoder finds. -/
def Decoder.Yields {α : Type} (d : Decoder α) (P : α → Prop) : Prop := ∀ t a, d t = .ok a → P a

/-- What holds of whatever a record finds. -/
def Shape.Yields {α : Type} (s : Shape α) (P : α → Prop) : Prop :=
  ∀ slots a, s.build slots = .ok a → P a

variable {α β : Type} {P : α → Prop} {Q : β → Prop}

theorem Decoder.Yields.of_decode? {d : Decoder α} (h : d.Yields P) {text : String} {a : α}
    (ha : Json.decode? d text = some a) : P a := by
  unfold Json.decode? at ha
  dsimp only at ha
  split at ha
  · rename_i b hb
    split at ha <;> cases ha
    exact h _ _ hb
  · cases ha

theorem Decoder.natural_yields (bound : Nat) : (Decoder.natural bound).Yields (· ≤ bound) := by
  intro t n h
  unfold Decoder.natural at h
  split at h
  · split at h
    · split at h <;> cases h
      assumption
    · cases h
  · cases h

theorem Decoder.Yields.optional {d : Decoder α} (h : d.Yields P) :
    d.optional.Yields fun o => ∀ a, o = some a → P a := by
  intro t o ho a ha
  subst ha
  unfold Decoder.optional at ho
  split at ho
  · cases ho
  · cases hd : d t with
    | error f =>
      rw [hd] at ho
      cases ho
    | ok b =>
      rw [hd] at ho
      cases ho
      exact h t a hd

namespace Shape.Yields

variable {s : Shape α} {name : String}

theorem any : s.Yields fun _ => True := fun _ _ _ => trivial

theorem required {d : Decoder α} (h : d.Yields P) : (Shape.required name d).Yields P := by
  intro slots a ha
  unfold Shape.required at ha
  dsimp only at ha
  split at ha
  · exact h _ _ ha
  · cases ha

theorem optional {d : Decoder α} (h : d.Yields P) :
    (Shape.optional name d).Yields fun o => ∀ a, o = some a → P a := by
  intro slots o ho
  unfold Shape.optional at ho
  dsimp only at ho
  split at ho
  · exact h.optional _ _ ho
  · cases ho
    exact nofun
  · cases ho

theorem map {f : α → β} (h : s.Yields P) (hf : ∀ a, P a → Q (f a)) : (f <$> s).Yields Q := by
  intro slots b hb
  change f <$> s.build slots = .ok b at hb
  cases ha : s.build slots with
  | error e =>
    rw [ha] at hb
    cases hb
  | ok a =>
    rw [ha] at hb
    cases hb
    exact hf a (h slots a ha)

theorem seq {f : Shape (α → β)} (hf : f.Yields fun g => ∀ a, P a → Q (g a)) (h : s.Yields P) :
    (f <*> s).Yields Q := by
  intro slots b hb
  change (do
    let g ← f.build slots
    let a ← s.build slots
    return g a) = .ok b at hb
  cases hg : f.build slots with
  | error e =>
    rw [hg] at hb
    cases hb
  | ok g =>
    cases ha : s.build slots with
    | error e =>
      rw [hg, ha] at hb
      cases hb
    | ok a =>
      rw [hg, ha] at hb
      cases hb
      exact hf slots g hg a (h slots a ha)

/-- The first field does not matter. -/
theorem mapAny {f : α → β} (hf : ∀ a, Q (f a)) : (f <$> s).Yields Q := map any fun a _ => hf a

/-- The last field does not matter. -/
theorem seqAny {f : Shape (α → β)} (hf : f.Yields fun g => ∀ a, Q (g a)) : (f <*> s).Yields Q :=
  seq (fun slots g hg a _ => hf slots g hg a) any

/-- What holds of the record holds in an object and in an array. -/
theorem decode (h : s.Yields P) : Decoder.Yields s.decode P := by
  intro t a ha
  unfold Shape.decode at ha
  split at ha
  · split at ha
    · cases ha
    · exact h _ _ ha
  · split at ha
    · cases ha
    · exact h _ _ ha
  · cases ha

end Shape.Yields

end GameFleet.Json
