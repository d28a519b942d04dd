import GameFleet.Proofs.Settings.Sound

/-!
# Thresholds from a list (specification §8, configuration)

The thresholds of the variants are listed in one variable, as free text: entries between commas,
each with a name, an equals sign and minutes. Of the entries for a variant the last stands, and
those that cannot be read might as well not be there.

- `ThresholdEntry`: an entry; `ThresholdEntry.WellFormed` and `ThresholdEntry.Gives`: whether it can
  be read, and how many minutes it gives to which variant.
- `listing`: an environment in which some entries are listed, and `ofEnvironment_listing`.
- `forVariant_of_last`, `forVariant_of_none`: the threshold of a variant.
- `ofEnvironment_listing_congr`: the settings depend on the entries for each variant alone;
  `ofEnvironment_listing_perm`: entries for different variants may stand in any order.
- `thresholds_listed`: the theorem.
-/

namespace GameFleet.FleetSettings

/-! ### Entries -/

/-- An entry of a list of thresholds: any text without the comma that would end it. -/
structure ThresholdEntry where
  text : String
  comma_not_mem : ',' ∉ text.toList

namespace ThresholdEntry

variable {e : ThresholdEntry} {variant : String} {minutes : Nat}

/-- An entry can be read: before its first equals sign there is more than blanks, and behind it,
blanks aside, a whole number of 64 bits. -/
def WellFormed (e : ThresholdEntry) : Prop :=
  ∃ name number, e.text.toList = name ++ '=' :: number ∧ '=' ∉ name ∧
    Text.trim name ≠ [] ∧ (Text.natural? Text.maxWord64 (Text.trim number)).isSome

/-- An entry can be read, and gives so many minutes to a variant. -/
def Gives (e : ThresholdEntry) (variant : String) (minutes : Nat) : Prop :=
  ∃ name number, e.text.toList = name ++ '=' :: number ∧ '=' ∉ name ∧
    Text.trim name ≠ [] ∧ String.ofList (Text.trim name) = variant ∧
    Text.natural? Text.maxWord64 (Text.trim number) = some minutes

/-- An entry can be read, and is for a variant. -/
def IsFor (e : ThresholdEntry) (variant : String) : Prop := ∃ minutes, e.Gives variant minutes

/-- Two entries are not for one variant. -/
def Apart (e e' : ThresholdEntry) : Prop := ∀ variant, ¬ (e.IsFor variant ∧ e'.IsFor variant)

/-- The entries that can be read are those for some variant. -/
theorem wellFormed_iff : e.WellFormed ↔ ∃ variant, e.IsFor variant := by
  constructor
  · rintro ⟨name, number, htext, hname, hne, hnumber⟩
    obtain ⟨minutes, hminutes⟩ := Option.isSome_iff_exists.mp hnumber
    exact ⟨_, minutes, name, number, htext, hname, hne, rfl, hminutes⟩
  · rintro ⟨variant, minutes, name, number, htext, hname, hne, -, hminutes⟩
    exact ⟨name, number, htext, hname, hne, Option.isSome_iff_exists.mpr ⟨minutes, hminutes⟩⟩

/-- What an entry gives is what stands in it. -/
theorem gives_iff :
    e.Gives variant minutes ↔ namedMinutes? e.text.toList = some (variant, minutes) := by
  unfold namedMinutes?
  constructor
  · rintro ⟨name, number, htext, hname, hne, rfl, hminutes⟩
    rw [htext, Text.splitOnce_append _ hname]
    simp [hminutes, hne]
  · intro h
    obtain ⟨⟨name, number⟩, hsplit, h⟩ := Option.bind_eq_some_iff.mp h
    obtain ⟨n, hn, h⟩ := Option.bind_eq_some_iff.mp h
    dsimp only at h
    split at h
    · cases h
    · rename_i hne
      cases h
      exact ⟨name, number, Text.eq_of_splitOnce hsplit, Text.not_mem_of_splitOnce hsplit,
        by simpa using hne, rfl, hn⟩

/-- The threshold that is read from an entry. -/
def read? (e : ThresholdEntry) : Option (String × Span) := variantEntry? e.text.toList

/-- The threshold is the minutes that an entry gives, moved between one and those of a day. -/
theorem read?_of_gives (h : e.Gives variant minutes) :
    e.read? = some (variant, .ofMinutes (clamp 1 dayMinutes minutes)) := by
  rw [read?, variantEntry_eq, gives_iff.mp h, Option.map_some]

/-- The variant of an entry is the one whose threshold is read from it. -/
theorem isFor_iff : e.IsFor variant ↔ e.read?.map Prod.fst = some variant := by
  rw [read?, variantEntry_eq, Option.map_map]
  constructor
  · rintro ⟨minutes, h⟩
    rw [gives_iff.mp h]
    rfl
  · intro h
    obtain ⟨⟨name, minutes⟩, hread, rfl⟩ := Option.map_eq_some_iff.mp h
    exact ⟨minutes, gives_iff.mpr hread⟩

instance : Decidable (e.Gives variant minutes) := decidable_of_iff _ gives_iff.symm

instance : Decidable (e.IsFor variant) := decidable_of_iff _ isFor_iff.symm

instance : Decidable e.WellFormed := decidable_of_iff (e.read?.isSome = true) <| by
  simp [wellFormed_iff, isFor_iff, Option.isSome_iff_exists]

end ThresholdEntry

/-! ### Lists of entries -/

/-- The environment with some entries, and commas between them, as the list of thresholds. -/
def listing (env : Environment) (entries : List ThresholdEntry) : Environment :=
  Function.update env "QS_VARIANT_IDLE_MINUTES"
    (some (Text.joined "," (entries.map ThresholdEntry.text)))

variable {env : Environment} {before after entries entries' : List ThresholdEntry}
  {e : ThresholdEntry} {variant : String} {minutes : Nat}

/-- Each entry of a list is read on its own. -/
theorem variantThresholds_joined (entries : List ThresholdEntry) :
    variantThresholds (Text.joined "," (entries.map ThresholdEntry.text)) =
      Table.ofList (entries.filterMap ThresholdEntry.read?) := by
  unfold variantThresholds
  -- No entries at all are written like one empty entry, which cannot be read.
  cases entries with
  | nil => rfl
  | cons e rest =>
    have hcomma : ∀ s ∈ (e :: rest).map ThresholdEntry.text, ',' ∉ s.toList := by
      intro s hs
      obtain ⟨e, -, rfl⟩ := List.mem_map.mp hs
      exact e.comma_not_mem
    rw [Text.splitAtChar_joined rfl (by simp) hcomma, List.map_map, List.filterMap_map]
    rfl

/-- The list is for the thresholds of variants, and for nothing else. -/
theorem ofEnvironment_listing (env : Environment) (entries : List ThresholdEntry) :
    ofEnvironment (listing env entries) =
      { ofEnvironment env with
        idle := { (ofEnvironment env).idle with
          perVariant := Table.ofList (entries.filterMap ThresholdEntry.read?) } } := by
  have hlist : listing env entries "QS_VARIANT_IDLE_MINUTES" =
      some (Text.joined "," (entries.map ThresholdEntry.text)) := Function.update_self ..
  have hother (name : String) (h : name ≠ "QS_VARIANT_IDLE_MINUTES") :
      listing env entries name = env name := Function.update_of_ne h ..
  have hwithin (name : String) (h : name ≠ "QS_VARIANT_IDLE_MINUTES") (lo hi fallback : Nat) :
      within (listing env entries) name lo hi fallback = within env name lo hi fallback := by
    rw [within, natural?, hother name h]
    rfl
  simp [ofEnvironment, hlist, hwithin, hother, lowBalanceOf, variantThresholds_joined]

/-- No threshold is read for a variant from entries that are not for it. -/
theorem lookup_thresholds_eq_none (h : ∀ e ∈ entries, ¬ e.IsFor variant) :
    (entries.filterMap ThresholdEntry.read?).reverse.lookup variant = none := by
  refine List.lookup_eq_none_iff.mpr fun p hp => ?_
  obtain ⟨e, he, hread⟩ := List.mem_filterMap.mp (List.mem_reverse.mp hp)
  have hne : p.1 ≠ variant := by
    rintro rfl
    exact h e he (ThresholdEntry.isFor_iff.mpr (by rw [hread, Option.map_some]))
  simpa using hne.symm

/-- The threshold of a variant is the last that is listed for it. -/
theorem forVariant_listing (env : Environment) (entries : List ThresholdEntry) (variant : String) :
    (ofEnvironment (listing env entries)).idle.forVariant variant =
      ((entries.filterMap ThresholdEntry.read?).reverse.lookup variant).getD
        (ofEnvironment env).idle.fallback := by
  rw [ofEnvironment_listing, IdleThresholds.forVariant, Table.lookup_ofList]

/-- The last entry for a variant sets its threshold. -/
theorem forVariant_of_last (env : Environment) (before : List ThresholdEntry)
    (hgives : e.Gives variant minutes) (hafter : ∀ later ∈ after, ¬ later.IsFor variant) :
    (ofEnvironment (listing env (before ++ e :: after))).idle.forVariant variant =
      .ofMinutes (clamp 1 dayMinutes minutes) := by
  rw [forVariant_listing, List.filterMap_append,
    List.filterMap_cons_some (ThresholdEntry.read?_of_gives hgives), List.reverse_append,
    List.reverse_cons, List.append_assoc, List.lookup_append, lookup_thresholds_eq_none hafter,
    Option.none_or, List.singleton_append, List.lookup_cons_self, Option.getD_some]

/-- A variant without an entry has the default threshold. -/
theorem forVariant_of_none (env : Environment) (h : ∀ e ∈ entries, ¬ e.IsFor variant) :
    (ofEnvironment (listing env entries)).idle.forVariant variant =
      (ofEnvironment env).idle.fallback := by
  rw [forVariant_listing, lookup_thresholds_eq_none h, Option.getD_none]

/-- The thresholds that are read for a variant are those read from the entries for it. -/
theorem filter_thresholds (entries : List ThresholdEntry) (variant : String) :
    (entries.filterMap ThresholdEntry.read?).filter (·.1 == variant) =
      (entries.filter (·.IsFor variant)).filterMap ThresholdEntry.read? := by
  rw [List.filter_filterMap, List.filterMap_filter]
  congr 1
  funext e
  simp only [ThresholdEntry.isFor_iff, decide_eq_true_eq]
  cases e.read? with
  | none => rfl
  | some p => simp [Option.filter_some]

/-- Lists with the same entries for each variant, in the same order, give the same settings. -/
theorem ofEnvironment_listing_congr (env : Environment)
    (h : ∀ variant, entries.filter (·.IsFor variant) = entries'.filter (·.IsFor variant)) :
    ofEnvironment (listing env entries) = ofEnvironment (listing env entries') := by
  have htable : Table.ofList (entries.filterMap ThresholdEntry.read?) =
      Table.ofList (entries'.filterMap ThresholdEntry.read?) :=
    Table.ofList_eq_of_filter fun variant => by
      rw [filter_thresholds, filter_thresholds, h]
  rw [ofEnvironment_listing, ofEnvironment_listing, htable]

/-- An entry that cannot be read might as well not be there. -/
theorem ofEnvironment_listing_insert (env : Environment) (before after : List ThresholdEntry)
    (h : ¬ e.WellFormed) :
    ofEnvironment (listing env (before ++ e :: after)) =
      ofEnvironment (listing env (before ++ after)) := by
  refine ofEnvironment_listing_congr env fun variant => ?_
  have hnot : ¬ e.IsFor variant := fun he => h (ThresholdEntry.wellFormed_iff.mpr ⟨variant, he⟩)
  rw [List.filter_append, List.filter_append, List.filter_cons_of_neg (by simpa using hnot)]

/-- Among entries for different variants at most one is for a variant, whatever their order. -/
theorem filter_eq_of_perm (hperm : entries.Perm entries')
    (h : entries.Pairwise ThresholdEntry.Apart) (variant : String) :
    entries.filter (·.IsFor variant) = entries'.filter (·.IsFor variant) := by
  have hfilter := hperm.filter fun e => decide (e.IsFor variant)
  have hapart := h.filter fun e => decide (e.IsFor variant)
  have hfor : ∀ e ∈ entries.filter (·.IsFor variant), e.IsFor variant := fun e he =>
    of_decide_eq_true (List.mem_filter.mp he).2
  cases hentries : entries.filter (·.IsFor variant) with
  | nil =>
    rw [hentries] at hfilter
    exact hfilter.nil_eq
  | cons e rest =>
    -- A second entry would be for the variant that the first is for.
    rw [hentries] at hfilter hapart hfor
    have hrest : rest = [] := List.eq_nil_iff_forall_not_mem.mpr fun e' he' =>
      (List.pairwise_cons.mp hapart).1 e' he' variant
        ⟨hfor e List.mem_cons_self, hfor e' (List.mem_cons_of_mem e he')⟩
    subst hrest
    exact List.singleton_perm.mp hfilter

/-- Entries for different variants may stand in any order. -/
theorem ofEnvironment_listing_perm (env : Environment) (before after : List ThresholdEntry)
    (hperm : entries.Perm entries') (h : entries.Pairwise ThresholdEntry.Apart) :
    ofEnvironment (listing env (before ++ entries ++ after)) =
      ofEnvironment (listing env (before ++ entries' ++ after)) :=
  ofEnvironment_listing_congr env fun variant => by
    simp only [List.filter_append, filter_eq_of_perm hperm h variant]

/-- The threshold of a variant is the number of minutes in the last entry for it, moved between one
minute and a day, and the default if there is no entry for it. An entry that cannot be read changes
nothing wherever it stands, and neither does the order of entries for different variants. Indeed all
lists with the same entries for each variant, in the same order, give the same settings. -/
theorem thresholds_listed (env : Environment) (entries : List ThresholdEntry) :
    (∀ variant,
      (∀ before e after minutes, entries = before ++ e :: after → e.Gives variant minutes →
        (∀ later ∈ after, ¬ later.IsFor variant) →
        (ofEnvironment (listing env entries)).idle.forVariant variant =
          .ofMinutes (clamp 1 dayMinutes minutes)) ∧
      ((∀ e ∈ entries, ¬ e.IsFor variant) →
        (ofEnvironment (listing env entries)).idle.forVariant variant =
          (ofEnvironment env).idle.fallback)) ∧
    (∀ e : ThresholdEntry, e.WellFormed ↔ ∃ variant, e.IsFor variant) ∧
    (∀ before e after, entries = before ++ e :: after → ¬ e.WellFormed →
      ofEnvironment (listing env entries) = ofEnvironment (listing env (before ++ after))) ∧
    (∀ before part part' after, entries = before ++ part ++ after → part.Perm part' →
      part.Pairwise ThresholdEntry.Apart →
      ofEnvironment (listing env entries) =
        ofEnvironment (listing env (before ++ part' ++ after))) ∧
    ∀ entries', (∀ variant, entries.filter (·.IsFor variant) = entries'.filter (·.IsFor variant)) →
      ofEnvironment (listing env entries) = ofEnvironment (listing env entries') := by
  refine ⟨fun variant => ⟨?_, forVariant_of_none env⟩, fun _ => ThresholdEntry.wellFormed_iff, ?_,
    ?_, fun _ => ofEnvironment_listing_congr env⟩
  · rintro before e after minutes rfl hgives hafter
    exact forVariant_of_last env before hgives hafter
  · rintro before e after rfl hnot
    exact ofEnvironment_listing_insert env before after hnot
  · rintro before part part' after rfl hperm hapart
    exact ofEnvironment_listing_perm env before after hperm hapart

/-- Two entries for one variant, of which the later gives more than a day, and two that cannot be
read. -/
theorem thresholds_listed_overwritten :
    let early : ThresholdEntry := ⟨" casual = 15 ", by decide⟩
    let broken : ThresholdEntry := ⟨"broken", by decide⟩
    let fast : ThresholdEntry := ⟨"fast=+0", by decide⟩
    let late : ThresholdEntry := ⟨"casual=2000", by decide⟩
    let twice : ThresholdEntry := ⟨"casual=1=2", by decide⟩
    let settings (entries : List ThresholdEntry) := ofEnvironment (listing (fun _ => none) entries)
    let entries := [early, broken, fast, late, twice]
    (settings entries).idle.forVariant "casual" = .ofHours 24 ∧
      (settings entries).idle.forVariant "fast" = .ofMinutes 1 ∧
      (settings entries).idle.forVariant "other" = .ofMinutes 10 ∧
      (broken.WellFormed ↔ ∃ variant, broken.IsFor variant) ∧
      settings entries = settings [early, fast, late, twice] ∧
      settings entries = settings [early, late, broken, fast, twice] ∧
      settings entries = settings [fast, early, late] := by
  intro early broken fast late twice settings entries
  have h := thresholds_listed (fun _ => none) entries
  have hearly : early.read? = some ("casual", .ofMinutes 15) := by decide +kernel
  have hbroken : broken.read? = none := by decide +kernel
  have hfast : fast.read? = some ("fast", .ofMinutes 1) := by decide +kernel
  have hlate : late.read? = some ("casual", .ofHours 24) := by decide +kernel
  have htwice : twice.read? = none := by decide +kernel
  refine ⟨?_, ?_, ?_, h.2.1 broken, ?_, ?_, ?_⟩
  · exact (h.1 "casual").1 [early, broken, fast] late [twice] 2000 rfl (by decide +kernel)
      (by decide +kernel)
  · exact (h.1 "fast").1 [early, broken] fast [late, twice] 0 rfl (by decide +kernel)
      (by decide +kernel)
  · exact (h.1 "other").2 (by decide +kernel)
  · exact h.2.2.1 [early] broken [fast, late, twice] rfl (by decide +kernel)
  · refine h.2.2.2.1 [early] [broken, fast, late] [late, broken, fast] [twice] rfl
      ((List.perm_append_comm : ([broken, fast] ++ [late]).Perm _)) ?_
    simp [ThresholdEntry.Apart, ThresholdEntry.isFor_iff, hbroken, hfast, hlate]
  · refine h.2.2.2.2 [fast, early, late] fun variant => ?_
    by_cases hcasual : "casual" = variant
    · subst hcasual
      simp [entries, ThresholdEntry.isFor_iff, hearly, hbroken, hfast, hlate, htwice]
    · simp [entries, List.filter_cons, ThresholdEntry.isFor_iff, hearly, hbroken, hfast, hlate,
        htwice, hcasual]

end GameFleet.FleetSettings
