import GameFleet.Proofs.Time.Calendar
import GameFleet.Time.Rfc3339

/-!
# Reading moments back

A moment of the years 0 to 9999 outside leap seconds is read from its text to the nanosecond.

- `Timestamp.IsCommon`: such moments.
- `Timestamp.number?_padded`, `Timestamp.fraction?_fractionText` and others: each part is read from
  how it was written.
- `Timestamp.read?_text`: the moment is read.
-/

namespace GameFleet.Timestamp

/-- A moment whose year has four digits, outside leap seconds. -/
structure IsCommon (t : Timestamp) : Prop where
  first : 0 ≤ t.date.year
  last : t.date.year ≤ 9999
  nanos : t.nanos < Span.second

/-! ## Parts -/

/-- A run of digits is read up to what is no digit, or as far as it may go. -/
theorem digitRun_append {most : Nat} {ds rest : List Char} (hlen : ds.length ≤ most)
    (hds : ∀ c ∈ ds, c.isDigit = true)
    (hrest : ∀ c, (rest.take (most - ds.length)).head? = some c → c.isDigit = false) :
    digitRun most (ds ++ rest) = (ds, rest) := by
  have hstop : (rest.take (most - ds.length)).takeWhile Char.isDigit = [] := by
    cases hcs : rest.take (most - ds.length) with
    | nil => rfl
    | cons c cs =>
      rw [hcs] at hrest
      rw [List.takeWhile_cons_of_neg]
      rw [hrest c rfl]
      decide
  unfold digitRun
  dsimp only
  rw [List.take_append, List.take_of_length_le hlen, List.takeWhile_append_of_pos hds, hstop,
    List.append_nil, List.drop_left]

/-- A filled number is read when it is as wide as it may be. -/
theorem number?_padded {width n : Nat} (h : n < Nat.pow 10 (width + 1)) (rest : List Char) :
    number? (width + 1) (Text.padded (width + 1) n ++ rest) = some (n, rest) := by
  have hlen := Text.length_padded h
  unfold number?
  rw [digitRun_append (Nat.le_of_eq hlen) Text.isDigit_of_mem_padded (by simp [hlen])]
  simp [Text.digitsValue?_padded]

theorem trimStart_padded (width n : Nat) (rest : List Char) :
    Text.trimStart (Text.padded width n ++ rest) = Text.padded width n ++ rest := by
  cases h : Text.padded width n with
  | nil =>
    have hne := Text.decimal_ne_nil n
    exact absurd (List.append_eq_nil_iff.mp h).2 hne
  | cons c cs =>
    refine Text.trimStart_cons _ (Text.isBlank_of_isDigit ?_)
    exact Text.isDigit_of_mem_padded c (h ▸ List.mem_cons_self)

/-- A reader goes on behind what it read. -/
theorem bind_of_eq {α β : Type} {o : Option α} {a : α} (h : o = some a) {f : α → Option β} :
    (o >>= f) = f a := by
  rw [h]
  rfl

theorem field?_twoDigits {n least greatest : Nat} (hleast : least ≤ n) (hgreatest : n ≤ greatest)
    (h : n < 100) (rest : List Char) :
    field? 2 least greatest (twoDigits n ++ rest) = some (n, rest) := by
  unfold field? twoDigits
  rw [trimStart_padded, number?_padded h]
  simp [hleast, hgreatest]

theorem mark?_cons {c : Char} (h : Text.isBlank c = false) (rest : List Char) :
    mark? c (c :: rest) = some rest := by
  unfold mark?
  rw [Text.trimStart_cons rest h]
  simp

/-- A year of four digits. -/
theorem year?_padded {n : Nat} (h : n < 10000) (rest : List Char) :
    year? (Text.padded 4 n ++ rest) = some ((n : Int), rest) := by
  have hnumber : number? 4 (Text.padded 4 n ++ rest) = some (n, rest) := number?_padded h rest
  unfold year?
  rw [trimStart_padded]
  cases hcs : Text.padded 4 n with
  | nil => exact absurd (List.append_eq_nil_iff.mp hcs).2 (Text.decimal_ne_nil n)
  | cons c cs =>
    have hc := Text.isDigit_of_mem_padded c (hcs ▸ List.mem_cons_self)
    rw [hcs] at hnumber
    split
    · rename_i heq
      obtain ⟨rfl, -⟩ := List.cons.inj heq
      cases hc
    · rename_i heq
      obtain ⟨rfl, -⟩ := List.cons.inj heq
      cases hc
    · rw [hnumber]
      rfl

/-- A fraction is read from its groups of digits. -/
theorem fraction?_padded {width n : Nat} (hwidth : width + 1 ≤ 9)
    (h : n < Nat.pow 10 (width + 1)) :
    fraction? ('.' :: Text.padded (width + 1) n ++ ['Z']) =
      some (n * Nat.pow 10 (9 - (width + 1)), ['Z']) := by
  have hlen := Text.length_padded h
  have hrun : digitRun 9 (Text.padded (width + 1) n ++ ['Z']) =
      (Text.padded (width + 1) n, ['Z']) := by
    refine digitRun_append (by omega) Text.isDigit_of_mem_padded fun c hc => ?_
    cases hd : 9 - (Text.padded (width + 1) n).length with
    | zero =>
      rw [hd] at hc
      cases hc
    | succ d =>
      rw [hd] at hc
      cases hc
      rfl
  show fraction? ('.' :: (Text.padded (width + 1) n ++ ['Z'])) = _
  rw [fraction?, hrun]
  refine (bind_of_eq (Text.digitsValue?_padded (width + 1) n)).trans ?_
  rw [hlen]
  rfl

theorem fraction?_fractionText {nanos : Nat} (h : nanos < Span.second) :
    fraction? (fractionText nanos ++ ['Z']) = some (nanos, ['Z']) := by
  have hgroups : ∀ {width n : Nat}, width + 1 ≤ 9 → n < Nat.pow 10 (width + 1) →
      n * Nat.pow 10 (9 - (width + 1)) = nanos →
      fraction? ('.' :: Text.padded (width + 1) n ++ ['Z']) = some (nanos, ['Z']) := by
    intro width n hwidth hn heq
    rw [fraction?_padded hwidth hn, heq]
  unfold Span.second at h
  unfold fractionText
  split
  · rename_i hzero
    rw [hzero]
    rfl
  split
  · exact hgroups (by decide) (show _ < 1000 by omega) (show _ * 1000000 = _ by omega)
  split
  · exact hgroups (by decide) (show _ < 1000000 by omega) (show _ * 1000 = _ by omega)
  · exact hgroups (by decide) h (Nat.mul_one nanos)

/-! ## The moment -/

theorem firstDay_eq : firstDay = -96465292 := by decide

theorem lastDay_eq : lastDay = 95026236 := by decide

/-- A day of the years 0 to 9999 can be written. -/
theorem inRange_of_year {t : Timestamp} (hfirst : 0 ≤ t.date.year) (hlast : t.date.year ≤ 9999) :
    t.inRange = true := by
  obtain ⟨hle, hlt⟩ := Date.yearsBefore_spec (t.seconds / day + Date.epochDay)
  have hyear : t.date.year = Date.yearsBefore (t.seconds / day + Date.epochDay) + 1 := rfl
  rw [hyear] at hfirst hlast
  unfold inRange
  dsimp only
  rw [firstDay_eq, lastDay_eq]
  simp only [Date.epochDay, Date.daysOfYears] at hle hlt hfirst hlast ⊢
  simp only [Bool.and_eq_true, decide_eq_true_eq]
  omega

/-- The date of a moment and its time of day tell the moment. -/
theorem atOffset?_date {t : Timestamp} (h : t.IsCommon) :
    atOffset? t.date (t.secondOfDay.toNat / 3600) (t.secondOfDay.toNat / 60 % 60)
      (t.secondOfDay.toNat % 60) t.nanos 0 = some t := by
  have hsecond : t.secondOfDay.toNat % 60 ≠ 60 := by omega
  have hday : t.date.dayNumber = t.seconds / day := Date.dayNumber_ofDayNumber _
  have hfirst := h.first
  have hlast := h.last
  have hvalid : t.date.isValid = true := Date.isValid_ofDayNumber _
  have hguard : t.date.isValid ∧ firstYear ≤ t.date.year ∧ t.date.year ≤ lastYear ∧
      (0 : Int).natAbs < 86400 := by
    simp only [firstYear, lastYear]
    exact ⟨hvalid, by omega, by omega, by decide⟩
  have hsum : t.date.dayNumber * day + (((t.secondOfDay.toNat / 3600 : Nat) : Int) * 3600
      + ((t.secondOfDay.toNat / 60 % 60 : Nat) : Int) * 60
      + ((t.secondOfDay.toNat % 60 : Nat) : Int)) - 0 = t.seconds := by
    rw [hday]
    simp only [secondOfDay, day]
    omega
  unfold atOffset?
  rw [if_pos hguard]
  simp only [hsecond, if_false, hsum]
  rw [if_pos (inRange_of_year hfirst hlast)]

theorem secondOfDay_lt (t : Timestamp) : t.secondOfDay.toNat < 86400 := by
  simp only [secondOfDay, day]
  omega

/-- The parts of a moment's text, in the order in which they are read. -/
theorem toList_text {t : Timestamp} (h : t.IsCommon) :
    t.text.toList = Text.padded 4 t.date.year.toNat ++ '-' :: (twoDigits t.date.month ++
      '-' :: (twoDigits t.date.day ++ 'T' :: (twoDigits (t.secondOfDay.toNat / 3600) ++
      ':' :: (twoDigits (t.secondOfDay.toNat / 60 % 60) ++
      ':' :: (twoDigits (t.secondOfDay.toNat % 60) ++ (fractionText t.nanos ++ ['Z'])))))) := by
  have hleap : t.isLeap = false := by
    have := h.nanos
    simpa [isLeap] using this
  simp only [text, String.toList_ofList, bareChars, hleap, yearText, Bool.false_eq_true, if_false]
  rw [if_pos ⟨h.first, h.last⟩]
  simp only [List.append_assoc, List.cons_append]

/-- A moment is read from its text. -/
theorem read?_text {t : Timestamp} (h : t.IsCommon) : read? t.text = some t := by
  obtain ⟨⟨hmonth, hmonth'⟩, hday, hday'⟩ : (1 ≤ t.date.month ∧ t.date.month ≤ 12) ∧
      1 ≤ t.date.day ∧ t.date.day ≤ 31 := Date.bounds_ofDayNumber _
  have hsecond := t.secondOfDay_lt
  have hyear : ((t.date.year.toNat : Nat) : Int) = t.date.year := Int.toNat_of_nonneg h.first
  have hyear' : t.date.year.toNat < 10000 := by
    have := h.last
    omega
  have hhour : t.secondOfDay.toNat / 3600 ≤ 23 := by omega
  have hminute : t.secondOfDay.toNat / 60 % 60 ≤ 59 := by omega
  have hsecond' : t.secondOfDay.toNat % 60 ≤ 60 := by omega
  have hdash : Text.isBlank '-' = false := by decide
  have hcolon : Text.isBlank ':' = false := by decide
  unfold read?
  rw [toList_text h]
  -- One step for each part, in the order in which they are written.
  refine (bind_of_eq (year?_padded hyear' _)).trans ?_
  refine (bind_of_eq (mark?_cons hdash _)).trans ?_
  refine (bind_of_eq (field?_twoDigits hmonth hmonth' (by omega) _)).trans ?_
  refine (bind_of_eq (mark?_cons hdash _)).trans ?_
  refine (bind_of_eq (field?_twoDigits hday hday' (by omega) _)).trans ?_
  refine (if_pos (Or.inr (Or.inl rfl))).trans ((bind_of_eq rfl).trans ?_)
  refine (bind_of_eq (field?_twoDigits (Nat.zero_le _) hhour (by omega) _)).trans ?_
  refine (bind_of_eq (mark?_cons hcolon _)).trans ?_
  refine (bind_of_eq (field?_twoDigits (Nat.zero_le _) hminute (by omega) _)).trans ?_
  refine (bind_of_eq (mark?_cons hcolon _)).trans ?_
  refine (bind_of_eq (field?_twoDigits (Nat.zero_le _) hsecond' (by omega) _)).trans ?_
  refine (bind_of_eq (fraction?_fractionText h.nanos)).trans ?_
  rw [hyear]
  exact atOffset?_date h

end GameFleet.Timestamp
