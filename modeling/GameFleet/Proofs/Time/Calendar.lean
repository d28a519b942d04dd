import GameFleet.Time.Calendar

/-!
# Days and dates

Every day has a date, and the date tells the day.

- `Date.yearsBefore_spec`: the year in which a day lies.
- `Date.monthAndDay_spec`: the month and day on which a day of the year falls.
- `Date.dayNumber_ofDayNumber`, `Date.isValid_ofDayNumber`: the date of a day is a date of the
  calendar, and that day's.
-/

namespace GameFleet.Date

/-- A year has a day more when it is a leap year. -/
theorem daysOfYears_succ (y : Int) :
    daysOfYears (y + 1) = daysOfYears y + (if isLeap (y + 1) then 366 else 365 : Nat) := by
  unfold daysOfYears isLeap
  split
  · rename_i h
    simp only [Bool.and_eq_true, beq_iff_eq, Bool.or_eq_true, bne_iff_ne] at h
    omega
  · rename_i h
    simp only [Bool.and_eq_true, beq_iff_eq, Bool.or_eq_true, bne_iff_ne] at h
    omega

/-- The year behind these is the one in which the day lies. -/
theorem yearsBefore_spec (n : Int) :
    daysOfYears (yearsBefore n) ≤ n ∧ n < daysOfYears (yearsBefore n + 1) := by
  unfold yearsBefore
  dsimp only
  split
  · rename_i h
    refine ⟨?_, by rwa [Int.sub_add_cancel]⟩
    simp only [daysOfYears] at h ⊢
    omega
  · split
    · rename_i h
      refine ⟨h, ?_⟩
      simp only [daysOfYears] at h ⊢
      omega
    · omega

theorem total_cons (length : Nat) (lengths : List Nat) :
    total (length :: lengths) = length + total lengths := by
  simp only [total, ← List.sum_eq_foldl, List.sum_cons]

theorem total_monthLengths (leap : Bool) :
    total (monthLengths leap) = if leap then 366 else 365 := by
  cases leap <;> rfl

/-- A day of the year falls on a day of a month, behind the days of the months before. -/
theorem monthAndDay_spec {lengths : List Nat} {day : Nat} (h : day < total lengths) (month : Nat) :
    ∃ k d length, monthAndDay month lengths day = (month + k, d + 1) ∧
      lengths[k]? = some length ∧ d < length ∧ total (lengths.take k) + d = day := by
  induction lengths generalizing day month with
  | nil => cases h
  | cons length lengths ih =>
    rw [total_cons] at h
    rw [monthAndDay]
    split
    · rename_i hday
      exact ⟨0, day, length, rfl, rfl, hday, Nat.zero_add day⟩
    · have hrest : day - length < total lengths := by omega
      obtain ⟨k, d, length', heq, hlength, hd, htotal⟩ := ih hrest (month + 1)
      refine ⟨k + 1, d, length', ?_, hlength, hd, ?_⟩
      · rw [heq, Nat.add_assoc, Nat.add_comm 1 k]
      · rw [List.take_succ_cons, total_cons]
        omega

/-- The parts of the date of a day. -/
theorem ofDayNumber_spec (n : Int) :
    ∃ y : Int, ∃ k d length : Nat, ofDayNumber n = ⟨y + 1, k + 1, d + 1⟩ ∧
      (monthLengths (isLeap (y + 1)))[k]? = some length ∧ d < length ∧
      daysOfYears y + (total ((monthLengths (isLeap (y + 1))).take k) + d : Nat) =
        n + epochDay := by
  obtain ⟨hle, hlt⟩ := yearsBefore_spec (n + epochDay)
  generalize hy : yearsBefore (n + epochDay) = y at hle hlt
  have hday : (n + epochDay - daysOfYears y).toNat < total (monthLengths (isLeap (y + 1))) := by
    rw [daysOfYears_succ] at hlt
    rw [total_monthLengths]
    omega
  obtain ⟨k, d, length, heq, hlength, hd, htotal⟩ := monthAndDay_spec hday 1
  refine ⟨y, k, d, length, ?_, hlength, hd, by omega⟩
  unfold ofDayNumber
  simp only [hy, heq, Nat.add_comm 1 k]

/-- The date of a day tells the day. -/
theorem dayNumber_ofDayNumber (n : Int) : (ofDayNumber n).dayNumber = n := by
  obtain ⟨y, k, d, length, heq, -, -, hn⟩ := ofDayNumber_spec n
  rw [heq]
  unfold dayNumber
  dsimp only
  rw [Int.add_sub_cancel, Nat.add_sub_cancel]
  omega

/-- The date of a day is in the calendar. -/
theorem isValid_ofDayNumber (n : Int) : (ofDayNumber n).isValid = true := by
  obtain ⟨y, k, d, length, heq, hlength, hd, -⟩ := ofDayNumber_spec n
  rw [heq]
  unfold isValid
  dsimp only
  rw [hlength]
  simpa using Nat.succ_le_of_lt hd

theorem monthLengths_le (leap : Bool) : ∀ k length, (monthLengths leap)[k]? = some length →
    k < 12 ∧ length ≤ 31 := by
  intro k length h
  have hk : k < 12 := (List.getElem?_eq_some_iff.mp h).1
  have hall : ∀ length ∈ monthLengths leap, length ≤ 31 := by cases leap <;> decide
  exact ⟨hk, hall length (List.mem_of_getElem? h)⟩

/-- The month and the day of a date are in bounds. -/
theorem bounds_ofDayNumber (n : Int) :
    (1 ≤ (ofDayNumber n).month ∧ (ofDayNumber n).month ≤ 12) ∧
      1 ≤ (ofDayNumber n).day ∧ (ofDayNumber n).day ≤ 31 := by
  obtain ⟨y, k, d, length, heq, hlength, hd, -⟩ := ofDayNumber_spec n
  obtain ⟨hk, hmost⟩ := monthLengths_le _ k length hlength
  rw [heq]
  dsimp only
  omega

end GameFleet.Date
