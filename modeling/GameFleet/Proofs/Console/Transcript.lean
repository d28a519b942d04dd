import GameFleet.Console.Status

/-!
# Lines of a status transcript

What a transcript tells is gathered line by line. Outside tables a line tells one thing at most, and
what it is shows in its first character. Inside a table a line is a row, or it ends the table.

- `Line.server?`, `Line.relay?`, `Line.summary?`, `Line.isHeader`, `Line.isRow`: what a line tells.
- `Line.last?`: what the last line of a kind tells.
- `Scan.step_of_outside`, `Scan.step_of_row`, `Scan.step_of_end`: all that a line does.
- `Scan.through`: the reading of several lines.
- `Scan.Counting`: the invariant: rows are counted inside tables.
- `Scan.rows_through`: rows are counted once there was a header.
- `Scan.through_of_outside`: what lines tell among which there is no header.
- `Report.read_eq_pieces`: a transcript may be read as the pieces between its line feeds.
-/

namespace GameFleet.Console

namespace Line

open Report

/-- Where players connect, if a line tells it. -/
def server? (line : List Char) : Option Address :=
  (field? serverKey (Text.trim line)).bind address?

/-- Where spectators connect, if a line tells it. -/
def relay? (line : List Char) : Option Address :=
  (field? relayKey (Text.trim line)).bind address?

/-- The players, if a line sums them up. There may be no number in it. -/
def summary? (line : List Char) : Option (Option Nat) :=
  (field? playersKey (Text.trim line)).map firstNumber?

/-- Whether a line is the header of a table. -/
def isHeader (line : List Char) : Bool := (Text.after? tableHeader (Text.trim line)).isSome

/-- Whether a line may be a row of a table. -/
def isRow (line : List Char) : Bool := Report.isRow (Text.trim line)

variable {α : Type} {tells : List Char → Option α}

/-- What the last of several lines tells, of those that tell something. -/
def last? (tells : List Char → Option α) (lines : List (List Char)) : Option α :=
  (lines.filterMap tells).getLast?

theorem last?_cons (line : List Char) (lines : List (List Char)) :
    last? tells (line :: lines) = (last? tells lines).or (tells line) := by
  unfold last?
  rw [List.filterMap_cons]
  cases tells line with
  | none => exact Option.or_none.symm
  | some a =>
    rw [List.getLast?_cons]
    cases (lines.filterMap tells).getLast? <;> rfl

/-- A line tells the last if those behind it tell nothing. -/
theorem last?_eq_some {before after : List (List Char)} {line : List Char} {a : α}
    (h : tells line = some a) (hafter : ∀ l ∈ after, tells l = none) :
    last? tells (before ++ line :: after) = some a := by
  rw [last?, List.filterMap_append, List.filterMap_cons, h, List.filterMap_eq_nil_iff.mpr hafter]
  exact List.getLast?_concat

theorem last?_eq_none {lines : List (List Char)} (h : ∀ l ∈ lines, tells l = none) :
    last? tells lines = none := by
  rw [last?, List.filterMap_eq_nil_iff.mpr h]
  rfl

/-- What is told last is told by one line, and no line behind it tells anything. -/
theorem last?_eq_some_iff {lines : List (List Char)} {a : α} :
    last? tells lines = some a ↔ ∃ before line after, lines = before ++ line :: after ∧
      tells line = some a ∧ ∀ l ∈ after, tells l = none := by
  constructor
  · intro h
    induction lines with
    | nil => cases h
    | cons line lines ih =>
      rw [last?_cons] at h
      cases hrest : last? tells lines with
      | some b =>
        rw [hrest] at h
        obtain ⟨before, l, after, rfl, hl, hafter⟩ := ih (hrest.trans h)
        exact ⟨line :: before, l, after, rfl, hl, hafter⟩
      | none =>
        rw [hrest, Option.none_or] at h
        exact ⟨[], line, lines, rfl, h,
          List.filterMap_eq_nil_iff.mp (List.getLast?_eq_none_iff.mp hrest)⟩
  · rintro ⟨before, line, after, rfl, hline, hafter⟩
    exact last?_eq_some hline hafter

end Line

/-! ### First characters -/

/-- A text that starts with a lead has its first character. -/
theorem head?_of_after? {l : Char} {lead line rest : List Char}
    (h : Text.after? (l :: lead) line = some rest) : line.head? = some l := by
  rw [Text.eq_of_after? h]
  rfl

theorem Report.head?_of_field? {k : Char} {key line value : List Char}
    (h : field? (k :: key) line = some value) : line.head? = some k := by
  unfold field? at h
  obtain ⟨rest, hrest, -⟩ := Option.bind_eq_some_iff.mp h
  exact head?_of_after? hrest

/-- What starts with another character is no line with this key. -/
theorem Report.field?_eq_none {k c : Char} {key line : List Char} (h : line.head? = some c)
    (hc : c ≠ k) : field? (k :: key) line = none := by
  cases hf : field? (k :: key) line with
  | none => rfl
  | some value =>
    rw [head?_of_field? hf] at h
    exact absurd (Option.some.inj h).symm hc

theorem after?_eq_none {l c : Char} {lead line : List Char} (h : line.head? = some c)
    (hc : c ≠ l) : Text.after? (l :: lead) line = none := by
  cases ha : Text.after? (l :: lead) line with
  | none => rfl
  | some rest =>
    rw [head?_of_after? ha] at h
    exact absurd (Option.some.inj h).symm hc

namespace Scan

open Report

variable {s : Scan} {line : List Char} {lines : List (List Char)}

/-! ### Single lines -/

/-- A line outside tables tells at most one thing. -/
theorem outside_eq (s : Scan) (line : List Char) :
    s.outside line = ⟨((field? serverKey line).bind address?).or s.server,
      ((field? relayKey line).bind address?).or s.relay,
      ((field? playersKey line).map firstNumber?).getD s.summary,
      if (Text.after? tableHeader line).isSome then some (s.rows.getD 0) else s.rows,
      s.inTable || (Text.after? tableHeader line).isSome⟩ := by
  -- The keys and the header start with different characters, so no two of them fit.
  unfold outside
  cases hserver : field? serverKey line with
  | some value =>
    have hhead := head?_of_field? hserver
    rw [show field? relayKey line = none from field?_eq_none hhead (by decide),
      show field? playersKey line = none from field?_eq_none hhead (by decide),
      show Text.after? tableHeader line = none from after?_eq_none hhead (by decide)]
    simp
  | none =>
    cases hrelay : field? relayKey line with
    | some value =>
      have hhead := head?_of_field? hrelay
      rw [show field? playersKey line = none from field?_eq_none hhead (by decide),
        show Text.after? tableHeader line = none from after?_eq_none hhead (by decide)]
      simp
    | none =>
      cases hplayers : field? playersKey line with
      | some value =>
        have hhead := head?_of_field? hplayers
        rw [show Text.after? tableHeader line = none from after?_eq_none hhead (by decide)]
        simp
      | none => cases hheader : Text.after? tableHeader line <;> simp

theorem step_of_outside (h : s.inTable = false) (line : List Char) :
    s.step line = ⟨(Line.server? line).or s.server, (Line.relay? line).or s.relay,
      (Line.summary? line).getD s.summary,
      if Line.isHeader line then some (s.rows.getD 0) else s.rows, Line.isHeader line⟩ := by
  rw [step, if_neg (Bool.eq_false_iff.mp h), outside_eq, h, Bool.false_or]
  rfl

/-- A row of a table is counted, and nothing else is read from it. -/
theorem step_of_row (h : s.inTable = true) (hrow : Line.isRow line = true) :
    s.step line = { s with rows := s.rows.map (· + 1) } := by
  rw [step, if_pos h, inside]
  exact if_pos hrow

/-- The line that ends a table tells nothing else. -/
theorem step_of_end (h : s.inTable = true) (hrow : Line.isRow line = false) :
    s.step line = { s with inTable := false } := by
  rw [step, if_pos h, inside]
  exact if_neg (Bool.eq_false_iff.mp hrow)

/-! ### Lines one after another -/

/-- The reading of several lines. -/
def through (s : Scan) (lines : List (List Char)) : Scan := lines.foldl step s

@[simp] theorem through_nil (s : Scan) : s.through [] = s := rfl

@[simp] theorem through_cons (s : Scan) (line : List Char) (lines : List (List Char)) :
    s.through (line :: lines) = (s.step line).through lines := rfl

@[simp] theorem through_append (s : Scan) (lines lines' : List (List Char)) :
    s.through (lines ++ lines') = (s.through lines).through lines' := List.foldl_append

/-- Inside a table rows are counted. -/
def Counting (s : Scan) : Prop := s.inTable = true → s.rows.isSome = true

theorem Counting.step (h : s.Counting) (line : List Char) : (s.step line).Counting := by
  cases hin : s.inTable with
  | false =>
    rw [step_of_outside hin]
    intro hheader
    simp only at hheader
    simp [hheader]
  | true =>
    cases hrow : Line.isRow line with
    | true =>
      rw [step_of_row hin hrow]
      intro _
      simpa using h hin
    | false =>
      rw [step_of_end hin hrow]
      exact nofun

/-- Rows are counted after a line exactly when they were before, or it is a header. -/
theorem Counting.rows_step (h : s.Counting) (line : List Char) :
    (s.step line).rows.isSome = (s.rows.isSome || Line.isHeader line) := by
  cases hin : s.inTable with
  | false =>
    rw [step_of_outside hin]
    cases hheader : Line.isHeader line <;> simp
  | true =>
    rw [h hin, Bool.true_or]
    cases hrow : Line.isRow line with
    | true =>
      rw [step_of_row hin hrow]
      simpa using h hin
    | false =>
      rw [step_of_end hin hrow]
      exact h hin

theorem Counting.rows_through (h : s.Counting) (lines : List (List Char)) :
    (s.through lines).rows.isSome = (s.rows.isSome || lines.any Line.isHeader) := by
  induction lines generalizing s with
  | nil => simp
  | cons line lines ih =>
    rw [through_cons, ih (h.step line), h.rows_step line, List.any_cons, Bool.or_assoc]

theorem counting_start : ({} : Scan).Counting := nofun

/-- Rows are counted in a transcript exactly when there is a header in it: a first header cannot
stand in a table. -/
theorem rows_through (lines : List (List Char)) :
    (({} : Scan).through lines).rows.isSome = lines.any Line.isHeader := by
  rw [counting_start.rows_through]
  exact Bool.false_or _

/-- Without headers the last line of each kind counts. -/
theorem through_of_outside (h : s.inTable = false)
    (hlines : ∀ line ∈ lines, Line.isHeader line = false) :
    s.through lines = ⟨(Line.last? Line.server? lines).or s.server,
      (Line.last? Line.relay? lines).or s.relay,
      (Line.last? Line.summary? lines).getD s.summary, s.rows, false⟩ := by
  induction lines generalizing s with
  | nil =>
    rw [through_nil, ← h]
    rfl
  | cons line lines ih =>
    have hstep := step_of_outside h line
    rw [hlines line List.mem_cons_self] at hstep
    rw [through_cons, hstep, ih rfl fun l hl => hlines l (List.mem_cons_of_mem line hl)]
    -- What a line tells is kept until a later line of its kind.
    rw [Line.last?_cons, Line.last?_cons, Line.last?_cons, Option.or_assoc, Option.or_assoc,
      Option.getD_or]
    rfl

end Scan

end GameFleet.Console

/-! ### Lines and pieces -/

namespace GameFleet

theorem Text.trim_withoutReturn (line : List Char) :
    trim (withoutReturn line) = trim line := by
  unfold withoutReturn
  split
  · rename_i h
    obtain ⟨front, rfl⟩ := List.getLast?_eq_some_iff.mp h
    rw [List.dropLast_concat]
    refine (trim_append front fun b hb => ?_).symm
    rw [List.mem_singleton.mp hb]
    decide
  · rfl

namespace Console

theorem Scan.step_withoutReturn (s : Scan) (line : List Char) :
    s.step (Text.withoutReturn line) = s.step line := by
  rw [step, Text.trim_withoutReturn, step]

/-- An empty line ends a table, and tells nothing. -/
theorem Scan.step_nil (s : Scan) : s.step [] = { s with inTable := false } := by
  cases hin : s.inTable with
  | false =>
    rw [step_of_outside hin]
    rfl
  | true => exact step_of_end hin rfl

/-- A transcript may be read as the pieces between its line feeds, but for whether its end is in a
table. -/
theorem Scan.through_linesOf (s : Scan) (pieces : List (List Char)) :
    ∃ inTable, s.through pieces = { s.through (Text.linesOf pieces) with inTable } := by
  induction pieces generalizing s with
  | nil => exact ⟨s.inTable, rfl⟩
  | cons piece pieces ih =>
    cases pieces with
    | nil =>
      cases piece with
      | nil => exact ⟨false, s.step_nil⟩
      | cons c cs => exact ⟨(s.step (c :: cs)).inTable, rfl⟩
    | cons piece' pieces =>
      obtain ⟨inTable, h⟩ := ih (s.step piece)
      refine ⟨inTable, ?_⟩
      show _ = { (s.step (Text.withoutReturn piece)).through (Text.linesOf (piece' :: pieces))
        with inTable }
      rw [s.step_withoutReturn]
      exact h

theorem Report.read_eq_pieces (transcript : List Char) :
    read transcript = (({} : Scan).through (Text.splitAtChar '\n' transcript)).report := by
  obtain ⟨inTable, h⟩ := ({} : Scan).through_linesOf (Text.splitAtChar '\n' transcript)
  rw [h]
  rfl

/-- A header is a piece between line feeds. -/
theorem Line.any_isHeader_linesOf (pieces : List (List Char)) :
    (Text.linesOf pieces).any isHeader = pieces.any isHeader := by
  rw [← Scan.rows_through, ← Scan.rows_through]
  obtain ⟨inTable, h⟩ := ({} : Scan).through_linesOf pieces
  rw [h]

end Console

end GameFleet
