import GameFleet.Proofs.Console.Transcript

/-!
# Sections of a status transcript (specification §4.5)

A transcript is made of lines outside tables and of tables, in any order. A table is closed by a
line of its own, or it stays open. The line behind an open table ends it, and nothing else is read
from that line; a header behind an open table counts as one more of its rows.

- `Section`: a line outside tables, or a table; `Section.Proper`: what their lines are.
- `Section.heard`: the lines outside tables that do not follow an open table.
- `Section.taken`: how many headers count as rows.
- `Scan.through_section`, `Scan.through_sections`: the reading of a section, and of all.
- `Report.players_le`: the players of a transcript that is not too long are a number of 32 bits.
- `report_of_sections`: the theorem.
- `exists_unheard_line`: a line behind an open table is not heard, and a header is counted.
-/

namespace GameFleet.Console

/-- Whether a line closes a table. -/
def Line.isClosing (line : List Char) : Bool :=
  (Text.trim line).map Char.toLower = Report.tableEnd

/-- A section of a transcript. -/
inductive Section where
  /-- A line outside tables. -/
  | line (text : List Char)
  /-- A header, the rows under it, and the line that closes the table, if there is one. -/
  | table (header : List Char) (rows : List (List Char)) (close : Option (List Char))

namespace Section

/-- The lines of a section. -/
def lines : Section → List (List Char)
  | line text => [text]
  | table header rows close => header :: (rows ++ close.toList)

/-- A line outside tables has no mark. The rows of a table have one, and are neither headers nor the
line that closes it. -/
inductive Proper : Section → Prop where
  | line {text : List Char} (h : (Text.trim text).head? ≠ some '#') : Proper (.line text)
  | table {header : List Char} {rows : List (List Char)} {close : Option (List Char)}
    (hheader : Line.isHeader header = true)
    (hrows : ∀ row ∈ rows, Line.isRow row = true ∧ Line.isHeader row = false)
    (hclose : ∀ l ∈ close, Line.isClosing l = true) : Proper (.table header rows close)

/-- The text of a line outside tables. -/
def text? : Section → Option (List Char)
  | line text => some text
  | table .. => none

def isTable : Section → Bool
  | line _ => false
  | table .. => true

/-- Whether a section is a table that is not closed. -/
def isOpen : Section → Bool
  | table _ _ none => true
  | _ => false

/-- The rows of a section. -/
def rows : Section → List (List Char)
  | line _ => []
  | table _ rows _ => rows

/-- The lines outside tables that do not follow an open table; whether the first section follows
one. -/
def heard (follows : Bool) : List Section → List (List Char)
  | [] => []
  | x :: xs => (if follows then none else x.text?).toList ++ heard x.isOpen xs

/-- How many tables follow an open table; whether the first section follows one. -/
def taken (follows : Bool) : List Section → Nat
  | [] => 0
  | x :: xs => (follows && x.isTable).toNat + taken x.isOpen xs

/-- Where every table but the last section is closed, all lines are heard and no header is taken for
a row. -/
theorem heard_of_closed {xs : List Section} (h : ∀ x ∈ xs.dropLast, x.isOpen = false) :
    heard false xs = xs.filterMap text? ∧ taken false xs = 0 := by
  induction xs with
  | nil => exact ⟨rfl, rfl⟩
  | cons x xs ih =>
    cases xs with
    | nil => cases x <;> exact ⟨rfl, rfl⟩
    | cons y ys =>
      have hx := h x List.mem_cons_self
      obtain ⟨hheard, htaken⟩ := ih fun z hz => h z (List.mem_cons_of_mem x hz)
      constructor
      · rw [heard, hx, hheard]
        cases x <;> rfl
      · rw [taken, hx, htaken]
        rfl

end Section

/-! ### Lines of a table -/

namespace Line

variable {line : List Char}

/-- What starts with a mark tells nothing outside tables but perhaps that a table begins. -/
theorem silent_of_mark (h : (Text.trim line).head? = some '#') :
    server? line = none ∧ relay? line = none ∧ summary? line = none := by
  unfold server? relay? summary?
  rw [show Report.field? Report.serverKey (Text.trim line) = none from
      Report.field?_eq_none h (by decide),
    show Report.field? Report.relayKey (Text.trim line) = none from
      Report.field?_eq_none h (by decide),
    show Report.field? Report.playersKey (Text.trim line) = none from
      Report.field?_eq_none h (by decide)]
  exact ⟨rfl, rfl, rfl⟩

theorem mark_of_header (h : isHeader line = true) : (Text.trim line).head? = some '#' := by
  obtain ⟨rest, hrest⟩ := Option.isSome_iff_exists.mp h
  exact head?_of_after? hrest

/-- A header has a mark, and closes no table. -/
theorem row_of_header (h : isHeader line = true) : isRow line = true := by
  obtain ⟨rest, hrest⟩ := Option.isSome_iff_exists.mp h
  rw [isRow, Report.isRow, mark_of_header h, Text.eq_of_after? hrest]
  simp [Report.tableHeader, Report.tableEnd]

theorem isRow_of_closing (h : isClosing line = true) : isRow line = false := by
  rw [isRow, Report.isRow, of_decide_eq_true h]
  simp

theorem not_mark_of_line {text : List Char} (h : (Text.trim text).head? ≠ some '#') :
    isHeader text = false ∧ isRow text = false := by
  constructor
  · exact Bool.eq_false_iff.mpr fun hheader => h (mark_of_header hheader)
  · rw [isRow, Report.isRow]
    simp [h]

end Line

namespace Scan

open Section

variable {s : Scan} {x : Section} {xs : List Section}

/-- The rows of a table are counted, and nothing else is read from them. -/
theorem through_rows {rows : List (List Char)} (hs : s.inTable = true)
    (hrows : ∀ row ∈ rows, Line.isRow row = true) :
    s.through rows = { s with rows := s.rows.map (· + rows.length) } := by
  induction rows generalizing s with
  | nil =>
    show s = { s with rows := s.rows.map id }
    rw [Option.map_id]
    rfl
  | cons row rows ih =>
    have hrest := ih (s := { s with rows := s.rows.map (· + 1) }) hs
      fun r hr => hrows r (List.mem_cons_of_mem row hr)
    rw [through_cons, step_of_row hs (hrows row List.mem_cons_self), hrest, Option.map_map]
    congr 2
    funext n
    simp only [Function.comp_apply, List.length_cons]
    omega

/-- A header starts a table, or it is one more row of the table that is still open. -/
theorem step_of_header (hs : s.Counting) {header : List Char}
    (hheader : Line.isHeader header = true) :
    s.step header = { s with
      rows := some (s.rows.getD 0 + s.inTable.toNat), inTable := true } := by
  cases hin : s.inTable with
  | false =>
    obtain ⟨hserver, hrelay, hsummary⟩ := Line.silent_of_mark (Line.mark_of_header hheader)
    rw [step_of_outside hin, hserver, hrelay, hsummary, hheader]
    rfl
  | true =>
    obtain ⟨n, hn⟩ := Option.isSome_iff_exists.mp (hs hin)
    rw [step_of_row hin (Line.row_of_header hheader), hn]
    simp [hin]

/-- The line that closes a table tells nothing else. -/
theorem through_close {close : Option (List Char)} (hs : s.inTable = true)
    (hclose : ∀ l ∈ close, Line.isClosing l = true) :
    s.through close.toList = { s with inTable := close.isNone } := by
  cases close with
  | none => exact congrArg (fun inTable => { s with inTable }) hs
  | some l => exact step_of_end hs (Line.isRow_of_closing (hclose l rfl))

/-- What is read from a section: outside tables, what its line tells; inside one, that it goes on or
has ended. -/
theorem through_section (hs : s.Counting) (hx : x.Proper) :
    s.through x.lines = ⟨((if s.inTable then none else x.text?).bind Line.server?).or s.server,
      ((if s.inTable then none else x.text?).bind Line.relay?).or s.relay,
      ((if s.inTable then none else x.text?).bind Line.summary?).getD s.summary,
      if x.isTable then some (s.rows.getD 0 + s.inTable.toNat + x.rows.length) else s.rows,
      x.isOpen⟩ := by
  cases hx with
  | @line text h =>
    obtain ⟨hheader, hrow⟩ := Line.not_mark_of_line h
    show s.step text = _
    cases hin : s.inTable with
    | false =>
      rw [step_of_outside hin, hheader]
      rfl
    | true =>
      rw [step_of_end hin hrow]
      rfl
  | @table header rows close hheader hrows hclose =>
    show (s.step header).through (rows ++ close.toList) = _
    rw [step_of_header hs hheader, through_append, through_rows rfl fun r hr => (hrows r hr).1,
      through_close rfl hclose]
    cases s.inTable <;> cases close <;> rfl

theorem through_counting (hs : s.Counting) (lines : List (List Char)) :
    (s.through lines).Counting := by
  induction lines generalizing s with
  | nil => exact hs
  | cons line lines ih => exact ih (hs.step line)

/-- What the sections tell is told by the lines that are heard. -/
theorem last?_heard {α : Type} (tells : List Char → Option α) (follows : Bool) (x : Section)
    (xs : List Section) : Line.last? tells (heard follows (x :: xs)) =
      (Line.last? tells (heard x.isOpen xs)).or
        ((if follows then none else x.text?).bind tells) := by
  rw [heard]
  cases (if follows then none else x.text?) with
  | none => exact Option.or_none.symm
  | some text => exact Line.last?_cons text _

/-- What is read from all sections. -/
theorem through_sections (hs : s.Counting) (hxs : ∀ x ∈ xs, x.Proper) :
    (s.through (xs.flatMap Section.lines)).server =
      (Line.last? Line.server? (heard s.inTable xs)).or s.server ∧
    (s.through (xs.flatMap Section.lines)).relay =
      (Line.last? Line.relay? (heard s.inTable xs)).or s.relay ∧
    (s.through (xs.flatMap Section.lines)).rows.getD 0 =
      s.rows.getD 0 + (xs.flatMap Section.rows).length + taken s.inTable xs := by
  induction xs generalizing s with
  | nil => exact ⟨rfl, rfl, rfl⟩
  | cons x xs ih =>
    have hx := hxs x List.mem_cons_self
    obtain ⟨hserver, hrelay, hrows⟩ :=
      ih (through_counting hs x.lines) fun y hy => hxs y (List.mem_cons_of_mem x hy)
    rw [List.flatMap_cons, through_append, hserver, hrelay, hrows, through_section hs hx]
    refine ⟨?_, ?_, ?_⟩
    · rw [last?_heard, Option.or_assoc]
    · rw [last?_heard, Option.or_assoc]
    · simp only [taken, List.flatMap_cons, List.length_append]
      cases x with
      | line _ => simp [isTable, Section.rows]
      | table _ _ _ =>
        simp only [isTable, if_true, Option.getD_some, Bool.and_true]
        omega

/-- So many lines at most have been counted, and no summary is a number of more than 32 bits. -/
structure Within (s : Scan) (n : Nat) : Prop where
  rows : s.rows.getD 0 ≤ n
  summary : s.summary.getD 0 ≤ Text.maxWord32

theorem Within.step {n : Nat} (h : s.Within n) (line : List Char) :
    (s.step line).Within (n + 1) := by
  have hrows := h.rows
  cases hin : s.inTable with
  | false =>
    rw [step_of_outside hin]
    refine ⟨?_, ?_⟩
    · cases Line.isHeader line <;> exact Nat.le_succ_of_le hrows
    · show ((Line.summary? line).getD s.summary).getD 0 ≤ _
      cases hline : Line.summary? line with
      | none => exact h.summary
      | some summary =>
        cases summary with
        | none => exact Nat.zero_le _
        | some players =>
          obtain ⟨value, -, hvalue⟩ := Option.map_eq_some_iff.mp hline
          exact Text.natural?_le hvalue
  | true =>
    cases hrow : Line.isRow line with
    | true =>
      rw [step_of_row hin hrow]
      refine ⟨?_, h.summary⟩
      show (s.rows.map (· + 1)).getD 0 ≤ _
      cases hr : s.rows with
      | none => exact Nat.zero_le _
      | some r =>
        rw [hr] at hrows
        exact Nat.succ_le_succ hrows
    | false =>
      rw [step_of_end hin hrow]
      exact ⟨Nat.le_succ_of_le hrows, h.summary⟩

theorem Within.through {n : Nat} (h : s.Within n) (lines : List (List Char)) :
    (s.through lines).Within (n + lines.length) := by
  induction lines generalizing s n with
  | nil => exact h
  | cons line lines ih =>
    have := ih (h.step line)
    rwa [Nat.add_right_comm] at this

end Scan

/-- The players of fewer than 2³² lines are a number of 32 bits. -/
theorem Report.players_le {transcript : List Char}
    (h : (Text.lines transcript).length ≤ Text.maxWord32) :
    (read transcript).players ≤ Text.maxWord32 := by
  have hstart : ({} : Scan).Within 0 := ⟨Nat.le_refl 0, Nat.zero_le _⟩
  obtain ⟨hrows, hsummary⟩ := hstart.through (Text.lines transcript)
  show ((({} : Scan).through (Text.lines transcript)).rows.or
    (({} : Scan).through (Text.lines transcript)).summary).getD 0 ≤ _
  rw [Option.getD_or]
  cases hr : (({} : Scan).through (Text.lines transcript)).rows with
  | none => exact hsummary
  | some rows =>
    rw [hr, Nat.zero_add] at hrows
    exact Nat.le_trans hrows h

open Section

variable {transcript : List Char} {xs : List Section}

/-- A transcript with a table has a header. -/
theorem any_isHeader_of_table (hxs : ∀ x ∈ xs, x.Proper) (h : ∃ x ∈ xs, x.isTable = true) :
    (xs.flatMap Section.lines).any Line.isHeader = true := by
  obtain ⟨x, hx, htable⟩ := h
  cases hxs x hx with
  | line _ => cases htable
  | @table header rows close hheader _ _ =>
    exact List.any_eq_true.mpr
      ⟨header, List.mem_flatMap.mpr ⟨_, hx, List.mem_cons_self⟩, hheader⟩

/-- However lines outside tables and tables follow each other: where players and spectators connect
is told by the last address among the lines that do not follow an open table, and the players are
the rows of all tables, and besides the headers that follow an open table. Where every table but
perhaps the last section is closed, that is all lines outside tables, and no header. No count of
fewer than 2³² lines overflows. -/
theorem report_of_sections (hxs : ∀ x ∈ xs, x.Proper)
    (hlines : Text.lines transcript = xs.flatMap Section.lines) :
    (Report.read transcript).server = Line.last? Line.server? (heard false xs) ∧
    (Report.read transcript).relay = Line.last? Line.relay? (heard false xs) ∧
    ((∃ x ∈ xs, x.isTable = true) →
      (Report.read transcript).players = (xs.flatMap Section.rows).length + taken false xs) ∧
    ((Text.lines transcript).length ≤ Text.maxWord32 →
      (Report.read transcript).players ≤ Text.maxWord32) ∧
    ((∀ x ∈ xs.dropLast, x.isOpen = false) →
      heard false xs = xs.filterMap text? ∧ taken false xs = 0) := by
  obtain ⟨hserver, hrelay, hrows⟩ := Scan.through_sections Scan.counting_start hxs
  have hread : Report.read transcript =
      (({} : Scan).through (xs.flatMap Section.lines)).report := by
    rw [← hlines]
    rfl
  refine ⟨?_, ?_, fun htable => ?_, Report.players_le, heard_of_closed⟩
  · rw [hread]
    exact hserver.trans Option.or_none
  · rw [hread]
    exact hrelay.trans Option.or_none
  · have hsome := any_isHeader_of_table hxs htable
    rw [← Scan.rows_through] at hsome
    obtain ⟨n, hn⟩ := Option.isSome_iff_exists.mp hsome
    rw [hn] at hrows
    rw [hread]
    show ((({} : Scan).through (xs.flatMap Section.lines)).rows.or _).getD 0 = _
    rw [hn]
    simpa using hrows

/-- A closed table, an address, an open table with a header right behind it, and an address behind
that: the second address is not heard, and the header is counted. -/
theorem report_of_sections_mixed :
    let header := "# userid name".toList
    let xs : List Section := [.line "udp/ip : 10.0.0.5:27015".toList,
      .table header ["# 2 bot".toList] (some "#END".toList),
      .line "sourcetv: 10.0.0.6:27020, delay 30.0s".toList,
      .table header ["# 3 a".toList, "# 4 b".toList] none, .table header [] none,
      .line "udp/ip : 10.0.0.7:1".toList]
    let transcript := ("udp/ip : 10.0.0.5:27015\n# userid name\n# 2 bot\n#END\n" ++
      "sourcetv: 10.0.0.6:27020, delay 30.0s\n# userid name\n# 3 a\n# 4 b\n# userid name\n" ++
      "udp/ip : 10.0.0.7:1\n").toList
    heard false xs = ["udp/ip : 10.0.0.5:27015".toList,
      "sourcetv: 10.0.0.6:27020, delay 30.0s".toList] ∧
    (Report.read transcript).server = some ⟨"10.0.0.5".toList, some 27015⟩ ∧
    (Report.read transcript).relay = some ⟨"10.0.0.6".toList, some 27020⟩ ∧
    (Report.read transcript).players = 4 := by
  intro header xs transcript
  have hheader : Line.isHeader header = true := by decide +kernel
  have hxs : ∀ x ∈ xs, x.Proper := by
    simp only [xs, List.forall_mem_cons]
    exact ⟨.line (by decide +kernel), .table hheader (by decide +kernel) (by decide +kernel),
      .line (by decide +kernel), .table hheader (by decide +kernel) nofun,
      .table hheader nofun nofun, .line (by decide +kernel), nofun⟩
  have hlines : Text.lines transcript = xs.flatMap Section.lines := by decide +kernel
  obtain ⟨hserver, hrelay, hplayers, -, -⟩ := report_of_sections hxs hlines
  have htable : ∃ x ∈ xs, x.isTable = true := ⟨.table header [] none, by simp [xs], rfl⟩
  exact ⟨by decide +kernel, hserver.trans (by decide +kernel), hrelay.trans (by decide +kernel),
    (hplayers htable).trans (by decide +kernel)⟩

/-- Not every transcript is read as the sections it is made of: an address right behind an open
table is not heard, and a header there is counted as a row. -/
theorem exists_unheard_line :
    ¬∀ (transcript : List Char) (xs : List Section), (∀ x ∈ xs, x.Proper) →
      Text.lines transcript = xs.flatMap Section.lines →
      (Text.lines transcript).length ≤ Text.maxWord32 → (∃ x ∈ xs, x.isTable = true) →
      (Report.read transcript).players = (xs.flatMap Section.rows).length ∧
      (Report.read transcript).server = Line.last? Line.server? (xs.filterMap text?) ∧
      (Report.read transcript).relay = Line.last? Line.relay? (xs.filterMap text?) := by
  intro hclaim
  let header := "# userid name".toList
  let xs : List Section := [.table header ["# 2 \"a\" BOT active".toList] none,
    .table header ["# 3 \"b\" BOT active".toList] none,
    .line "udp/ip  : 10.0.0.5:27015".toList]
  let transcript := ("# userid name\n# 2 \"a\" BOT active\n# userid name\n" ++
    "# 3 \"b\" BOT active\nudp/ip  : 10.0.0.5:27015\n").toList
  have hheader : Line.isHeader header = true := by decide +kernel
  have hxs : ∀ x ∈ xs, x.Proper := by
    simp only [xs, List.forall_mem_cons]
    exact ⟨.table hheader (by decide +kernel) nofun, .table hheader (by decide +kernel) nofun,
      .line (by decide +kernel), nofun⟩
  have htable : ∃ x ∈ xs, x.isTable = true := ⟨_, List.mem_cons_self, rfl⟩
  obtain ⟨-, hserver, -⟩ := hclaim transcript xs hxs (by decide +kernel) (by decide +kernel) htable
  have hread : Report.read transcript = ⟨none, none, 3⟩ := by decide +kernel
  have htold : Line.last? Line.server? (xs.filterMap text?) =
      some ⟨"10.0.0.5".toList, some 27015⟩ := by decide +kernel
  rw [hread, htold] at hserver
  cases hserver

end GameFleet.Console
