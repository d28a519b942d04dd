import GameFleet.Proofs.Console.Transcript

/-!
# What players write (specification §4.5)

The rows of a table hold names that players have chosen. Whatever stands in them behind their mark,
the report is the same: a row stays a row, and only that is read from it. The lines that sum up the
players count only where there is no table.

- `Rewritten`: two transcripts with different texts in some lines.
- `RowRewritten`, `SummaryRewritten`: a row with another text, a summary with another value.
- `Scan.Alike`: two readings that differ in the summary at most.
- `Report.firstNumber?_eq`: the number of a value is its first run of digits.
- `report_of_rewritten`: the theorem.
-/

namespace GameFleet.Console

/-- Two lists of lines in which some lines differ, each as is said of it and of the reading before
it in the first list. -/
inductive Rewritten (differ : Scan → List Char → List Char → Prop) :
    Scan → List (List Char) → List (List Char) → Prop where
  | nil (s : Scan) : Rewritten differ s [] []
  | same {s : Scan} {lines lines' : List (List Char)} (line : List Char)
    (h : Rewritten differ (s.step line) lines lines') :
    Rewritten differ s (line :: lines) (line :: lines')
  | other {s : Scan} {line line' : List Char} {lines lines' : List (List Char)}
    (hline : differ s line line') (h : Rewritten differ (s.step line) lines lines') :
    Rewritten differ s (line :: lines) (line' :: lines')

/-- A line that counts as a row has another text behind its mark, by which it does not become the
end of the table. -/
structure RowRewritten (s : Scan) (line line' : List Char) : Prop where
  inTable : s.inTable = true
  isRow : Line.isRow line = true
  mark : ∃ blanks text text', (∀ b ∈ blanks, Text.isBlank b = true) ∧
    line = blanks ++ '#' :: text ∧ line' = blanks ++ '#' :: text'
  noEnd : (Text.trim line').map Char.toLower ≠ Report.tableEnd

/-- A line that sums up the players has another value behind its colon. -/
def SummaryRewritten (_ : Scan) (line line' : List Char) : Prop :=
  ∃ blanks between value value', (∀ b ∈ blanks, Text.isBlank b = true) ∧
    (∀ b ∈ between, Text.isBlank b = true) ∧
    line = blanks ++ Report.playersKey ++ between ++ ':' :: value ∧
    line' = blanks ++ Report.playersKey ++ between ++ ':' :: value'

variable {s s' : Scan} {line line' : List Char} {lines lines' : List (List Char)}

/-! ### Rows -/

/-- A rewritten row is a row. -/
theorem RowRewritten.isRow' (h : RowRewritten s line line') : Line.isRow line' = true := by
  obtain ⟨blanks, text, text', hblanks, -, hline'⟩ := h.mark
  have htrim : Text.trim line' = '#' :: Text.trimEnd text' := by
    rw [hline']
    exact Text.trim_append_cons text' hblanks (by decide)
  have hend := h.noEnd
  rw [htrim] at hend
  rw [Line.isRow, Report.isRow, htrim]
  simpa using hend

theorem RowRewritten.step_eq (h : RowRewritten s line line') : s.step line' = s.step line := by
  rw [Scan.step_of_row h.inTable h.isRow, Scan.step_of_row h.inTable h.isRow']

/-- Whatever stands in the rows, the transcript is read as before. -/
theorem through_of_rowsRewritten (h : Rewritten RowRewritten s lines lines') :
    s.through lines' = s.through lines := by
  induction h with
  | nil s => rfl
  | same line _ ih => exact ih
  | other hline _ ih =>
    rw [Scan.through_cons, Scan.through_cons, hline.step_eq]
    exact ih

/-! ### Summaries -/

/-- Two readings differ in the summary at most. -/
def Scan.Alike (s s' : Scan) : Prop := s' = { s with summary := s'.summary }

/-- The summary makes no difference to what else a line tells. -/
theorem Scan.Alike.step (h : s.Alike s') (line : List Char) :
    (s.step line).Alike (s'.step line) := by
  unfold Alike at h
  have hin : s'.inTable = s.inTable := by rw [h]
  cases hs : s.inTable with
  | false =>
    rw [step_of_outside hs, step_of_outside (hin.trans hs), h]
    rfl
  | true =>
    cases hrow : Line.isRow line with
    | true =>
      rw [step_of_row hs hrow, step_of_row (hin.trans hs) hrow, h]
      rfl
    | false =>
      rw [step_of_end hs hrow, step_of_end (hin.trans hs) hrow, h]
      rfl

/-- What tells a key, a colon and a value apart: blanks do not count. -/
theorem Report.trim_keyed {k : Char} {key blanks between : List Char}
    (hk : Text.isBlank k = false) (hblanks : ∀ b ∈ blanks, Text.isBlank b = true)
    (value : List Char) :
    Text.trim (blanks ++ k :: key ++ between ++ ':' :: value)
      = k :: key ++ between ++ ':' :: Text.trimEnd value := by
  have hline : blanks ++ k :: key ++ between ++ ':' :: value
      = blanks ++ k :: (key ++ between ++ ':' :: value) := by
    simp only [List.append_assoc, List.cons_append]
  rw [hline, Text.trim_append_cons _ hblanks hk,
    Text.trimEnd_append_cons (key ++ between) value (by decide)]
  rfl

theorem Report.field?_keyed {key between : List Char}
    (hbetween : ∀ b ∈ between, Text.isBlank b = true) (value : List Char) :
    field? key (key ++ between ++ ':' :: value) = some (Text.trim value) := by
  have hcolon : Text.trimStart (between ++ ':' :: value) = ':' :: value := by
    rw [Text.trimStart_append _ hbetween, Text.trimStart_cons _ (by decide)]
  unfold field?
  rw [List.append_assoc, Text.after?_append]
  show (Text.after? [':'] (Text.trimStart (between ++ ':' :: value))).bind _ = _
  rw [hcolon]
  show (Text.after? [':'] ([':'] ++ value)).bind _ = _
  rw [Text.after?_append]
  rfl

/-- A line that sums up the players tells nothing else, and is no row. -/
theorem summary_step {blanks between : List Char} (hblanks : ∀ b ∈ blanks, Text.isBlank b = true)
    (hbetween : ∀ b ∈ between, Text.isBlank b = true) (value : List Char) (s : Scan) :
    s.step (blanks ++ Report.playersKey ++ between ++ ':' :: value) = { s with
      summary := if s.inTable then s.summary
        else Report.firstNumber? (Text.trim (Text.trimEnd value))
      inTable := false } := by
  have htrim : Text.trim (blanks ++ Report.playersKey ++ between ++ ':' :: value)
      = Report.playersKey ++ between ++ ':' :: Text.trimEnd value :=
    Report.trim_keyed (by decide) hblanks value
  have hfield : Report.field? Report.playersKey
      (Report.playersKey ++ between ++ ':' :: Text.trimEnd value)
      = some (Text.trim (Text.trimEnd value)) := Report.field?_keyed hbetween _
  generalize blanks ++ Report.playersKey ++ between ++ ':' :: value = line at htrim ⊢
  have hhead : (Text.trim line).head? = some 'p' := by
    rw [htrim]
    rfl
  cases hin : s.inTable with
  | false =>
    have hserver : Line.server? line = none := by
      rw [Line.server?, show Report.field? Report.serverKey (Text.trim line) = none from
        Report.field?_eq_none hhead (by decide)]
      rfl
    have hrelay : Line.relay? line = none := by
      rw [Line.relay?, show Report.field? Report.relayKey (Text.trim line) = none from
        Report.field?_eq_none hhead (by decide)]
      rfl
    have hheader : Line.isHeader line = false := by
      rw [Line.isHeader, show Text.after? Report.tableHeader (Text.trim line) = none from
        after?_eq_none hhead (by decide)]
      rfl
    have hsummary : Line.summary? line =
        some (Report.firstNumber? (Text.trim (Text.trimEnd value))) := by
      rw [Line.summary?, htrim]
      exact congrArg (Option.map Report.firstNumber?) hfield
    rw [Scan.step_of_outside hin, hserver, hrelay, hheader, hsummary]
    rfl
  | true =>
    have hrow : Line.isRow line = false := by
      rw [Line.isRow, Report.isRow, hhead]
      rfl
    rw [Scan.step_of_end hin hrow]
    rfl

/-- The value of a summary makes no difference but to the summary. -/
theorem SummaryRewritten.step (h : SummaryRewritten s line line') (hs : s.Alike s') :
    (s.step line).Alike (s'.step line') := by
  obtain ⟨blanks, between, value, value', hblanks, hbetween, rfl, rfl⟩ := h
  rw [summary_step hblanks hbetween, summary_step hblanks hbetween]
  unfold Scan.Alike at hs ⊢
  rw [hs]

theorem alike_of_summariesRewritten (h : Rewritten SummaryRewritten s lines lines')
    (hs : s.Alike s') : (s.through lines).Alike (s'.through lines') := by
  induction h generalizing s' with
  | nil s => exact hs
  | same line _ ih => exact ih (hs.step line)
  | other hline _ ih => exact ih (hline.step hs)

/-- Once rows are counted the summary is not reported. -/
theorem Scan.Alike.report_eq (h : s.Alike s') (hrows : s.rows.isSome = true) :
    s'.report = s.report := by
  unfold Alike at h
  obtain ⟨n, hn⟩ := Option.isSome_iff_exists.mp hrows
  rw [h, report, report, hn]
  rfl

/-! ### The number of a summary -/

/-- The number of a value is its first run of digits, if that is a number of 32 bits. -/
theorem Report.firstNumber?_eq {front run back : List Char}
    (hfront : ∀ c ∈ front, c.isDigit = false) (hrun : ∀ c ∈ run, c.isDigit = true)
    (hne : run ≠ []) (hback : ∀ c, back.head? = some c → c.isDigit = false) :
    firstNumber? (front ++ run ++ back) =
      if Text.digitsValueFrom 0 run ≤ Text.maxWord32 then some (Text.digitsValueFrom 0 run)
      else none := by
  have hdrop : (front ++ run ++ back).dropWhile (fun c => !c.isDigit) = run ++ back := by
    rw [List.append_assoc, List.dropWhile_append_of_pos fun c hc => by simp [hfront c hc]]
    obtain ⟨c, cs, rfl⟩ := List.exists_cons_of_ne_nil hne
    exact List.dropWhile_cons_of_neg (by simp [hrun c List.mem_cons_self])
  have htake : (run ++ back).takeWhile Char.isDigit = run := by
    rw [List.takeWhile_append_of_pos hrun]
    cases back with
    | nil => simp
    | cons c back => simp [hback c rfl]
  rw [firstNumber?, hdrop, htake, Text.natural?_of_digits hne hrun]

theorem Report.firstNumber?_eq_none {value : List Char} (h : ∀ c ∈ value, c.isDigit = false) :
    firstNumber? value = none := by
  have hdrop : value.dropWhile (fun c => !c.isDigit) = [] := by
    have hall : (value ++ []).dropWhile (fun c : Char => !c.isDigit) = [].dropWhile _ :=
      List.dropWhile_append_of_pos fun c hc => by simp [h c hc]
    rwa [List.append_nil] at hall
  rw [firstNumber?, hdrop]
  rfl

/-- Without a header the players are those of the last line that sums them up. -/
theorem Report.players_of_noHeader {transcript : List Char}
    (h : (Text.lines transcript).any Line.isHeader = false) :
    (read transcript).players
      = ((Line.last? Line.summary? (Text.lines transcript)).getD none).getD 0 := by
  have hlines : ∀ line ∈ Text.lines transcript, Line.isHeader line = false := by
    intro line hline
    exact Bool.eq_false_iff.mpr (List.any_eq_false.mp h line hline)
  show (Scan.report (({} : Scan).through (Text.lines transcript))).players = _
  rw [Scan.through_of_outside rfl hlines]
  rfl

/-! ### The theorem -/

/-- Whatever text stands behind the marks of the rows, the report is the same. If there is a header,
whatever values stand in the lines that sum up the players, the report is the same. If there is
none, the players are those of the last such line: the number that its first run of digits spells,
if that has 32 bits, and else none. -/
theorem report_of_rewritten :
    (∀ transcript transcript', Rewritten RowRewritten {} (Text.splitAtChar '\n' transcript)
        (Text.splitAtChar '\n' transcript') →
      Report.read transcript' = Report.read transcript) ∧
    (∀ transcript transcript', Rewritten SummaryRewritten {} (Text.splitAtChar '\n' transcript)
        (Text.splitAtChar '\n' transcript') →
      (∃ line ∈ Text.lines transcript, Line.isHeader line = true) →
      Report.read transcript' = Report.read transcript) ∧
    ∀ transcript, (∀ line ∈ Text.lines transcript, Line.isHeader line = false) →
      ((∀ line ∈ Text.lines transcript,
          Report.field? Report.playersKey (Text.trim line) = none) →
        (Report.read transcript).players = 0) ∧
      ∀ before line after value, Text.lines transcript = before ++ line :: after →
        Report.field? Report.playersKey (Text.trim line) = some value →
        (∀ l ∈ after, Report.field? Report.playersKey (Text.trim l) = none) →
        ((∀ c ∈ value, c.isDigit = false) → (Report.read transcript).players = 0) ∧
        ∀ front run back, value = front ++ run ++ back → (∀ c ∈ front, c.isDigit = false) →
          (∀ c ∈ run, c.isDigit = true) → run ≠ [] →
          (∀ c, back.head? = some c → c.isDigit = false) →
          (Report.read transcript).players =
            if Text.digitsValueFrom 0 run ≤ Text.maxWord32 then Text.digitsValueFrom 0 run
            else 0 := by
  refine ⟨fun transcript transcript' h => ?_, fun transcript transcript' h hheader => ?_,
    fun transcript hheader => ?_⟩
  · rw [Report.read_eq_pieces, Report.read_eq_pieces, through_of_rowsRewritten h]
  · have halike : (({} : Scan).through (Text.splitAtChar '\n' transcript)).Alike
        (({} : Scan).through (Text.splitAtChar '\n' transcript')) :=
      alike_of_summariesRewritten h rfl
    rw [Report.read_eq_pieces, Report.read_eq_pieces]
    refine halike.report_eq ?_
    rw [Scan.rows_through, ← Line.any_isHeader_linesOf]
    exact List.any_eq_true.mpr hheader
  · have hplayers := Report.players_of_noHeader
      (List.any_eq_false.mpr fun line hl => Bool.eq_false_iff.mp (hheader line hl))
    refine ⟨fun hnone => ?_, fun before line after value hlines hvalue hafter => ?_⟩
    · have hnothing : ∀ line ∈ Text.lines transcript, Line.summary? line = none :=
        fun line hl => congrArg (Option.map Report.firstNumber?) (hnone line hl)
      rw [hplayers, Line.last?_eq_none hnothing]
      rfl
    · have hline : Line.summary? line = some (Report.firstNumber? value) :=
        congrArg (Option.map Report.firstNumber?) hvalue
      have hlater : ∀ l ∈ after, Line.summary? l = none :=
        fun l hl => congrArg (Option.map Report.firstNumber?) (hafter l hl)
      have hlast : (Report.read transcript).players = (Report.firstNumber? value).getD 0 := by
        rw [hplayers, hlines, Line.last?_eq_some hline hlater]
        rfl
      refine ⟨fun hdigits => ?_, fun front run back hsplit hfront hrun hne hback => ?_⟩
      · rw [hlast, Report.firstNumber?_eq_none hdigits]
        rfl
      · rw [hlast, hsplit, Report.firstNumber?_eq hfront hrun hne hback]
        split <;> rfl

/-- A player's name that looks like an address, another value of the line that sums up the players,
and that line where there is no table. -/
theorem report_of_rewritten_address :
    let named (name : List Char) : List Char :=
      "udp/ip : 10.0.0.5:27015\n# userid name\n  #".toList ++ name ++ "\n".toList
    let counted (value : List Char) : List Char :=
      "players :".toList ++ value ++ "\n# userid\n# 2 bot".toList
    Report.read (named " udp/ip : 6.6.6.6:1\r".toList) = Report.read (named " 2 bot".toList) ∧
    Report.read (named " 2 bot".toList) = ⟨some ⟨"10.0.0.5".toList, some 27015⟩, none, 1⟩ ∧
    Report.read (counted " 99".toList) = Report.read (counted " 7 humans".toList) ∧
    (Report.read "players : 7 humans, 5 bots".toList).players = 7 := by
  intro named counted
  refine ⟨report_of_rewritten.1 _ _ ?_, by decide +kernel, report_of_rewritten.2.1 _ _ ?_ ?_, ?_⟩
  · have hbefore : Text.splitAtChar '\n' (named " 2 bot".toList) =
        ["udp/ip : 10.0.0.5:27015".toList, "# userid name".toList, "  # 2 bot".toList, []] := by
      decide +kernel
    have hafter : Text.splitAtChar '\n' (named " udp/ip : 6.6.6.6:1\r".toList) =
        ["udp/ip : 10.0.0.5:27015".toList, "# userid name".toList,
          "  # udp/ip : 6.6.6.6:1\r".toList, []] := by decide +kernel
    rw [hbefore, hafter]
    refine .same _ (.same _ (.other ⟨by decide +kernel, by decide +kernel, ?_, by decide +kernel⟩
      (.same _ (.nil _))))
    exact ⟨"  ".toList, " 2 bot".toList, " udp/ip : 6.6.6.6:1\r".toList,
      List.all_eq_true.mp (by decide +kernel), by decide +kernel, by decide +kernel⟩
  · have hbefore : Text.splitAtChar '\n' (counted " 7 humans".toList) =
        ["players : 7 humans".toList, "# userid".toList, "# 2 bot".toList] := by decide +kernel
    have hafter : Text.splitAtChar '\n' (counted " 99".toList) =
        ["players : 99".toList, "# userid".toList, "# 2 bot".toList] := by decide +kernel
    rw [hbefore, hafter]
    refine .other ⟨[], " ".toList, " 7 humans".toList, " 99".toList, nofun,
      List.all_eq_true.mp (by decide +kernel), by decide +kernel, by decide +kernel⟩
      (.same _ (.same _ (.nil _)))
  · exact ⟨"# userid".toList, by decide +kernel, by decide +kernel⟩
  · have hlines : Text.lines "players : 7 humans, 5 bots".toList =
        [] ++ "players : 7 humans, 5 bots".toList :: [] := by decide +kernel
    have hno : ∀ line ∈ Text.lines "players : 7 humans, 5 bots".toList,
        Line.isHeader line = false := by decide +kernel
    have hback : " humans, 5 bots".toList.head? = some ' ' := by decide +kernel
    have hplayers := ((report_of_rewritten.2.2 _ hno).2 _ _ _ "7 humans, 5 bots".toList hlines
      (by decide +kernel) nofun).2 [] ['7'] " humans, 5 bots".toList (by decide +kernel) nofun
      (List.all_eq_true.mp rfl) nofun fun c hc => Option.some.inj (hback.symm.trans hc) ▸ rfl
    rw [hplayers]
    decide +kernel

end GameFleet.Console
