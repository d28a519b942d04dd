import GameFleet.Proofs.Console.Rewriting

/-!
# Addresses in a status transcript (specification §4.5)

Players and spectators connect to an address each, and a line with the key of either tells it. The
last line outside tables that tells an address counts, and it tells host and port together.

- `Audience`: who connects; `Line.addressOf?`: what a line tells an audience.
- `Scan.outer`: the lines that are read outside tables.
- `Scan.addressOf_through`: the address after several lines.
- `PrintedAddress`: a line that tells an address in full; `PrintedAddress.addressOf?_line`: it is
  read back.
- `report_of_address`: the theorem.
-/

namespace GameFleet.Console

/-- Who connects to an address. -/
inductive Audience where
  | players
  | spectators
  deriving DecidableEq

/-- What a line with an address for an audience starts with. -/
def Audience.key : Audience → List Char
  | .players => Report.serverKey
  | .spectators => Report.relayKey

/-- Where an audience connects. -/
def Report.addressOf (r : Report) : Audience → Option Address
  | .players => r.server
  | .spectators => r.relay

/-- Where an audience connects, if a line tells it. -/
def Line.addressOf? (a : Audience) (line : List Char) : Option Address :=
  (Report.field? a.key (Text.trim line)).bind Report.address?

/-! ### Lines outside tables -/

namespace Scan

variable {a : Audience} {lines : List (List Char)}

/-- Where an audience connects, as far as a transcript has been read. -/
def addressOf (s : Scan) : Audience → Option Address
  | .players => s.server
  | .spectators => s.relay

/-- The lines that are read outside tables. -/
def outer (s : Scan) : List (List Char) → List (List Char)
  | [] => []
  | line :: lines => (if s.inTable then [] else [line]) ++ (s.step line).outer lines

theorem outer_sublist (s : Scan) (lines : List (List Char)) : (s.outer lines).Sublist lines := by
  induction lines generalizing s with
  | nil => exact .slnil
  | cons line lines ih =>
    rw [outer]
    split
    · exact .cons line (ih _)
    · exact .cons_cons line (ih _)

/-- Nothing in a table tells an address. -/
theorem addressOf_step (a : Audience) (s : Scan) (line : List Char) :
    (s.step line).addressOf a =
      if s.inTable then s.addressOf a else (Line.addressOf? a line).or (s.addressOf a) := by
  cases hin : s.inTable with
  | false =>
    rw [step_of_outside hin]
    cases a <;> rfl
  | true =>
    cases hrow : Line.isRow line with
    | true =>
      rw [step_of_row hin hrow]
      cases a <;> rfl
    | false =>
      rw [step_of_end hin hrow]
      cases a <;> rfl

/-- The last address that is told outside tables counts. -/
theorem addressOf_through (a : Audience) (s : Scan) (lines : List (List Char)) :
    (s.through lines).addressOf a =
      (Line.last? (Line.addressOf? a) (s.outer lines)).or (s.addressOf a) := by
  induction lines generalizing s with
  | nil => rfl
  | cons line lines ih =>
    rw [through_cons, ih, addressOf_step, outer]
    split
    · rfl
    · rw [List.singleton_append, Line.last?_cons, Option.or_assoc]

/-- Lines that tell no address leave the one that was told. -/
theorem addressOf_through_of_silent (s : Scan) (h : ∀ l ∈ lines, Line.addressOf? a l = none) :
    (s.through lines).addressOf a = s.addressOf a := by
  rw [addressOf_through, Line.last?_eq_none fun l hl => h l ((s.outer_sublist lines).subset hl)]
  exact Option.none_or

end Scan

/-- The address of a report is the last that is told outside tables. -/
theorem Report.addressOf_read (a : Audience) (transcript : List Char) :
    (read transcript).addressOf a =
      Line.last? (Line.addressOf? a) (({} : Scan).outer (Text.lines transcript)) := by
  have h := Scan.addressOf_through a {} (Text.lines transcript)
  cases a <;> exact h.trans Option.or_none

/-! ### Printed addresses -/

theorem Report.isBlank_of_isHostChar {c : Char} (h : isHostChar c = true) :
    Text.isBlank c = false := by
  unfold isHostChar Text.hexDigit? at h
  by_cases hc : c = '.'
  · subst hc
    decide
  · have hrange : 48 ≤ c.toNat ∧ c.toNat ≤ 102 := by
      simp only [hc, decide_false, Bool.or_false] at h
      split at h
      · omega
      · split at h
        · omega
        · split at h
          · omega
          · cases h
    simp [Text.isBlank]
    omega

/-- A word without the marks that follow it. -/
theorem Report.withoutMarks_append {word marks : List Char}
    (hword : ∀ c, word.getLast? = some c → c ≠ ',' ∧ c ≠ ';')
    (hmarks : ∀ m ∈ marks, m = ',' ∨ m = ';') : withoutMarks (word ++ marks) = word := by
  unfold withoutMarks
  rw [List.reverse_append, List.dropWhile_append_of_pos fun m hm => by
    simpa using hmarks m (List.mem_reverse.mp hm)]
  rw [← List.head?_reverse] at hword
  generalize hr : word.reverse = reversed at hword ⊢
  have hkeep : reversed.dropWhile (fun c => decide (c = ',') || decide (c = ';')) = reversed := by
    cases reversed with
    | nil => rfl
    | cons c cs =>
      obtain ⟨hcomma, hsemicolon⟩ := hword c rfl
      exact List.dropWhile_cons_of_neg (by simp [hcomma, hsemicolon])
  rw [hkeep, ← hr, List.reverse_reverse]

/-- A line that tells an address in full, as it may be printed. -/
structure PrintedAddress where
  /-- The blanks in front of the key, in front of the colon, and behind it. -/
  front : List Char
  between : List Char
  inner : List Char
  host : List Char
  port : Nat
  /-- The commas and semicolons behind the port. -/
  marks : List Char
  /-- Whatever else there is in the line. -/
  rest : List Char
  front_blank : ∀ b ∈ front, Text.isBlank b = true
  between_blank : ∀ b ∈ between, Text.isBlank b = true
  inner_blank : ∀ b ∈ inner, Text.isBlank b = true
  host_ne_nil : host ≠ []
  host_valid : ∀ c ∈ host, Report.isHostChar c = true
  port_le : port ≤ Text.maxWord16
  marks_only : ∀ m ∈ marks, m = ',' ∨ m = ';'
  rest_apart : ∀ c, rest.head? = some c → Text.isBlank c = true

namespace PrintedAddress

/-- The host, the port and the marks behind it. -/
def word (p : PrintedAddress) : List Char := p.host ++ ':' :: Text.decimal p.port ++ p.marks

/-- The line, with a key. -/
def line (p : PrintedAddress) (key : List Char) : List Char :=
  p.front ++ key ++ p.between ++ ':' :: (p.inner ++ p.word ++ p.rest)

/-- The address that is printed. -/
def address (p : PrintedAddress) : Address := ⟨p.host, some p.port⟩

variable (p : PrintedAddress)

theorem word_ne_nil : p.word ≠ [] := by
  simp [word]

theorem isBlank_of_mem_word : ∀ c ∈ p.word, Text.isBlank c = false := by
  intro c hc
  simp only [word, List.mem_append, List.mem_cons] at hc
  obtain (hc | rfl | hc) | hc := hc
  · exact Report.isBlank_of_isHostChar (p.host_valid c hc)
  · decide
  · exact Text.isBlank_of_isDigit (Text.isDigit_of_mem_decimal p.port c hc)
  · obtain rfl | rfl := p.marks_only c hc <;> decide

/-- The marks are told from the port, whose last character is a digit. -/
theorem withoutMarks_word : Report.withoutMarks p.word = p.host ++ ':' :: Text.decimal p.port := by
  refine Report.withoutMarks_append (fun c hc => ?_) p.marks_only
  have hdigit : c.isDigit = true := by
    obtain ⟨front, d, hd⟩ :=
      (List.eq_nil_or_concat (Text.decimal p.port)).resolve_left (Text.decimal_ne_nil p.port)
    have hlast : (p.host ++ ':' :: Text.decimal p.port).getLast? = some d := by
      rw [hd, List.concat_eq_append, ← List.cons_append, ← List.append_assoc]
      exact List.getLast?_concat
    refine Text.isDigit_of_mem_decimal p.port c ?_
    rw [← Option.some.inj (hlast.symm.trans hc), hd]
    simp
  constructor <;> (rintro rfl; revert hdigit; decide)

theorem address?_word {rest : List Char}
    (hrest : ∀ c, rest.head? = some c → Text.isBlank c = true) :
    Report.address? (p.word ++ rest) = some p.address := by
  have hcolon : ':' ∉ Text.decimal p.port := fun hmem => by
    have hdigit := Text.isDigit_of_mem_decimal p.port ':' hmem
    revert hdigit
    decide
  have hsplit := Text.splitLast_append p.host hcolon
  have hvalid : ¬(p.host.isEmpty = true ∨ (!p.host.all Report.isHostChar) = true) := by
    simpa [p.host_ne_nil] using p.host_valid
  unfold Report.address?
  rw [Text.head?_words_append p.word_ne_nil p.isBlank_of_mem_word hrest]
  simp only [Option.bind_eq_bind, Option.bind_some]
  rw [p.withoutMarks_word, hsplit]
  simp only [Text.natural?_decimal p.port_le]
  exact if_neg hvalid

/-- A printed address is read back. -/
theorem addressOf?_line (a : Audience) : Line.addressOf? a (p.line a.key) = some p.address := by
  have hkey : ∃ k key, a.key = k :: key ∧ Text.isBlank k = false := by
    cases a <;> exact ⟨_, _, rfl, by decide⟩
  obtain ⟨k, key, hk, hblank⟩ := hkey
  have hrest : ∀ c, (Text.trimEnd (Text.trimEnd p.rest)).head? = some c → Text.isBlank c = true :=
    fun c hc => p.rest_apart c (Text.head?_of_trimEnd (Text.head?_of_trimEnd hc))
  rw [Line.addressOf?, line, hk, Report.trim_keyed hblank p.front_blank,
    Report.field?_keyed p.between_blank, Option.bind_some,
    Text.trimEnd_append_word _ _ p.word_ne_nil p.isBlank_of_mem_word,
    Text.trim_append_word _ p.inner_blank p.word_ne_nil p.isBlank_of_mem_word]
  exact p.address?_word hrest

end PrintedAddress

/-! ### The theorem -/

/-- For each audience: the address that is printed in a line with its key is reported, if there is
no other such line and no header before it, whatever the other lines are. An address is reported
exactly when a line outside tables tells its host and port and no later one tells any. One more line
with the key but without a valid host leaves host and port as they were. -/
theorem report_of_address (a : Audience) :
    (∀ (transcript : List Char) (p : PrintedAddress) (before after : List (List Char)),
      Text.lines transcript = before ++ p.line a.key :: after →
      (∀ l ∈ before ++ after, Report.field? a.key (Text.trim l) = none) →
      (∀ l ∈ before, Line.isHeader l = false) →
      (Report.read transcript).addressOf a = some p.address) ∧
    (∀ (transcript : List Char) (address : Address),
      (Report.read transcript).addressOf a = some address ↔
      ∃ before line after, ({} : Scan).outer (Text.lines transcript) = before ++ line :: after ∧
        Line.addressOf? a line = some address ∧ ∀ l ∈ after, Line.addressOf? a l = none) ∧
    ∀ transcript transcript' line value : List Char,
      Text.lines transcript' = Text.lines transcript ++ [line] →
      Report.field? a.key (Text.trim line) = some value → Report.address? value = none →
      (Report.read transcript').addressOf a = (Report.read transcript).addressOf a := by
  have hread (transcript : List Char) : (Report.read transcript).addressOf a =
      (({} : Scan).through (Text.lines transcript)).addressOf a := by
    cases a <;> rfl
  refine ⟨fun transcript p before after hlines hother hheader => ?_, fun transcript address => ?_,
    fun transcript transcript' line value hlines hvalue hnone => ?_⟩
  · -- The lines before this one are outside tables, and so is it.
    have hin : (({} : Scan).through before).inTable = false := by
      rw [Scan.through_of_outside rfl hheader]
    have hsilent : ∀ l ∈ after, Line.addressOf? a l = none := fun l hl =>
      congrArg (Option.bind · Report.address?) (hother l (List.mem_append_right before hl))
    rw [hread, hlines, Scan.through_append, Scan.through_cons,
      Scan.addressOf_through_of_silent _ hsilent, Scan.addressOf_step, hin, if_neg nofun,
      p.addressOf?_line, Option.some_or]
  · rw [Report.addressOf_read]
    exact Line.last?_eq_some_iff
  · have hsilent : Line.addressOf? a line = none := by
      rw [Line.addressOf?, hvalue]
      exact hnone
    rw [hread, hread, hlines, Scan.through_append]
    exact Scan.addressOf_through_of_silent _ (List.forall_mem_singleton.mpr hsilent)

/-- An address with a letter in its host, much space and marks, in a transcript with carriage
returns and a table, and then a line that tells no address. -/
theorem report_of_address_spaced :
    let p : PrintedAddress :=
      { front := "\t ".toList, between := "  ".toList, inner := " ".toList, host := "fe.80".toList
        port := 65535, marks := ",;".toList, rest := ' ' :: "(local: 0.0.0.0:1)".toList
        front_blank := List.all_eq_true.mp rfl, between_blank := List.all_eq_true.mp rfl
        inner_blank := List.all_eq_true.mp rfl, host_ne_nil := by decide
        host_valid := List.all_eq_true.mp rfl, port_le := by decide, marks_only := by simp
        rest_apart := fun c hc => Option.some.inj hc ▸ rfl }
    let text := "players : 1\r\nsourcetv: 10.0.0.6:1\r\n# userid\r\n# 2 bot\r\n#end\r\n"
    let line := "\t udp/ip  : fe.80:65535,; (local: 0.0.0.0:1)"
    p.line Report.serverKey = line.toList ∧
    (Report.read ("map : x\n" ++ line ++ "\r\n" ++ text).toList).addressOf .players =
      some ⟨"fe.80".toList, some 65535⟩ ∧
    (∃ line, Line.addressOf? .spectators line = some ⟨"10.0.0.6".toList, some 1⟩ ∧
      line ∈ ({} : Scan).outer (Text.lines text.toList)) ∧
    (Report.read (text ++ "sourcetv: none:2").toList).addressOf .spectators =
      (Report.read text.toList).addressOf .spectators := by
  intro p text line
  refine ⟨by decide +kernel, ?_, ?_, ?_⟩
  · exact (report_of_address .players).1 _ p ["map : x".toList]
      ["players : 1".toList, "sourcetv: 10.0.0.6:1".toList, "# userid".toList, "# 2 bot".toList,
        "#end".toList] (by decide +kernel) (by decide +kernel) (by decide +kernel)
  · obtain ⟨before, line, after, houter, hline, -⟩ :=
      ((report_of_address .spectators).2.1 text.toList ⟨"10.0.0.6".toList, some 1⟩).mp
        (by decide +kernel)
    exact ⟨line, hline, houter ▸ List.mem_append_right before List.mem_cons_self⟩
  · exact (report_of_address .spectators).2.2 _ _ "sourcetv: none:2".toList "none:2".toList
      (by decide +kernel) (by decide +kernel) (by decide +kernel)

end GameFleet.Console
