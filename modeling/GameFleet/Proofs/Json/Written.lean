import GameFleet.Json.Untyped
import Mathlib.Tactic.SplitIfs

/-!
# Reading what was written

A value whose numbers are whole is read from its text as the tree of the value, with nothing left
over. Behind a value stands a comma or a bracket, or nothing.

- `Numeral.read?_intText`: a whole number is read as its digits.
- `Tree.pieces?_escape`, `Tree.stringBody?_chars`: a string is read as its characters, however they
  were escaped.
- `Value.IsIntegral`: the numbers of a value are whole.
- `Tree.read_chars`: the text of a value is read as its tree.
-/

namespace GameFleet.Json

/-- What may stand behind a value. -/
def Follows (rest : List Char) : Prop :=
  ∀ c, rest.head? = some c → c = ',' ∨ c = ']' ∨ c = '\x7d'

theorem follows_nil : Follows [] := by
  intro c h
  cases h

theorem follows_cons {c : Char} {rest : List Char} (h : c = ',' ∨ c = ']' ∨ c = '\x7d') :
    Follows (c :: rest) := by
  intro d hd
  cases hd
  exact h

/-! ## Numbers -/

namespace Numeral

/-- A whole number as it is written. -/
def ofInt (i : Int) : Numeral := ⟨decide (i < 0), Text.decimal i.natAbs, [], none⟩

theorem digitRun_append {ds rest : List Char} (hds : ∀ c ∈ ds, c.isDigit = true)
    (h : Follows rest) : digitRun (ds ++ rest) = (ds, rest) := by
  have hrest : rest.takeWhile Char.isDigit = [] ∧ rest.dropWhile Char.isDigit = rest := by
    cases rest with
    | nil => exact ⟨rfl, rfl⟩
    | cons c rest =>
      obtain rfl | rfl | rfl := h c rfl <;> exact ⟨rfl, rfl⟩
  unfold digitRun
  rw [List.takeWhile_append_of_pos hds, List.dropWhile_append_of_pos hds, hrest.1, hrest.2,
    List.append_nil]

theorem wholePart?_decimal (n : Nat) {rest : List Char} (h : Follows rest) :
    wholePart? (Text.decimal n ++ rest) = some (Text.decimal n, rest) := by
  unfold wholePart?
  rw [digitRun_append (Text.isDigit_of_mem_decimal n) h]
  split
  · rename_i heq
    exact absurd (Prod.mk.inj heq).1 (Text.decimal_ne_nil n)
  · rename_i heq
    rw [heq]
  · rename_i hne heq
    obtain ⟨hds, -⟩ := Prod.mk.inj heq
    exact absurd (Text.eq_nil_of_decimal hds) hne
  · rfl

theorem fractionPart?_of_follows {rest : List Char} (h : Follows rest) :
    fractionPart? rest = some ([], rest) := by
  cases rest with
  | nil => rfl
  | cons c rest => obtain rfl | rfl | rfl := h c rfl <;> rfl

theorem exponentPart?_of_follows {rest : List Char} (h : Follows rest) :
    exponentPart? rest = some (none, rest) := by
  cases rest with
  | nil => rfl
  | cons c rest => obtain rfl | rfl | rfl := h c rfl <;> rfl

theorem toList_negSucc (n : Nat) :
    (Text.intText (.negSucc n)).toList = '-' :: Text.decimal (n + 1) := by
  rw [Text.intText, Text.natText, String.toList_append, String.toList_ofList, String.toList_ofList]
  rfl

/-- A whole number is written with a digit or a minus sign in front. -/
theorem intText_eq_cons (i : Int) :
    ∃ c cs, (Text.intText i).toList = c :: cs ∧ (c.isDigit = true ∨ c = '-') := by
  cases i with
  | ofNat n =>
    obtain ⟨c, cs, hn, hc⟩ := Text.decimal_eq_cons n
    exact ⟨c, cs, by rw [Text.intText, Text.natText, hn, String.toList_ofList], .inl hc⟩
  | negSucc n => exact ⟨'-', _, toList_negSucc n, .inr rfl⟩

/-- A number behind its sign, if it has one. -/
def unsigned? (negative : Bool) (cs : List Char) : Option (Numeral × List Char) := do
  let (digits, cs) ← wholePart? cs
  let (fraction, cs) ← fractionPart? cs
  let (exponent, cs) ← exponentPart? cs
  return (⟨negative, digits, fraction, exponent⟩, cs)

theorem read?_minus (cs : List Char) : read? ('-' :: cs) = unsigned? true cs := rfl

theorem read?_of_isDigit {c : Char} (hc : c.isDigit = true) (cs : List Char) :
    read? (c :: cs) = unsigned? false (c :: cs) := by
  unfold read?
  split
  rename_i heq
  split at heq
  · rename_i hminus
    obtain ⟨rfl, -⟩ := List.cons.inj hminus
    cases hc
  · obtain ⟨rfl, rfl⟩ := Prod.mk.inj heq
    rfl

theorem unsigned?_decimal (negative : Bool) (n : Nat) {rest : List Char} (h : Follows rest) :
    unsigned? negative (Text.decimal n ++ rest) =
      some (⟨negative, Text.decimal n, [], none⟩, rest) := by
  unfold unsigned?
  rw [wholePart?_decimal n h]
  simp only [Option.bind_eq_bind, Option.bind_some, fractionPart?_of_follows h,
    exponentPart?_of_follows h]
  rfl

/-- A whole number is read as its digits. -/
theorem read?_intText (i : Int) {rest : List Char} (h : Follows rest) :
    read? ((Text.intText i).toList ++ rest) = some (ofInt i, rest) := by
  cases i with
  | ofNat n =>
    obtain ⟨c, ds, hn, hc⟩ := Text.decimal_eq_cons n
    rw [Text.intText, Text.natText, String.toList_ofList, hn, List.cons_append,
      read?_of_isDigit hc, ← List.cons_append, ← hn, unsigned?_decimal false n h]
    rfl
  | negSucc n =>
    rw [toList_negSucc, List.cons_append, read?_minus, unsigned?_decimal true (n + 1) h]
    simp only [ofInt, Int.negSucc_lt_zero, decide_true, Int.natAbs_negSucc]

theorem ofNumber_whole (i : Int) : ofNumber (.whole i) = ofInt i := by
  have hread := read?_intText i follows_nil
  rw [List.append_nil] at hread
  unfold ofNumber Number.text
  rw [hread]

/-- A whole number that 64 bits hold has its value. -/
theorem value?_ofNat {n : Nat} (h : n ≤ Text.maxWord64) : (ofInt n).value? = some (.whole n) := by
  have hneg : ¬((n : Int) < 0) := by omega
  simp only [value?, ofInt, List.isEmpty_nil, Option.isNone_none, and_self, if_true, hneg,
    decide_false, Bool.false_eq_true, if_false, Int.natAbs_natCast, Text.digitsValueFrom_decimal, h]

end Numeral

/-! ## Strings -/

namespace Tree

/-- A control without a letter of its own is read from its number. -/
theorem pieces?_control {c : Char} (h : c.toNat < 0x20) (cs : List Char) :
    pieces? (['\\', 'u', '0', '0'] ++ Text.hexByte c.toNat.toUInt8 ++ cs) =
      (pieces? cs).map fun p => (.char c :: p.1, p.2) := by
  have hbyte : c.toNat.toUInt8.toNat = c.toNat := by
    rw [Nat.toUInt8_eq, UInt8.toNat_ofNat', Nat.mod_eq_of_lt (by omega)]
  have hunit : unit? '0' '0' (Text.digitChar (c.toNat / 16)) (Text.digitChar (c.toNat % 16)) =
      some c.toNat := by
    have hzero : Text.hexDigit? '0' = some 0 := rfl
    unfold unit?
    rw [hzero, Text.hexDigit?_digitChar _ (by omega), Text.hexDigit?_digitChar _ (by omega)]
    simp only [Option.bind_eq_bind, Option.bind_some]
    exact congrArg some (by omega)
  have hpiece : Piece.ofUnit c.toNat = .char c := by
    unfold Piece.ofUnit
    rw [if_neg (by omega), Char.ofNat_toNat]
  simp only [Text.hexByte, hbyte, List.cons_append, List.nil_append, pieces?, hunit, hpiece,
    Option.bind_eq_bind, Option.bind_some]
  cases pieces? cs <;> rfl

/-- A character is read from how it stands in a string. -/
theorem pieces?_escape (c : Char) (cs : List Char) :
    pieces? (escape c ++ cs) = (pieces? cs).map fun p => (.char c :: p.1, p.2) := by
  have hletter : ∀ {e d : Char}, e ≠ 'u' → escaped? e = some d →
      pieces? ('\\' :: e :: cs) = (pieces? cs).map fun p => (.char d :: p.1, p.2) := by
    intro e d he hd
    rw [pieces?]
    · rw [hd]
      cases pieces? cs <;> rfl
    · rintro _ _ _ _ _ rfl
      exact absurd rfl he
  unfold escape
  split_ifs with hquote hslash _ _ _ _ _ hcontrol
  iterate 7
    · subst_vars
      exact hletter (by decide) rfl
  · exact pieces?_control hcontrol cs
  · rw [List.singleton_append, pieces?]
    · rw [if_neg (by simp [hcontrol, hslash])]
      cases pieces? cs <;> rfl
    · exact hquote
    · rintro _ _ _ _ _ rfl
      exact absurd rfl hslash
    · rintro _ _ rfl
      exact absurd rfl hslash

theorem pieces?_chars (cs rest : List Char) :
    pieces? (cs.flatMap escape ++ '"' :: rest) = some (cs.map .char, rest) := by
  induction cs with
  | nil => rw [List.flatMap_nil, List.nil_append, pieces?, List.map_nil]
  | cons c cs ih =>
    rw [List.flatMap_cons, List.append_assoc, pieces?_escape, ih]
    rfl

theorem text?_chars (cs : List Char) : Piece.text? (cs.map .char) = some cs := by
  induction cs with
  | nil => rfl
  | cons c cs ih => rw [List.map_cons, Piece.text?, ih, Option.map_some]

/-- A string is read as it is. -/
theorem stringBody?_chars (s : String) (rest : List Char) :
    stringBody? (s.toList.flatMap escape ++ '"' :: rest) = some (some s, rest) := by
  unfold stringBody?
  rw [pieces?_chars]
  simp only [Option.bind_eq_bind, Option.bind_some, text?_chars, Option.map_some,
    String.ofList_toList]
  rfl

end Tree

/-! ## Values -/

namespace Value

mutual
/-- The numbers of a value are whole. -/
def IsIntegral : Value → Prop
  | .number n => ∃ i, n = .whole i
  | .array items => AreIntegral items
  | .object members => MembersIntegral members
  | _ => True

/-- The numbers of items are whole. -/
def AreIntegral : List Value → Prop
  | [] => True
  | v :: vs => v.IsIntegral ∧ AreIntegral vs

/-- The numbers of members are whole. -/
def MembersIntegral : List (String × Value) → Prop
  | [] => True
  | (_, v) :: rest => v.IsIntegral ∧ MembersIntegral rest
end

/-- A number does not start like anything else. -/
theorem ne_of_number {c d : Char} (hc : c.isDigit = true ∨ c = '-') (hd : d.isDigit = false)
    (hminus : d ≠ '-') : c ≠ d := by
  rintro rfl
  obtain hc | hc := hc
  · rw [hd] at hc
    cases hc
  · exact hminus hc

theorem isSpace_of_number {c : Char} (hc : c.isDigit = true ∨ c = '-') :
    Tree.isSpace c = false := by
  unfold Tree.isSpace
  simp only [Bool.or_eq_false_iff, decide_eq_false_iff_not]
  exact ⟨⟨⟨ne_of_number hc rfl (by decide), ne_of_number hc rfl (by decide)⟩,
    ne_of_number hc rfl (by decide)⟩, ne_of_number hc rfl (by decide)⟩

/-- The first character of a value is no space, and does not end an array. -/
theorem chars_eq_cons {v : Value} (h : v.IsIntegral) :
    ∃ c cs, v.chars = c :: cs ∧ Tree.isSpace c = false ∧ c ≠ ']' := by
  cases v with
  | null => exact ⟨_, _, rfl, rfl, by decide⟩
  | bool b => cases b <;> exact ⟨_, _, rfl, rfl, by decide⟩
  | number n =>
    obtain ⟨i, rfl⟩ := h
    obtain ⟨c, cs, hcs, hc⟩ := Numeral.intText_eq_cons i
    exact ⟨c, cs, hcs, isSpace_of_number hc, ne_of_number hc rfl (by decide)⟩
  | string s => exact ⟨_, _, rfl, rfl, by decide⟩
  | array items => cases items <;> exact ⟨_, _, rfl, rfl, by decide⟩
  | object members => cases members <;> exact ⟨_, _, rfl, rfl, by decide⟩

theorem follows_itemChars (vs : List Value) (rest : List Char) :
    Follows (itemChars vs ++ rest) := by
  cases vs with
  | nil => exact follows_cons (.inr (.inl rfl))
  | cons v vs => exact follows_cons (.inl rfl)

theorem follows_memberChars (ms : List (String × Value)) (rest : List Char) :
    Follows (memberChars ms ++ rest) := by
  cases ms with
  | nil => exact follows_cons (.inr (.inr rfl))
  | cons m ms => exact follows_cons (.inl rfl)

end Value

namespace Tree

open Value

theorem skip_cons {c : Char} (h : isSpace c = false) (cs : List Char) :
    skip (c :: cs) = c :: cs := by
  simp [skip, h]

theorem readValue_number {fuel : Nat} {c : Char} {cs rest : List Char} {n : Numeral}
    (hc : c.isDigit = true ∨ c = '-') (h : Numeral.read? (c :: cs) = some (n, rest)) :
    readValue (fuel + 1) (c :: cs) = (number n, some rest) := by
  rw [readValue, skip_cons (isSpace_of_number hc)]
  split
  case h_7 => rw [h]
  all_goals
    rename_i heq
    exact absurd (List.cons.inj heq).1 (ne_of_number hc rfl (by decide))

theorem readValue_quote (fuel : Nat) (cs : List Char) :
    readValue (fuel + 1) ('"' :: cs) =
      match stringBody? cs with
      | some (s, rest) => (string s, some rest)
      | none => (broken, none) := rfl

theorem readValue_bracket (fuel : Nat) {c : Char} (hspace : isSpace c = false) (h : c ≠ ']')
    (cs : List Char) : readValue (fuel + 1) ('[' :: c :: cs) =
      (array (readItems fuel (c :: cs)).1, (readItems fuel (c :: cs)).2) := by
  have hbracket : skip ('[' :: c :: cs) = '[' :: c :: cs := skip_cons (by decide) _
  simp only [readValue, hbracket, skip_cons hspace]
  split
  · rename_i heq
    exact absurd (List.cons.inj heq).1 h
  · rfl

theorem readValue_brace (fuel : Nat) (cs : List Char) :
    readValue (fuel + 1) ('\x7b' :: '"' :: cs) =
      (object (readMembers fuel ('"' :: cs)).1, (readMembers fuel ('"' :: cs)).2) := rfl

theorem readItems_last {fuel : Nat} {cs rest : List Char} {t : Tree}
    (h : readValue fuel cs = (t, some (']' :: rest))) :
    readItems (fuel + 1) cs = ([t], some rest) := by
  rw [readItems, h]
  rfl

theorem readItems_more {fuel : Nat} {cs rest : List Char} {t : Tree}
    (h : readValue fuel cs = (t, some (',' :: rest))) :
    readItems (fuel + 1) cs = (t :: (readItems fuel rest).1, (readItems fuel rest).2) := by
  rw [readItems, h]
  rfl

/-- A member's name, and what is read behind it. -/
theorem readMembers_name (fuel : Nat) (n : String) (cs : List Char) :
    readMembers (fuel + 1) (stringChars n ++ ':' :: cs) =
      match readValue fuel cs with
      | (item, none) => ([(some n, item)], none)
      | (item, some rest) =>
        match skip rest with
        | '\x7d' :: rest => ([(some n, item)], some rest)
        | ',' :: rest => ((some n, item) :: (readMembers fuel rest).1, (readMembers fuel rest).2)
        | _ => ([(some n, item), (none, broken)], none) := by
  have hname := stringBody?_chars n (':' :: cs)
  rw [stringChars, List.append_assoc, List.cons_append, List.singleton_append, readMembers,
    skip_cons (by decide)]
  simp only [hname]
  rfl

theorem readMembers_last {fuel : Nat} {cs rest : List Char} {t : Tree} (n : String)
    (h : readValue fuel cs = (t, some ('\x7d' :: rest))) :
    readMembers (fuel + 1) (stringChars n ++ ':' :: cs) = ([(some n, t)], some rest) := by
  rw [readMembers_name, h]
  rfl

theorem readMembers_more {fuel : Nat} {cs rest : List Char} {t : Tree} (n : String)
    (h : readValue fuel cs = (t, some (',' :: rest))) :
    readMembers (fuel + 1) (stringChars n ++ ':' :: cs) =
      ((some n, t) :: (readMembers fuel rest).1, (readMembers fuel rest).2) := by
  rw [readMembers_name, h]
  rfl

mutual
/-- A value is read from its characters. Each step into a value needs fuel once for the value and
once for its place, and takes a character. -/
theorem readValue_chars : (v : Value) → v.IsIntegral → (fuel : Nat) → (rest : List Char) →
    Follows rest → 2 * v.chars.length ≤ fuel →
    readValue fuel (v.chars ++ rest) = (ofValue v, some rest)
  | v, hv, 0, _, _, hfuel => by
    obtain ⟨c, cs, hcs, -⟩ := chars_eq_cons hv
    rw [hcs, List.length_cons] at hfuel
    omega
  | .null, _, fuel + 1, rest, _, _ => rfl
  | .bool true, _, fuel + 1, rest, _, _ => rfl
  | .bool false, _, fuel + 1, rest, _, _ => rfl
  | .number n, hv, fuel + 1, rest, hrest, _ => by
    obtain ⟨i, rfl⟩ := hv
    obtain ⟨c, cs, hcs, hc⟩ := Numeral.intText_eq_cons i
    have hread := Numeral.read?_intText i hrest
    rw [hcs, List.cons_append] at hread
    rw [ofValue, Numeral.ofNumber_whole, chars, Number.text, hcs, List.cons_append]
    exact readValue_number hc hread
  | .string s, _, fuel + 1, rest, _, _ => by
    rw [chars, stringChars, List.cons_append, List.cons_append, List.append_assoc,
      List.singleton_append, readValue_quote, stringBody?_chars]
    rfl
  | .array [], _, fuel + 1, rest, _, _ => rfl
  | .array (v :: vs), hv, fuel + 1, rest, _, hfuel => by
    obtain ⟨c, cs, hcs, hspace, hend⟩ := chars_eq_cons hv.1
    have hitems := readItems_chars v vs hv.1 hv.2 fuel rest
      (by simp only [chars, List.length_append, List.length_cons] at hfuel; omega)
    rw [hcs, List.cons_append] at hitems
    rw [chars, List.append_assoc, List.cons_append, hcs, List.cons_append,
      readValue_bracket fuel hspace hend, hitems]
    rfl
  | .object [], _, fuel + 1, rest, _, _ => rfl
  | .object ((n, v) :: ms), hv, fuel + 1, rest, _, hfuel => by
    have hmembers := readMembers_chars n v ms hv.1 hv.2 fuel rest
      (by simp only [chars, List.length_append, List.length_cons] at hfuel ⊢; omega)
    rw [stringChars] at hmembers
    simp only [chars, stringChars, List.cons_append, List.append_assoc] at hmembers ⊢
    rw [readValue_brace, hmembers]
    rfl

theorem readItems_chars : (v : Value) → (vs : List Value) → v.IsIntegral → AreIntegral vs →
    (fuel : Nat) → (rest : List Char) → 2 * (v.chars.length + (itemChars vs).length) ≤ fuel →
    readItems fuel (v.chars ++ (itemChars vs ++ rest)) = (ofItems (v :: vs), some rest)
  | v, vs, hv, _, 0, _, hfuel => by
    obtain ⟨c, cs, hcs, -⟩ := chars_eq_cons hv
    rw [hcs, List.length_cons] at hfuel
    omega
  | v, [], hv, _, fuel + 1, rest, hfuel =>
    readItems_last (readValue_chars v hv fuel _ (follows_itemChars [] rest)
      (by simp only [itemChars, List.length_cons] at hfuel; omega))
  | v, w :: vs, hv, hvs, fuel + 1, rest, hfuel => by
    have hitems := readItems_chars w vs hvs.1 hvs.2 fuel rest
      (by simp only [itemChars, List.length_cons, List.length_append] at hfuel; omega)
    have hvalue := readValue_chars v hv fuel _ (follows_itemChars (w :: vs) rest)
      (by simp only [itemChars, List.length_cons, List.length_append] at hfuel; omega)
    simp only [itemChars, List.cons_append, List.append_assoc] at hvalue ⊢
    rw [readItems_more hvalue, hitems]
    rfl

theorem readMembers_chars : (n : String) → (v : Value) → (ms : List (String × Value)) →
    v.IsIntegral → MembersIntegral ms → (fuel : Nat) → (rest : List Char) →
    2 * ((stringChars n ++ ':' :: v.chars).length + (memberChars ms).length) ≤ fuel →
    readMembers fuel (stringChars n ++ ':' :: (v.chars ++ (memberChars ms ++ rest))) =
      (ofMembers ((n, v) :: ms), some rest)
  | n, v, ms, hv, _, 0, _, hfuel => by
    simp only [List.length_append, List.length_cons] at hfuel
    omega
  | n, v, [], hv, _, fuel + 1, rest, hfuel =>
    readMembers_last n (readValue_chars v hv fuel _ (follows_memberChars [] rest)
      (by simp only [memberChars, List.length_cons, List.length_append] at hfuel; omega))
  | n, v, (m, w) :: ms, hv, hms, fuel + 1, rest, hfuel => by
    have hmembers := readMembers_chars m w ms hms.1 hms.2 fuel rest
      (by simp only [memberChars, List.length_cons, List.length_append] at hfuel ⊢; omega)
    have hvalue := readValue_chars v hv fuel _ (follows_memberChars ((m, w) :: ms) rest)
      (by simp only [List.length_cons, List.length_append] at hfuel; omega)
    simp only [memberChars, List.cons_append, List.append_assoc] at hvalue ⊢
    rw [readMembers_more n hvalue, hmembers]
    rfl
end

/-- The text of a value is read as its tree, and nothing is left of it. -/
theorem read_chars {v : Value} (h : v.IsIntegral) : read v.chars = (ofValue v, some []) := by
  have := readValue_chars v h (2 * v.chars.length + 1) [] follows_nil (Nat.le_succ _)
  rwa [List.append_nil] at this

end Tree

end GameFleet.Json
