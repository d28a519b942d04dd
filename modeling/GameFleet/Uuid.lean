import GameFleet.Text.Numeral

/-!
# Unique identifiers

- `Uuid`: 128 bits.
- `Uuid.text`: 32 small hexadecimal digits in groups of 8, 4, 4, 4 and 12 with hyphens between.
- `Uuid.read?`: that form or the bare digits, in any letter case; the hyphenated form may stand in
  braces or behind `urn:uuid:`.
- `Uuid.numbered`: one identifier of the random kind for each number, all different.
- `Uuid.text_injective`: different identifiers have different texts.
- `Uuid.read?_text`: an identifier is read from its text.
-/

namespace GameFleet

/-- A unique identifier. -/
structure Uuid where
  /-- The bits, as one number. -/
  bits : BitVec 128
  deriving DecidableEq, Inhabited

namespace Uuid

/-- The last `n` hexadecimal digits of a number, most significant first. -/
def hexDigits : (n : Nat) → (value : Nat) → List Char
  | 0, _ => []
  | n + 1, value => hexDigits n (value / 16) ++ [Text.digitChar (value % 16)]

/-- The digits without hyphens. -/
def digits (u : Uuid) : List Char := hexDigits 32 u.bits.toNat

/-- Hyphens between the groups of digits. -/
def hyphenated (ds : List Char) : List Char :=
  ds.take 8 ++ '-' :: (ds.drop 8).take 4 ++ '-' :: (ds.drop 12).take 4
    ++ '-' :: (ds.drop 16).take 4 ++ '-' :: ds.drop 20

/-- The hyphenated form. -/
def text (u : Uuid) : String := String.ofList (hyphenated u.digits)

/-- The identifier of 32 hexadecimal digits. -/
def ofDigits? (ds : List Char) : Option Uuid := do
  let values ← ds.mapM Text.hexDigit?
  if values.length = 32 then
    some ⟨BitVec.ofNat 128 (values.foldl (fun n d => n * 16 + d) 0)⟩
  else none

/-- The identifier of a hyphenated form. -/
def ofHyphenated? (cs : List Char) : Option Uuid :=
  let ds := cs.take 8 ++ (cs.drop 9).take 4 ++ (cs.drop 14).take 4 ++ (cs.drop 19).take 4
    ++ cs.drop 24
  if hyphenated ds = cs then ofDigits? ds else none

/-- The identifier of any accepted form. -/
def read? (s : String) : Option Uuid :=
  let cs := s.toList
  if cs.length = 32 then ofDigits? cs
  else if cs.length = 36 then ofHyphenated? cs
  else if cs.length = 38 then
    match cs with
    | '\x7b' :: rest => if rest.getLast? = some '\x7d' then ofHyphenated? rest.dropLast else none
    | _ => none
  else if cs.length = 45 then
    if (cs.take 9).map Char.toLower = "urn:uuid:".toList then ofHyphenated? (cs.drop 9) else none
  else none

/-- The identifier with a number, in the layout of random identifiers: version 4, variant 1. -/
def numbered (n : Nat) : Uuid :=
  ⟨0x9d1c6e2ab57f4c03a000000000000000#128 + BitVec.ofNat 128 (n % 0x1000000000000000)⟩

theorem length_hexDigits (n value : Nat) : (hexDigits n value).length = n := by
  induction n generalizing value with
  | zero => rfl
  | succ n ih => simp [hexDigits, ih]

/-- A number of at most that many digits is told by them. -/
theorem eq_of_hexDigits_eq {n v w : Nat} (hv : v < Nat.pow 16 n) (hw : w < Nat.pow 16 n)
    (h : hexDigits n v = hexDigits n w) : v = w := by
  induction n generalizing v w with
  | zero =>
    have hone : Nat.pow 16 0 = 1 := rfl
    omega
  | succ n ih =>
    have hpow : Nat.pow 16 (n + 1) = Nat.pow 16 n * 16 := rfl
    obtain ⟨hrest, hlast⟩ := List.append_inj' h rfl
    have hdiv : v / 16 = w / 16 := ih (by omega) (by omega) hrest
    have hmod : v % 16 = w % 16 := by
      have hread := congrArg Text.hexDigit? (List.singleton_inj.mp hlast)
      rwa [Text.hexDigit?_digitChar _ (by omega), Text.hexDigit?_digitChar _ (by omega),
        Option.some_inj] at hread
    omega

/-- Digits are their groups, one after another. -/
theorem groups (ds : List Char) : ds.take 8 ++ ((ds.drop 8).take 4 ++ ((ds.drop 12).take 4
    ++ ((ds.drop 16).take 4 ++ ds.drop 20))) = ds := by
  have hdrop : ∀ n, (ds.drop n).take 4 ++ ds.drop (n + 4) = ds.drop n := by
    intro n
    rw [← List.drop_drop, List.take_append_drop]
  rw [hdrop 16, hdrop 12, hdrop 8, List.take_append_drop]

/-- Hyphens hide no digit. -/
theorem eq_of_hyphenated_eq {ds es : List Char} (hlen : ds.length = es.length)
    (h : hyphenated ds = hyphenated es) : ds = es := by
  unfold hyphenated at h
  obtain ⟨h, h₅⟩ := List.append_inj h (by simp [hlen])
  obtain ⟨h, h₄⟩ := List.append_inj h (by simp [hlen])
  obtain ⟨h, h₃⟩ := List.append_inj h (by simp [hlen])
  obtain ⟨h₁, h₂⟩ := List.append_inj h (by simp [hlen])
  rw [← groups ds, ← groups es, h₁, (List.cons.inj h₂).2, (List.cons.inj h₃).2,
    (List.cons.inj h₄).2, (List.cons.inj h₅).2]

/-- An identifier is told by its text. -/
theorem text_injective {u v : Uuid} (h : u.text = v.text) : u = v := by
  have hdigits : u.digits = v.digits := by
    refine eq_of_hyphenated_eq ?_ (String.ofList_injective h)
    rw [digits, digits, length_hexDigits, length_hexDigits]
  have hbits := eq_of_hexDigits_eq u.bits.isLt v.bits.isLt hdigits
  cases u
  cases v
  exact congrArg mk (BitVec.eq_of_toNat_eq hbits)

/-- Hexadecimal digits are read as the number that they write. -/
theorem mapM_hexDigits (n value : Nat) (h : value < Nat.pow 16 n) :
    ∃ values, (hexDigits n value).mapM Text.hexDigit? = some values ∧ values.length = n ∧
      values.foldl (fun n d => n * 16 + d) 0 = value := by
  induction n generalizing value with
  | zero =>
    have hone : Nat.pow 16 0 = 1 := rfl
    exact ⟨[], rfl, rfl, by rw [List.foldl_nil]; omega⟩
  | succ n ih =>
    have hpow : Nat.pow 16 (n + 1) = Nat.pow 16 n * 16 := rfl
    obtain ⟨values, hread, hlen, hvalue⟩ := ih (value / 16) (by omega)
    refine ⟨values ++ [value % 16], ?_, by simp [hlen], ?_⟩
    · simp [hexDigits, hread, Text.hexDigit?_digitChar _ (Nat.mod_lt value (by decide : 0 < 16))]
    · rw [List.foldl_append, hvalue]
      simp only [List.foldl_cons, List.foldl_nil]
      omega

/-- The digits are found between the hyphens. -/
theorem ofHyphenated?_hyphenated {ds : List Char} (h : ds.length = 32) :
    ofHyphenated? (hyphenated ds) = ofDigits? ds := by
  have hdigits : (hyphenated ds).take 8 ++ ((hyphenated ds).drop 9).take 4
      ++ ((hyphenated ds).drop 14).take 4 ++ ((hyphenated ds).drop 19).take 4
      ++ (hyphenated ds).drop 24 = ds := by
    simp [hyphenated, List.drop_append, List.drop_take, h, groups]
  unfold ofHyphenated?
  dsimp only
  rw [hdigits, if_pos rfl]

/-- An identifier is read from its text. -/
theorem read?_text (u : Uuid) : read? u.text = some u := by
  have hlen : u.digits.length = 32 := length_hexDigits _ _
  have htext : u.text.toList = hyphenated u.digits := String.toList_ofList
  have hlen' : (hyphenated u.digits).length = 36 := by simp [hyphenated, hlen]
  obtain ⟨values, hread, hvalues, hvalue⟩ := mapM_hexDigits 32 u.bits.toNat u.bits.isLt
  unfold read?
  rw [htext]
  simp only [hlen', ofHyphenated?_hyphenated hlen]
  unfold ofDigits? digits
  rw [hread]
  simp only [Option.bind_eq_bind, Option.bind_some, hvalues, if_true, hvalue, BitVec.ofNat_toNat,
    BitVec.setWidth_eq]
  rfl

end Uuid

end GameFleet
