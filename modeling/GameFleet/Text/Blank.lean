/-!
# Blank characters and trimming

- `isBlank`: the characters with the `White_Space` property. The zero-width space and the
  byte-order mark are not among them.
- `trimStart`, `trimEnd`, `trim`: what is left of a text once the blanks at its ends are gone.
- `words`: the maximal runs of characters that are not blank.
-/

namespace GameFleet.Text

/-- The characters with the `White_Space` property. -/
def isBlank (c : Char) : Bool :=
  let n := c.toNat
  (0x09 ≤ n && n ≤ 0x0D) || n == 0x20 || n == 0x85 || n == 0xA0 || n == 0x1680
    || (0x2000 ≤ n && n ≤ 0x200A) || n == 0x2028 || n == 0x2029 || n == 0x202F
    || n == 0x205F || n == 0x3000

/-- The text without the blanks it starts with. -/
def trimStart (cs : List Char) : List Char := cs.dropWhile isBlank

/-- The text without the blanks it ends in. -/
def trimEnd (cs : List Char) : List Char := (cs.reverse.dropWhile isBlank).reverse

/-- The text without the blanks at either end. -/
def trim (cs : List Char) : List Char := trimEnd (trimStart cs)

/-- `trim` on strings. -/
def trimmed (s : String) : String := String.ofList (trim s.toList)

/-- Latin capital letters become small ones; every other character stays. -/
def lowered (s : String) : String := String.ofList (s.toList.map Char.toLower)

/-- Splits off the characters up to the first blank: the current word is gathered in reverse. -/
def wordsFrom (word : List Char) : List Char → List (List Char)
  | [] => if word.isEmpty then [] else [word.reverse]
  | c :: cs =>
    if isBlank c then
      if word.isEmpty then wordsFrom [] cs else word.reverse :: wordsFrom [] cs
    else wordsFrom (c :: word) cs

/-- The maximal runs of characters that are not blank, in order. -/
def words (cs : List Char) : List (List Char) := wordsFrom [] cs

/-- A text that starts with no blank keeps its start. -/
theorem trimStart_cons {c : Char} (cs : List Char) (h : isBlank c = false) :
    trimStart (c :: cs) = c :: cs := by
  simp [trimStart, h]

/-- Blanks in front do not change what trimming the front leaves. -/
theorem trimStart_append {bs : List Char} (cs : List Char) (h : ∀ b ∈ bs, isBlank b = true) :
    trimStart (bs ++ cs) = trimStart cs := by
  induction bs with
  | nil => rfl
  | cons b bs ih =>
    have hb := h b (by simp)
    have := ih fun x hx => h x (by simp [hx])
    simpa [trimStart, hb] using this

/-- What stands behind the last character that is not blank goes. -/
theorem trimEnd_append_cons {c : Char} (xs ys : List Char) (h : isBlank c = false) :
    trimEnd (xs ++ c :: ys) = xs ++ c :: trimEnd ys := by
  unfold trimEnd
  rw [List.reverse_append, List.reverse_cons, List.append_assoc, List.dropWhile_append]
  split
  · rename_i hys
    simp [List.isEmpty_iff.mp hys, h]
  · simp

/-- Blanks behind do not change what trimming the end leaves. -/
theorem trimEnd_append {bs : List Char} (cs : List Char) (h : ∀ b ∈ bs, isBlank b = true) :
    trimEnd (cs ++ bs) = trimEnd cs := by
  unfold trimEnd
  rw [List.reverse_append,
    List.dropWhile_append_of_pos fun b hb => h b (List.mem_reverse.mp hb)]

/-- Blanks behind do not change what trimming leaves. -/
theorem trim_append {bs : List Char} (cs : List Char) (h : ∀ b ∈ bs, isBlank b = true) :
    trim (cs ++ bs) = trim cs := by
  have hbs : bs.dropWhile isBlank = [] := by
    have hall := trimStart_append [] h
    rwa [List.append_nil] at hall
  unfold trim trimStart
  rw [List.dropWhile_append, hbs]
  split
  · rename_i hcs
    rw [List.isEmpty_iff.mp hcs]
  · exact trimEnd_append _ h

/-- A trimmed text starts with its first character that is not blank. -/
theorem trim_append_cons {bs : List Char} {c : Char} (cs : List Char)
    (h : ∀ b ∈ bs, isBlank b = true) (hc : isBlank c = false) :
    trim (bs ++ c :: cs) = c :: trimEnd cs := by
  unfold trim
  rw [trimStart_append _ h, trimStart_cons _ hc]
  exact trimEnd_append_cons [] cs hc

/-- A digit is not blank. -/
theorem isBlank_of_isDigit {c : Char} (h : c.isDigit = true) : isBlank c = false := by
  have hrange : 48 ≤ c.toNat ∧ c.toNat ≤ 57 := by
    simpa [Char.isDigit, UInt32.le_iff_toNat_le] using h
  simp [isBlank]
  omega

theorem wordsFrom_append {w : List Char} (hw : ∀ c ∈ w, isBlank c = false) (word rest : List Char) :
    wordsFrom word (w ++ rest) = wordsFrom (w.reverse ++ word) rest := by
  induction w generalizing word with
  | nil => rfl
  | cons c w ih =>
    rw [List.cons_append, wordsFrom, if_neg (Bool.eq_false_iff.mp (hw c List.mem_cons_self)),
      ih fun d hd => hw d (List.mem_cons_of_mem c hd)]
    simp

/-- The first word of a text that starts with it. -/
theorem head?_words_append {w rest : List Char} (hne : w ≠ []) (hw : ∀ c ∈ w, isBlank c = false)
    (hrest : ∀ c, rest.head? = some c → isBlank c = true) :
    (words (w ++ rest)).head? = some w := by
  rw [words, wordsFrom_append hw]
  cases rest with
  | nil => simp [wordsFrom, hne]
  | cons c rest => simp [wordsFrom, hrest c rfl, hne]

/-- What trimming the end leaves, the text starts with. -/
theorem trimEnd_prefix (cs : List Char) : trimEnd cs <+: cs := by
  obtain ⟨bs, h⟩ := List.dropWhile_suffix (l := cs.reverse) isBlank
  refine ⟨bs.reverse, ?_⟩
  rw [trimEnd, ← List.reverse_append, h, List.reverse_reverse]

/-- What trimming leaves of a text starts as the text does, unless nothing is left. -/
theorem head?_of_trimEnd {cs : List Char} {c : Char} (h : (trimEnd cs).head? = some c) :
    cs.head? = some c := by
  obtain ⟨bs, hbs⟩ := trimEnd_prefix cs
  rw [← hbs, List.head?_append, h]
  rfl

/-- Trimming the end keeps a word, whatever stands in front of it. -/
theorem trimEnd_append_word {word : List Char} (front rest : List Char) (hne : word ≠ [])
    (hword : ∀ c ∈ word, isBlank c = false) :
    trimEnd (front ++ word ++ rest) = front ++ word ++ trimEnd rest := by
  obtain ⟨start, c, rfl⟩ := (List.eq_nil_or_concat word).resolve_left hne
  have hc : isBlank c = false := hword c (by simp)
  have h := trimEnd_append_cons (front ++ start) rest hc
  simpa using h

/-- Trimming keeps a word, whatever blanks stand in front of it. -/
theorem trim_append_word {blanks word : List Char} (rest : List Char)
    (hblanks : ∀ b ∈ blanks, isBlank b = true) (hne : word ≠ [])
    (hword : ∀ c ∈ word, isBlank c = false) :
    trim (blanks ++ word ++ rest) = word ++ trimEnd rest := by
  have hend : trimEnd (word ++ rest) = word ++ trimEnd rest :=
    trimEnd_append_word [] rest hne hword
  rw [← hend, trim, List.append_assoc, trimStart_append _ hblanks]
  obtain ⟨c, cs, rfl⟩ := List.exists_cons_of_ne_nil hne
  rw [List.cons_append, trimStart_cons _ (hword c List.mem_cons_self)]

end GameFleet.Text
