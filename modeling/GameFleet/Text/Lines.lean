/-!
# Lines and pieces of a text

- `lines`: the text between line feeds; a carriage return right before the line feed, and an empty
  last line, do not count.
- `splitAtChar`: the pieces between the occurrences of one character.
- `splitOnce`: the text before and after the first occurrence of a character.
- `splitLast`: the text before and after the last occurrence of a character.
-/

namespace GameFleet.Text

/-- The pieces between the occurrences of `sep`. There is always at least one. -/
def splitAtChar (sep : Char) : List Char → List (List Char)
  | [] => [[]]
  | c :: cs =>
    if c = sep then [] :: splitAtChar sep cs
    else
      match splitAtChar sep cs with
      | [] => [[c]]
      | piece :: pieces => (c :: piece) :: pieces

/-- A line without the carriage return that may end it. -/
def withoutReturn (line : List Char) : List Char :=
  if line.getLast? = some '\r' then line.dropLast else line

/-- The lines among the pieces between line feeds: only the last piece has no line feed after it,
so it keeps a carriage return, and it is no line when it is empty. -/
def linesOf : List (List Char) → List (List Char)
  | [] => []
  | [last] => if last.isEmpty then [] else [last]
  | line :: rest => withoutReturn line :: linesOf rest

/-- The lines of a text. -/
def lines (cs : List Char) : List (List Char) := linesOf (splitAtChar '\n' cs)

/-- The text before and after the first `sep`. -/
def splitOnce (sep : Char) : List Char → Option (List Char × List Char)
  | [] => none
  | c :: cs => if c = sep then some ([], cs) else (splitOnce sep cs).map fun (a, b) => (c :: a, b)

/-- The text before and after the last `sep`. -/
def splitLast (sep : Char) (cs : List Char) : Option (List Char × List Char) :=
  (splitOnce sep cs.reverse).map fun (a, b) => (b.reverse, a.reverse)

/-- What follows `lead`, when the text starts with it. -/
def after? : (lead : List Char) → List Char → Option (List Char)
  | [], cs => some cs
  | _ :: _, [] => none
  | l :: ls, c :: cs => if l = c then after? ls cs else none

/-- Whether a text stands anywhere in another. -/
def contains (part : List Char) : List Char → Bool
  | [] => part.isEmpty
  | c :: cs => (after? part (c :: cs)).isSome || contains part cs

/-- The texts with `sep` between them. -/
def joined (sep : String) : List String → String
  | [] => ""
  | [s] => s
  | s :: rest => s ++ sep ++ joined sep rest

/-- A text without the separator is one piece. -/
theorem splitAtChar_eq_singleton {sep : Char} {cs : List Char} (h : sep ∉ cs) :
    splitAtChar sep cs = [cs] := by
  induction cs with
  | nil => rfl
  | cons c cs ih =>
    have hc : c ≠ sep := fun e => h (by simp [e])
    have hs : sep ∉ cs := fun e => h (by simp [e])
    simp [splitAtChar, hc, ih hs]

/-- The separator ends a piece that does not hold it. -/
theorem splitAtChar_append {sep : Char} {cs : List Char} (rest : List Char) (h : sep ∉ cs) :
    splitAtChar sep (cs ++ sep :: rest) = cs :: splitAtChar sep rest := by
  induction cs with
  | nil => simp [splitAtChar]
  | cons c cs ih =>
    have hc : c ≠ sep := fun e => h (by simp [e])
    have hs : sep ∉ cs := fun e => h (by simp [e])
    simp [splitAtChar, hc, ih hs]

/-- Texts without the separator are the pieces of what joins them, if there are any. -/
theorem splitAtChar_joined {sep : Char} {between : String} {texts : List String}
    (hsep : between.toList = [sep]) (hne : texts ≠ []) (h : ∀ s ∈ texts, sep ∉ s.toList) :
    splitAtChar sep (joined between texts).toList = texts.map String.toList := by
  induction texts with
  | nil => exact absurd rfl hne
  | cons s rest ih =>
    have hs := h s List.mem_cons_self
    cases rest with
    | nil => exact splitAtChar_eq_singleton hs
    | cons t rest =>
      have hrest := ih (List.cons_ne_nil t rest) fun u hu => h u (List.mem_cons_of_mem s hu)
      have hjoined : (joined between (s :: t :: rest)).toList =
          s.toList ++ sep :: (joined between (t :: rest)).toList := by
        simp [joined, hsep]
      rw [hjoined, splitAtChar_append _ hs, hrest]
      rfl

/-- A split at the first separator puts it back together. -/
theorem eq_of_splitOnce {sep : Char} {cs a b : List Char} (h : splitOnce sep cs = some (a, b)) :
    cs = a ++ sep :: b := by
  induction cs generalizing a b with
  | nil => simp [splitOnce] at h
  | cons c cs ih =>
    rw [splitOnce] at h
    split at h
    · rename_i hc
      simp only [Option.some.injEq, Prod.mk.injEq] at h
      obtain ⟨rfl, rfl⟩ := h
      simp [hc]
    · obtain ⟨⟨a', b'⟩, hp, he⟩ := Option.map_eq_some_iff.1 h
      simp only [Prod.mk.injEq] at he
      obtain ⟨rfl, rfl⟩ := he
      simp [ih hp]

/-- There is no separator before the first. -/
theorem not_mem_of_splitOnce {sep : Char} {cs a b : List Char}
    (h : splitOnce sep cs = some (a, b)) : sep ∉ a := by
  induction cs generalizing a b with
  | nil => cases h
  | cons c cs ih =>
    rw [splitOnce] at h
    split at h
    · cases h
      exact List.not_mem_nil
    · rename_i hc
      obtain ⟨⟨a', b'⟩, hp, he⟩ := Option.map_eq_some_iff.mp h
      cases he
      exact List.not_mem_cons_of_ne_of_not_mem (Ne.symm hc) (ih hp)

/-- What follows a lead that was found, put behind it, is the text. -/
theorem eq_of_after? {lead cs rest : List Char} (h : after? lead cs = some rest) :
    cs = lead ++ rest := by
  induction lead generalizing cs with
  | nil => simp_all [after?]
  | cons l ls ih =>
    cases cs with
    | nil => simp [after?] at h
    | cons c cs =>
      rw [after?] at h
      split at h
      · rename_i hl
        simp [hl, ih h]
      · simp at h

/-- What follows a lead that was put in front of a text is this text. -/
theorem after?_append (lead rest : List Char) : after? lead (lead ++ rest) = some rest := by
  induction lead with
  | nil => rfl
  | cons l ls ih =>
    show (if l = l then after? ls (ls ++ rest) else none) = some rest
    rw [if_pos rfl, ih]

/-- The first separator is the one before which there is none. -/
theorem splitOnce_append {sep : Char} {a : List Char} (b : List Char) (h : sep ∉ a) :
    splitOnce sep (a ++ sep :: b) = some (a, b) := by
  induction a with
  | nil => simp [splitOnce]
  | cons c a ih =>
    have hc : c ≠ sep := fun e => h (by simp [e])
    have ha : sep ∉ a := fun e => h (by simp [e])
    simp [splitOnce, hc, ih ha]

/-- The last separator is the one behind which there is none. -/
theorem splitLast_append {sep : Char} (a : List Char) {b : List Char} (h : sep ∉ b) :
    splitLast sep (a ++ sep :: b) = some (a, b) := by
  have hreverse : (a ++ sep :: b).reverse = b.reverse ++ sep :: a.reverse := by simp
  rw [splitLast, hreverse, splitOnce_append _ (by simpa using h)]
  simp

end GameFleet.Text
