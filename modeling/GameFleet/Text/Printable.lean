import GameFleet.Text.Category

/-!
# Characters that show on their own

A character shows on its own when it is a letter, digit, mark of punctuation, symbol or the plain
space. Controls, format characters, separators, surrogates, private and unassigned characters do
not show, and neither do the marks that extend the character before them and the fillers that
leave a place of a syllable empty.

- `shows`: whether a character shows on its own.
-/

namespace GameFleet.Text

/-- Letters that stand for the absence of one in a syllable. -/
def fillers : List Char := ['\u115F', '\u1160', '\u3164', '\uFFA0']

/-- Whether a character can stand in a text as itself. -/
def shows (c : Char) : Bool :=
  !Category.isSilent c && !Category.isExtending c && !fillers.contains c

end GameFleet.Text
