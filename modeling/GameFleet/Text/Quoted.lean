import GameFleet.Text.Numeral
import GameFleet.Text.Printable

/-!
# Quoted text

A quoted text stands between double quotes. Inside, the quote, the backslash and the common
controls are written with a backslash, and any other character that does not show on its own by its
number: `\\u` and the hexadecimal digits in braces.

- `escape`: how one character is written inside quotes.
- `quoted`: a text between quotes.
-/

namespace GameFleet.Text

/-- A character by its number. -/
def byNumber (c : Char) : List Char := ['\\', 'u', '\x7b'] ++ hexadecimal c.toNat ++ ['\x7d']

/-- A character as it is written between quotes. -/
def escape (c : Char) : List Char :=
  if c = '\x00' then ['\\', '0']
  else if c = '\t' then ['\\', 't']
  else if c = '\r' then ['\\', 'r']
  else if c = '\n' then ['\\', 'n']
  else if c = '"' then ['\\', '"']
  else if c = '\\' then ['\\', '\\']
  else if shows c then [c]
  else byNumber c

/-- A text between quotes. -/
def quoted (s : String) : String := String.ofList ('"' :: s.toList.flatMap escape ++ ['"'])

end GameFleet.Text
