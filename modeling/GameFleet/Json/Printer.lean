import GameFleet.Json.Value
import GameFleet.Number.Shortest
import GameFleet.Text.Lines

/-!
# Writing JSON

Values are written without space, members in their order. In strings the quote, the backslash and
the controls are escaped, the common controls by a letter and the others by number; every other
character stands for itself.

- `Value.text`: the text of a value.
-/

namespace GameFleet.Json

/-- A character as it stands inside a string. -/
def escape (c : Char) : List Char :=
  if c = '"' then ['\\', '"']
  else if c = '\\' then ['\\', '\\']
  else if c = '\x08' then ['\\', 'b']
  else if c = '\x0c' then ['\\', 'f']
  else if c = '\n' then ['\\', 'n']
  else if c = '\r' then ['\\', 'r']
  else if c = '\t' then ['\\', 't']
  else if c.toNat < 0x20 then ['\\', 'u', '0', '0'] ++ Text.hexByte c.toNat.toUInt8
  else [c]

/-- A string between quotes. -/
def stringChars (s : String) : List Char := '"' :: s.toList.flatMap escape ++ ['"']

/-- A number. -/
def Number.text : Number → String
  | .whole i => Text.intText i
  | .real x => x.text?.getD "null"

namespace Value

mutual
/-- The characters of a value. -/
def chars : Value → List Char
  | .null => ['n', 'u', 'l', 'l']
  | .bool true => ['t', 'r', 'u', 'e']
  | .bool false => ['f', 'a', 'l', 's', 'e']
  | .number n => n.text.toList
  | .string s => stringChars s
  | .array [] => ['[', ']']
  | .array (v :: vs) => '[' :: chars v ++ itemChars vs
  | .object [] => ['\x7b', '\x7d']
  | .object ((n, v) :: rest) => '\x7b' :: stringChars n ++ ':' :: chars v ++ memberChars rest

/-- The characters of the items behind the first, and the end of the array. -/
def itemChars : List Value → List Char
  | [] => [']']
  | v :: vs => ',' :: chars v ++ itemChars vs

/-- The characters of the members behind the first, and the end of the object. -/
def memberChars : List (String × Value) → List Char
  | [] => ['\x7d']
  | (n, v) :: rest => ',' :: stringChars n ++ ':' :: chars v ++ memberChars rest
end

/-- The text of a value. -/
def text (v : Value) : String := String.ofList v.chars

end Value

end GameFleet.Json
