import GameFleet.Text.Numeral
import GameFleet.Text.Utf8

/-!
# Percent-encoded text

A byte may be written as a percent sign and two hexadecimal digits. A percent sign without two such
digits behind it stands for itself.

- `percentBytes`: the bytes that an encoded text stands for.
- `percentDecode?`: its text, when the bytes are UTF-8.
- `percentEncoded`: a text with some of its characters written as the bytes of their UTF-8.
-/

namespace GameFleet.Text

/-- The bytes that an encoded text stands for. -/
def percentBytes : List Char → List UInt8
  | '%' :: a :: b :: rest =>
    match hexDigit? a, hexDigit? b with
    | some hi, some lo => (hi * 16 + lo).toUInt8 :: percentBytes rest
    | _, _ => String.utf8EncodeChar '%' ++ percentBytes (a :: b :: rest)
  | c :: rest => String.utf8EncodeChar c ++ percentBytes rest
  | [] => []

/-- The text that an encoded text stands for, when its bytes are UTF-8. -/
def percentDecode? (s : String) : Option String := Utf8.decode? (percentBytes s.toList)

/-- A byte as a percent sign and two capital hexadecimal digits. -/
def percentByte (b : UInt8) : List Char := '%' :: (hexByte b).map Char.toUpper

/-- A text in which the characters that are not `plain` are written as bytes. -/
def percentEncoded (plain : Char → Bool) (cs : List Char) : List Char :=
  cs.flatMap fun c => if plain c then [c] else (String.utf8EncodeChar c).flatMap percentByte

end GameFleet.Text
