import GameFleet.Json.Decode
import GameFleet.Text.Utf8

/-!
# JSON in bytes

Only a string may hold bytes that are no part of a character, and then it has no text. A string
without text can stand where it is passed over, so such bytes are no fault by themselves.

- `legible`: characters that say what some bytes say.
- `decodeBytes?`: what a whole text in bytes holds.
-/

namespace GameFleet.Json

/-- Half of a character by its number, and a letter, so that no other half joins it. -/
def stray : List Char := ['\\', 'u', 'd', '8', '0', '0', 'x']

/-- Characters that say the same as some of which a few may be missing: a missing one takes the text
from its string, as half of a character does. Behind a backslash it leaves no JSON, as the letter
does that takes its place. -/
def legible : (escaped : Bool) → List (Option Char) → List Char
  | _, [] => []
  | escaped, some c :: rest => c :: legible (!escaped && c == '\\') rest
  | true, none :: rest => 'x' :: legible false rest
  | false, none :: rest => stray ++ legible false rest

/-- Nothing is changed where no character is missing. -/
theorem legible_map_some : ∀ (escaped : Bool) (cs : List Char), legible escaped (cs.map some) = cs
  | _, [] => rfl
  | escaped, c :: cs => by
    simp [legible, legible_map_some (!escaped && c == '\\') cs]

/-- What a whole text in bytes holds. -/
def decodeBytes? {α : Type} (d : Decoder α) (bytes : List UInt8) : Option α :=
  decode? d (String.ofList (legible false (Utf8.decodeEach bytes)))

end GameFleet.Json
