import GameFleet.Json.Decode
import GameFleet.Json.Printer

/-!
# Values as trees

What a value holds is asked of its tree, just as of a text's.

- `Tree.ofValue`: the tree of a value.
-/

namespace GameFleet.Json

/-- A number as it is written. -/
def Numeral.ofNumber (n : Number) : Numeral :=
  match Numeral.read? n.text.toList with
  | some (m, _) => m
  | none => ⟨false, ['0'], [], none⟩

namespace Tree

mutual
/-- The tree of a value. -/
def ofValue : Value → Tree
  | .null => .null
  | .bool b => .bool b
  | .number n => .number (Numeral.ofNumber n)
  | .string s => .string (some s)
  | .array items => .array (ofItems items)
  | .object members => .object (ofMembers members)

/-- The trees of items. -/
def ofItems : List Value → List Tree
  | [] => []
  | v :: vs => ofValue v :: ofItems vs

/-- The trees of members. -/
def ofMembers : List (String × Value) → List (Option String × Tree)
  | [] => []
  | (n, v) :: rest => (some n, ofValue v) :: ofMembers rest
end

end Tree

end GameFleet.Json
