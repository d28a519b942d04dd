import GameFleet.Net.Domain.Direction
import GameFleet.Net.Domain.Joining
import GameFleet.Net.Domain.Mapping
import GameFleet.Net.Punycode

/-!
# Names of domains

A name is a row of labels with dots between. Before it is read each of its characters is replaced
by what it stands for, so that a dot of any width divides labels.

- `Domain.label?`: the label that is written in ASCII behind `xn--`, or the label itself.
- `Domain.read?`: the name that a text stands for, if it can be one. Labels that are written in
  ASCII stay so.
-/

namespace GameFleet.Domain

open Text

/-- Whether a character of ASCII may not be in a name. -/
def isDenied (c : Char) : Bool :=
  c.toNat ≤ 0x20 || c.toNat = 0x7F
    || ['%', '#', '/', ':', '<', '>', '?', '@', '[', '\\', ']', '^', '|'].contains c

/-- Characters that stand for several, the first of which is a mark. -/
def markLed : List Char := ['\u0E33', '\u0EB3', '\uFF9E', '\uFF9F']

/-- Whether a label begins with a mark, which nothing stands before. -/
def beginsInMark (label : List Char) : Bool :=
  (label.head?.map fun c => Category.isMark c || markLed.contains c).getD false

/-- The label that is meant. What is written behind `xn--` has to need it, and its characters have
to stand for themselves. -/
def label? (label : List Char) : Option (List Char) :=
  match Text.after? "xn--".toList label with
  | none => some label
  | some code => do
    let text ← Punycode.decode? code
    if text.all standsForItself && text.any (128 ≤ ·.toNat) then some text else none

/-- Whether marks and joiners of a label stand where they may. -/
def isLabel (label : List Char) : Bool := !beginsInMark label && joinersFit label

/-- Whether labels may stand beside each other. Direction matters once one of them runs to the
left. -/
def agree (labels : List (List Char)) : Bool := !labels.any isLeftward || labels.all isDirected

/-- The name that a text stands for. -/
def read? (text : List Char) : Option (List Char) := do
  let name := (← text.mapM mapped?).flatten
  let labels ← (Text.splitAtChar '.' name).mapM label?
  if !name.isEmpty && !name.any isDenied && labels.all isLabel && agree labels then some name
  else none

end GameFleet.Domain
