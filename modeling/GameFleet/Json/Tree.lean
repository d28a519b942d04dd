import GameFleet.Json.Numeral
import GameFleet.Json.Value

/-!
# What a JSON text says

A text is read into a tree before anything is asked of it. The tree keeps what a reader with an
expectation needs: members in the order of the text, with repetitions; numbers as they are written;
and where the text stops being JSON.

- `Tree`: the tree. From the place where the text stops being JSON there is one `broken` leaf and
  nothing behind it; in an object it stands as a member without a name.
- `Tree.read`: the tree of a text and what follows the value, if the value has an end.
- `Tree.isWhole`: whether a tree has no broken leaf.
- `Tree.value?`: the value of a tree in which every text and number has one.
-/

namespace GameFleet.Json

/-- What a JSON text says. -/
inductive Tree where
  | null
  | bool (b : Bool)
  | number (n : Numeral)
  /-- A string; there is no text when halves of characters stand alone in it. -/
  | string (text : Option String)
  | array (items : List Tree)
  | object (members : List (Option String × Tree))
  /-- Here the text stops being JSON. -/
  | broken
  deriving Repr, Inhabited

/-- A piece of a string: a character, or half of a character written by number. -/
inductive Piece where
  | char (c : Char)
  | half (n : Nat)
  deriving Repr, DecidableEq

namespace Piece

/-- The piece that stands for a number of 16 bits. -/
def ofUnit (n : Nat) : Piece := if 0xD800 ≤ n ∧ n ≤ 0xDFFF then .half n else .char (Char.ofNat n)

/-- The text of some pieces: halves have to come in pairs, the higher one first. -/
def text? : List Piece → Option (List Char)
  | [] => some []
  | .char c :: rest => (text? rest).map (c :: ·)
  | .half hi :: .half lo :: rest =>
    if hi ≤ 0xDBFF ∧ 0xDC00 ≤ lo then
      (text? rest).map (Char.ofNat (0x10000 + (hi - 0xD800) * 0x400 + (lo - 0xDC00)) :: ·)
    else none
  | .half _ :: _ => none

end Piece

namespace Tree

/-- The characters that may stand around values. -/
def isSpace (c : Char) : Bool := c = ' ' || c = '\n' || c = '\t' || c = '\r'

/-- A text without the space it starts with. -/
def skip (cs : List Char) : List Char := cs.dropWhile isSpace

/-- The number of four hexadecimal digits. -/
def unit? (a b c d : Char) : Option Nat := do
  let a ← Text.hexDigit? a
  let b ← Text.hexDigit? b
  let c ← Text.hexDigit? c
  let d ← Text.hexDigit? d
  return ((a * 16 + b) * 16 + c) * 16 + d

/-- What a letter behind a backslash stands for. -/
def escaped? : Char → Option Char
  | '"' => some '"'
  | '\\' => some '\\'
  | '/' => some '/'
  | 'b' => some '\x08'
  | 'f' => some '\x0c'
  | 'n' => some '\n'
  | 'r' => some '\r'
  | 't' => some '\t'
  | _ => none

/-- The pieces of a string behind its first quote, and what follows its last. -/
def pieces? : List Char → Option (List Piece × List Char)
  | [] => none
  | '"' :: rest => some ([], rest)
  | '\\' :: 'u' :: a :: b :: c :: d :: rest => do
    let n ← unit? a b c d
    let (ps, rest) ← pieces? rest
    return (Piece.ofUnit n :: ps, rest)
  | '\\' :: e :: rest => do
    let c ← escaped? e
    let (ps, rest) ← pieces? rest
    return (Piece.char c :: ps, rest)
  | c :: rest =>
    if c.toNat < 0x20 ∨ c = '\\' then none
    else do
      let (ps, rest) ← pieces? rest
      return (Piece.char c :: ps, rest)

/-- The text of a string behind its first quote, and what follows it. -/
def stringBody? (cs : List Char) : Option (Option String × List Char) := do
  let (ps, rest) ← pieces? cs
  return ((Piece.text? ps).map String.ofList, rest)

/-- A word that stands for a value. -/
def word (t : Tree) : (expected : List Char) → List Char → Tree × Option (List Char)
  | [], rest => (t, some rest)
  | e :: es, c :: rest => if e = c then word t es rest else (broken, none)
  | _ :: _, [] => (broken, none)

mutual
/-- The value at the start of a text. -/
def readValue : (fuel : Nat) → List Char → Tree × Option (List Char)
  | 0, _ => (broken, none)
  | fuel + 1, cs =>
    match skip cs with
    | 'n' :: rest => word null ['u', 'l', 'l'] rest
    | 't' :: rest => word (bool true) ['r', 'u', 'e'] rest
    | 'f' :: rest => word (bool false) ['a', 'l', 's', 'e'] rest
    | '"' :: rest =>
      match stringBody? rest with
      | some (s, rest) => (string s, some rest)
      | none => (broken, none)
    | '[' :: rest =>
      match skip rest with
      | ']' :: rest => (array [], some rest)
      | rest =>
        let (items, rest) := readItems fuel rest
        (array items, rest)
    | '\x7b' :: rest =>
      match skip rest with
      | '\x7d' :: rest => (object [], some rest)
      | rest =>
        let (members, rest) := readMembers fuel rest
        (object members, rest)
    | rest =>
      match Numeral.read? rest with
      | some (n, rest) => (number n, some rest)
      | none => (broken, none)

/-- The items of an array from one item on. -/
def readItems : (fuel : Nat) → List Char → List Tree × Option (List Char)
  | 0, _ => ([broken], none)
  | fuel + 1, cs =>
    match readValue fuel cs with
    | (item, none) => ([item], none)
    | (item, some rest) =>
      match skip rest with
      | ']' :: rest => ([item], some rest)
      | ',' :: rest =>
        let (items, rest) := readItems fuel rest
        (item :: items, rest)
      | _ => ([item, broken], none)

/-- The members of an object from one member on. -/
def readMembers : (fuel : Nat) → List Char → List (Option String × Tree) × Option (List Char)
  | 0, _ => ([(none, broken)], none)
  | fuel + 1, cs =>
    match skip cs with
    | '"' :: rest =>
      match stringBody? rest with
      | none => ([(none, broken)], none)
      | some (name, rest) =>
        match skip rest with
        | ':' :: rest =>
          match readValue fuel rest with
          | (item, none) => ([(name, item)], none)
          | (item, some rest) =>
            match skip rest with
            | '\x7d' :: rest => ([(name, item)], some rest)
            | ',' :: rest =>
              let (members, rest) := readMembers fuel rest
              ((name, item) :: members, rest)
            | _ => ([(name, item), (none, broken)], none)
        | _ => ([(name, broken)], none)
    | _ => ([(none, broken)], none)
end

/-- The tree of the value a text starts with, and what follows the value. Each step into a value
takes a character, so twice the length of the text is enough for all of them. -/
def read (cs : List Char) : Tree × Option (List Char) := readValue (2 * cs.length + 1) cs

mutual
/-- Whether nothing in the tree is broken. -/
def isWhole : Tree → Bool
  | .broken => false
  | .array items => areWhole items
  | .object members => areWholeMembers members
  | _ => true

/-- Whether nothing in any item is broken. -/
def areWhole : List Tree → Bool
  | [] => true
  | t :: ts => isWhole t && areWhole ts

/-- Whether nothing in any member is broken. -/
def areWholeMembers : List (Option String × Tree) → Bool
  | [] => true
  | (_, t) :: ts => isWhole t && areWholeMembers ts
end

mutual
/-- The value of a tree. -/
def value? : Tree → Option Value
  | .null => some .null
  | .bool b => some (.bool b)
  | .number n => n.value?.map .number
  | .string s => s.map .string
  | .array items => (values? items).map .array
  | .object members => (memberValues? members).map Value.record
  | .broken => none

/-- The values of items. -/
def values? : List Tree → Option (List Value)
  | [] => some []
  | t :: ts => do
    let v ← value? t
    let vs ← values? ts
    return v :: vs

/-- The names and values of members. -/
def memberValues? : List (Option String × Tree) → Option (List (String × Value))
  | [] => some []
  | (name, t) :: ts => do
    let name ← name
    let v ← value? t
    let vs ← memberValues? ts
    return (name, v) :: vs
end

/-- Whether nothing but space follows a value. -/
def isEnd : Option (List Char) → Bool
  | none => false
  | some rest => (skip rest).isEmpty

end Tree

/-- The value that a whole text stands for. -/
def Value.read? (text : String) : Option Value :=
  let (tree, rest) := Tree.read text.toList
  if Tree.isEnd rest then tree.value? else none

end GameFleet.Json
