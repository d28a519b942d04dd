import GameFleet.Json.Tree
import GameFleet.Time.Rfc3339
import GameFleet.Uuid

/-!
# Reading values of known kinds

What a text holds is asked of its tree from left to right, and the first thing that is wrong
decides.

- `Fault`: the text is no JSON, or its JSON does not fit.
- `Decoder`: what a tree holds, or the fault.
- `Shape`: the fields of a record with a decoder each. A record may be written as an object, with
  unknown members that are passed over, or as an array of its fields in order.
- `Shape.decode`: the decoder of a record.
- `decode?`: what a whole text holds.
-/

namespace GameFleet.Json

/-- What can be wrong with a text. -/
inductive Fault where
  /-- The text is no JSON, or holds a string or number without a value. -/
  | malformed
  /-- The JSON is not what is asked for. -/
  | unfit
  deriving Repr, DecidableEq

/-- What a tree holds, or the first fault in it. -/
abbrev Decoder (α : Type) := Tree → Except Fault α

/-- The fault of a tree that is not of the kind asked for: strings and numbers are still read. -/
def mismatch : Tree → Fault
  | .broken => .malformed
  | .string none => .malformed
  | .number n => if n.value?.isNone then .malformed else .unfit
  | _ => .unfit

namespace Decoder

/-- A string. -/
def string : Decoder String
  | .string (some s) => .ok s
  | t => .error (mismatch t)

/-- A whole number from zero to `bound`. -/
def natural (bound : Nat) : Decoder Nat
  | .number n =>
    match n.value? with
    | some (.whole (.ofNat i)) => if i ≤ bound then .ok i else .error .unfit
    | _ => .error (mismatch (.number n))
  | t => .error (mismatch t)

/-- A value that may be absent. -/
def optional {α : Type} (d : Decoder α) : Decoder (Option α)
  | .null => .ok none
  | t => some <$> d t

/-- A string that stands for something. -/
def parsed {α : Type} (read : String → Option α) : Decoder α := fun t => do
  match read (← string t) with
  | some a => .ok a
  | none => .error .unfit

/-- An identifier. -/
def uuid : Decoder Uuid := parsed Uuid.read?

/-- A moment. -/
def timestamp : Decoder Timestamp := parsed Timestamp.read?

/-- One of some names, as a string or as the only member of an object with null as its value. -/
def choice {α : Type} (read : String → Option α) : Decoder α
  | .string s => parsed read (.string s)
  | .object ((name, t) :: rest) => do
    let a ← parsed read (.string name)
    match t with
    | .null => if rest.isEmpty then .ok a else .error .malformed
    | t => .error (mismatch t)
  | _ => .error .malformed

end Decoder

/-- Where a record finds the value of a field. -/
inductive Slot where
  /-- The value is there. -/
  | given (t : Tree)
  /-- No member of the object has the name. -/
  | missing
  /-- The array ends before it. -/
  | cut
  deriving Inhabited

/-- A record: how its fields are checked, in order, and how it is built of their values. -/
structure Shape (α : Type) where
  /-- The names of the fields and what is wrong with a value for one. -/
  checks : List (String × (Tree → Option Fault))
  /-- The record of the fields' values. -/
  build : (String → Slot) → Except Fault α

namespace Shape

/-- What is wrong with a tree for a decoder. -/
def fault? {α : Type} (d : Decoder α) (t : Tree) : Option Fault :=
  match d t with
  | .ok _ => none
  | .error f => some f

/-- A field that must be there. -/
def required {α : Type} (name : String) (d : Decoder α) : Shape α where
  checks := [(name, fault? d)]
  build slots := match slots name with
    | .given t => d t
    | _ => .error .unfit

/-- A field that an object may lack. -/
def optional {α : Type} (name : String) (d : Decoder α) : Shape (Option α) where
  checks := [(name, fault? d.optional)]
  build slots := match slots name with
    | .given t => d.optional t
    | .missing => .ok none
    | .cut => .error .unfit

/-- A field that an object may lack and an array may end before. -/
def defaulted {α : Type} (name : String) (d : Decoder α) : Shape (Option α) where
  checks := [(name, fault? d.optional)]
  build slots := match slots name with
    | .given t => d.optional t
    | _ => .ok none

instance : Functor Shape where
  map f s := ⟨s.checks, fun slots => f <$> s.build slots⟩

instance : Applicative Shape where
  pure a := ⟨[], fun _ => .ok a⟩
  seq f s := ⟨f.checks ++ (s ()).checks, fun slots => do
    let g ← f.build slots
    let a ← (s ()).build slots
    return g a⟩

/-- The first fault among the members of an object: a name without text, a field given twice, a
value that does not fit its field, or a broken value of an unknown member. -/
def memberFault? (checks : List (String × (Tree → Option Fault))) :
    (seen : List String) → List (Option String × Tree) → Option Fault
  | _, [] => none
  | _, (none, _) :: _ => some .malformed
  | seen, (some name, t) :: rest =>
    match checks.lookup name with
    | none => if t.isWhole then memberFault? checks seen rest else some .malformed
    | some check =>
      if seen.contains name then some .unfit
      else
        match check t with
        | some f => some f
        | none => memberFault? checks (name :: seen) rest

/-- The first fault among the items of an array: an item that does not fit, or one too many. -/
def itemFault? : List (String × (Tree → Option Fault)) → List Tree → Option Fault
  | _, [] => none
  | [], _ :: _ => some .malformed
  | (_, check) :: checks, t :: ts =>
    match check t with
    | some f => some f
    | none => itemFault? checks ts

/-- The slot of a field in an object. -/
def memberSlot (members : List (Option String × Tree)) (name : String) : Slot :=
  match members.lookup (some name) with
  | some t => .given t
  | none => .missing

/-- The slot of a field in an array. -/
def itemSlot (names : List String) (items : List Tree) (name : String) : Slot :=
  match (names.zip items).lookup name with
  | some t => .given t
  | none => .cut

/-- Whether an array ends before a field that it must have: then the items it has come first. -/
def decode {α : Type} (s : Shape α) : Decoder α
  | .object members =>
    match memberFault? s.checks [] members with
    | some f => .error f
    | none => s.build (memberSlot members)
  | .array items =>
    match itemFault? s.checks items with
    | some f => .error f
    | none => s.build (itemSlot (s.checks.map (·.1)) items)
  | t => .error (mismatch t)

end Shape

/-- What a whole text holds. -/
def decode? {α : Type} (d : Decoder α) (text : String) : Option α :=
  let (tree, rest) := Tree.read text.toList
  match d tree with
  | .ok a => if Tree.isEnd rest then some a else none
  | .error _ => none

end GameFleet.Json
