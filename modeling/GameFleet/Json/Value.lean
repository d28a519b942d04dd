import GameFleet.Number.Double
import GameFleet.Table

/-!
# JSON values

- `Json.Value`: a value; an object's members stand in the order of their names, each name once.
- `Value.record`: the object of some members; of two with one name the later stands.
- `Value.same`: equality of values. Numbers are equal only within one kind: a whole number never
  equals a floating-point one.
-/

namespace GameFleet.Json

/-- A number: whole, or floating-point. -/
inductive Number where
  | whole (i : Int)
  | real (x : Double)
  deriving Repr, DecidableEq, Inhabited

/-- Equality of numbers of one kind. -/
def Number.same : Number → Number → Bool
  | .whole i, .whole j => i == j
  | .real x, .real y => x.equal y
  | _, _ => false

/-- A JSON value. -/
inductive Value where
  | null
  | bool (b : Bool)
  | number (n : Number)
  | string (s : String)
  | array (items : List Value)
  | object (members : List (String × Value))
  deriving Repr, Inhabited

namespace Value

/-- The object of some members. -/
def record (members : List (String × Value)) : Value :=
  .object (Table.ofList members)

/-- A whole number. -/
def int (i : Int) : Value := .number (.whole i)

/-- A natural number. -/
def nat (n : Nat) : Value := int n

/-- A text or nothing. -/
def text? : Option String → Value
  | none => .null
  | some s => .string s

/-- The value of a member. -/
def member? (name : String) : Value → Option Value
  | .object members => members.lookup name
  | _ => none

mutual
/-- Equality of values. -/
def same : Value → Value → Bool
  | .null, .null => true
  | .bool a, .bool b => a == b
  | .number a, .number b => a.same b
  | .string a, .string b => a == b
  | .array as, .array bs => sameItems as bs
  | .object as, .object bs => sameMembers as bs
  | _, _ => false

/-- Equality of items, one by one. -/
def sameItems : List Value → List Value → Bool
  | [], [] => true
  | a :: as, b :: bs => same a b && sameItems as bs
  | _, _ => false

/-- Equality of members, one by one. -/
def sameMembers : List (String × Value) → List (String × Value) → Bool
  | [], [] => true
  | (n, a) :: as, (m, b) :: bs => n == m && same a b && sameMembers as bs
  | _, _ => false
end

end Value

end GameFleet.Json
