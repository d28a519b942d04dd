import GameFleet.Net.Domain
import GameFleet.Net.IpAddress
import GameFleet.Text.Percent

/-!
# Hosts

- `Host`: an address or a name.
- `Host.ofWeb?`: the host that a text stands for on the web. The text may be percent-encoded. A name
  whose last label is a number is an address in numbers: up to four, in base eight, ten or sixteen,
  the last of which stands for all bytes that are left.
- `Host.ofOther?`: the host elsewhere, whose name is taken as it is.
-/

namespace GameFleet

/-- Who is asked for something. -/
inductive Host where
  | address (ip : IpAddress)
  | name (text : List Char)
  deriving DecidableEq, Repr

namespace Host

/-- The value of digits in a base. None is zero. -/
def valueIn? (base : Nat) (digits : List Char) : Option Nat :=
  digits.foldlM (fun n c => (IpAddress.digit? base c).map (n * base + ·)) 0

/-- A number of an address. Its base shows in its first characters. -/
def number? (label : List Char) : Option Nat :=
  match label with
  | [] => none
  | '0' :: 'x' :: digits | '0' :: 'X' :: digits => valueIn? 16 digits
  | '0' :: digit :: digits => valueIn? 8 (digit :: digits)
  | digits => valueIn? 10 digits

/-- The labels of a name. A dot at its end divides nothing. -/
def labels (name : List Char) : List (List Char) :=
  let labels := Text.splitAtChar '.' name
  if labels.getLast? = some [] then labels.dropLast else labels

/-- Whether a label can be nothing but a number. -/
def isNumeric (label : List Char) : Bool :=
  (!label.isEmpty && label.all Char.isDigit) || (number? label).isSome

/-- The address that numbers stand for. The last fills the bytes that the others leave. -/
def ofNumbers? (numbers : List Nat) : Option IpAddress := do
  let last ← numbers.getLast?
  let bytes := numbers.dropLast
  if 3 < bytes.length || bytes.any (255 < ·) || Nat.pow 256 (4 - bytes.length) ≤ last then none
  else
    let left := 4 - bytes.length
    let filled := bytes ++ (List.range left).map fun i => last / Nat.pow 256 (left - 1 - i) % 256
    match filled with
    | [a, b, c, d] => some (.four a b c d)
    | _ => none

/-- The host that a name stands for. -/
def ofName? (name : List Char) : Option Host :=
  if ((labels name).getLast?.map isNumeric).getD false then
    (((labels name).mapM number?).bind ofNumbers?).map .address
  else some (.name name)

/-- The long address between brackets. -/
def bracketed? (rest : List Char) : Option Host :=
  if rest.getLast? = some ']' then
    (IpAddress.whole? (IpAddress.six? rest.dropLast)).map .address
  else none

/-- The host that a text stands for on the web. -/
def ofWeb? (text : List Char) : Option Host :=
  match text with
  | '[' :: rest => bracketed? rest
  | _ => do
    let decoded ← Text.percentDecode? (String.ofList text)
    ofName? (← Domain.read? decoded.toList)

/-- Whether a character may not be in a host. -/
def isForbidden (c : Char) : Bool :=
  c.toNat = 0 || [' ', '\t', '\n', '\r', '#', '/', ':', '<', '>', '?', '@', '[', '\\', ']', '^',
    '|'].contains c

/-- The host that a text stands for outside the web. -/
def ofOther? (text : List Char) : Option Host :=
  match text with
  | '[' :: rest => bracketed? rest
  | _ => if text.any isForbidden then none else some (.name text)

end Host

end GameFleet
