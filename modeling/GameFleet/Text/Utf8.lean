/-!
# UTF-8

- `encode`: the bytes of a text.
- `Partial`: a character whose first bytes are read; it knows how many bytes are still owed and
  which values the next one may take.
- `decodeEach`: the characters of any bytes. Each longest run of bytes that starts a character
  without ending it, and each byte that starts none, gives none.
- `decodeLossy`: the text of any bytes, with one replacement character for each such run or byte.
- `decode?`: the text of bytes that hold nothing but whole characters.
- `fault?`: the first place where bytes hold no character.
-/

namespace GameFleet.Utf8

/-- The bytes of a text. -/
def encode (cs : List Char) : List UInt8 := cs.flatMap String.utf8EncodeChar

/-- The bytes of a string. -/
def encodeText (s : String) : List UInt8 := encode s.toList

/-- A character whose first bytes are read. -/
structure Partial where
  /-- How many bytes are owed after the next one. -/
  owed : Nat
  /-- The least value the next byte may take. -/
  low : Nat
  /-- The greatest value the next byte may take. -/
  high : Nat
  /-- The bits read so far. -/
  bits : Nat

/-- What one more byte leads to. -/
inductive Fed where
  /-- The byte ends a character. -/
  | whole (c : Char)
  /-- The character needs more bytes. -/
  | more (p : Partial)
  /-- The byte cannot stand here. -/
  | broken

/-- A byte that starts a character. -/
def start (b : Nat) : Fed :=
  if b ≤ 0x7F then .whole (Char.ofNat b)
  else if 0xC2 ≤ b ∧ b ≤ 0xDF then .more ⟨0, 0x80, 0xBF, b - 0xC0⟩
  else if b = 0xE0 then .more ⟨1, 0xA0, 0xBF, 0⟩
  else if b = 0xED then .more ⟨1, 0x80, 0x9F, b - 0xE0⟩
  else if 0xE1 ≤ b ∧ b ≤ 0xEF then .more ⟨1, 0x80, 0xBF, b - 0xE0⟩
  else if b = 0xF0 then .more ⟨2, 0x90, 0xBF, 0⟩
  else if 0xF1 ≤ b ∧ b ≤ 0xF3 then .more ⟨2, 0x80, 0xBF, b - 0xF0⟩
  else if b = 0xF4 then .more ⟨2, 0x80, 0x8F, b - 0xF0⟩
  else .broken

/-- A byte inside a character. -/
def Partial.next (p : Partial) (b : Nat) : Fed :=
  if p.low ≤ b ∧ b ≤ p.high then
    let bits := p.bits * 64 + (b - 0x80)
    match p.owed with
    | 0 => .whole (Char.ofNat bits)
    | n + 1 => .more ⟨n, 0x80, 0xBF, bits⟩
  else .broken

/-- A byte between characters: what it completes and what is pending after it. -/
def between (b : Nat) : List (Option Char) × Option Partial :=
  match start b with
  | .whole c => ([some c], none)
  | .more p => ([], some p)
  | .broken => ([none], none)

/-- A byte after `pending`: what it completes and what is pending after it. A byte that cannot go on
with the pending character ends it without success and starts anew. -/
def feed (pending : Option Partial) (b : Nat) : List (Option Char) × Option Partial :=
  match pending with
  | none => between b
  | some p =>
    match p.next b with
    | .whole c => ([some c], none)
    | .more q => ([], some q)
    | .broken => (none :: (between b).1, (between b).2)

/-- The characters of the bytes after `pending`. -/
def decodeFrom (pending : Option Partial) : List UInt8 → List (Option Char)
  | [] => if pending.isSome then [none] else []
  | b :: bs => (feed pending b.toNat).1 ++ decodeFrom (feed pending b.toNat).2 bs

/-- The characters of any bytes, and none where they hold no character. -/
def decodeEach (bs : List UInt8) : List (Option Char) := decodeFrom none bs

/-- The character that stands for bytes that hold none. -/
def replacement : Char := '\uFFFD'

/-- The text of any bytes, with replacements where they hold no characters. -/
def decodeLossy (bs : List UInt8) : List Char := (decodeEach bs).map (·.getD replacement)

/-- The text of bytes that hold nothing but whole characters. -/
def decode? (bs : List UInt8) : Option String := String.fromUTF8? ⟨bs.toArray⟩

/-- A place where bytes hold no character. -/
inductive Fault where
  /-- So many bytes from an index on belong to no character. -/
  | stray (length index : Nat)
  /-- The bytes end inside the character that starts at an index. -/
  | cut (index : Nat)
  deriving DecidableEq, Repr

/-- The first fault among the bytes from an index on. A pending character goes with the number of
its bytes that are read. -/
def faultFrom (index : Nat) (pending : Option (Nat × Partial)) : List UInt8 → Option Fault
  | [] => pending.map fun (read, _) => .cut (index - read)
  | b :: bs =>
    let read := (pending.map (·.1)).getD 0
    match (pending.map fun (_, p) => p.next b.toNat).getD (start b.toNat) with
    | .whole _ => faultFrom (index + 1) none bs
    | .more p => faultFrom (index + 1) (some (read + 1, p)) bs
    | .broken => some (.stray (Nat.max 1 read) (index - read))

/-- The first place where bytes hold no character. -/
def fault? (bs : List UInt8) : Option Fault := faultFrom 0 none bs

end GameFleet.Utf8
