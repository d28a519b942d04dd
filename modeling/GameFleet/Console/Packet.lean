import GameFleet.Text.Utf8

/-!
# Console packets (specification §2, RCON health probe)

A packet is four little-endian words and a body: the size of what follows the size, an identifier,
a kind, the body, and two zero bytes.

- `Packet.encode`: the bytes of a packet.
- `Packet.encode?`: the same for a writer that sums up the size in 32 bits, and has no packet to
  write when the sum leaves them.
- `Packet.read`: the packet that a stream starts with and what follows it, or why there is none.
  The body is read as text, with replacements, and without the zero characters it ends in.
-/

namespace GameFleet.Console

/-- A packet. -/
structure Packet where
  /-- An integer of 32 bits. -/
  id : Int
  /-- An integer of 32 bits. -/
  kind : Int
  body : String
  deriving DecidableEq, Repr

/-- Why a stream starts with no packet. -/
inductive ReadError where
  /-- The stream ends inside the size. -/
  | noSize
  /-- The stream ends inside the packet. -/
  | cutShort
  /-- No packet has such a size. -/
  | invalidSize (size : Int)
  deriving DecidableEq, Repr

/-- The four bytes of an integer of 32 bits, least significant first. -/
def wordBytes (i : Int) : List UInt8 :=
  let n := (i % 0x100000000).toNat
  [n.toUInt8, (n / 0x100).toUInt8, (n / 0x10000).toUInt8, (n / 0x1000000).toUInt8]

/-- The integer of four bytes. -/
def wordOf (a b c d : UInt8) : Int :=
  Int.bmod ((a.toNat + b.toNat * 0x100 + c.toNat * 0x10000 + d.toNat * 0x1000000 : Nat) : Int)
    0x100000000

/-- The integer that a stream starts with, and what follows it. -/
def word? : List UInt8 → Option (Int × List UInt8)
  | a :: b :: c :: d :: rest => some (wordOf a b c d, rest)
  | _ => none

/-- The least and the greatest size of a packet. -/
def minSize : Int := 10
def maxSize : Int := 65536

namespace Packet

/-- The bytes of a packet with a body of bytes. -/
def encodeWith (id kind : Int) (body : List UInt8) : List UInt8 :=
  wordBytes (body.length + 10) ++ wordBytes id ++ wordBytes kind ++ body ++ [0, 0]

/-- The bytes of a packet. -/
def encode (p : Packet) : List UInt8 := encodeWith p.id p.kind (Utf8.encodeText p.body)

/-- The size of a packet with a body of so many bytes. Their number is cut to an integer of 32 bits,
and the sum has to be one too; no room can be made for a packet of negative size. -/
def size? (length : Nat) : Option Int :=
  let size := Int.bmod length 0x100000000 + 10
  if 0 ≤ size ∧ size < 0x80000000 then some size else none

/-- The bytes of a packet, if its size can be summed up. -/
def encode? (p : Packet) : Option (List UInt8) :=
  let body := Utf8.encodeText p.body
  (size? body.length).map fun size =>
    wordBytes size ++ wordBytes p.id ++ wordBytes p.kind ++ body ++ [0, 0]

/-- A text without the zero characters it ends in. -/
def withoutZeros (cs : List Char) : List Char := (cs.reverse.dropWhile (· = '\x00')).reverse

/-- The text of a body. -/
def bodyText (bytes : List UInt8) : String :=
  String.ofList (withoutZeros (Utf8.decodeLossy bytes))

/-- The packet of the bytes behind a size. -/
def ofBytes? (bytes : List UInt8) : Option Packet := do
  let (id, rest) ← word? bytes
  let (kind, rest) ← word? rest
  return ⟨id, kind, bodyText (rest.take (rest.length - 2))⟩

/-- The packet that a stream starts with, and what follows it. -/
def read (stream : List UInt8) : Except ReadError (Packet × List UInt8) :=
  match word? stream with
  | none => .error .noSize
  | some (size, rest) =>
    if size < minSize ∨ maxSize < size then .error (.invalidSize size)
    else if rest.length < size.toNat then .error .cutShort
    else
      match ofBytes? (rest.take size.toNat) with
      | none => .error .cutShort
      | some p => .ok (p, rest.drop size.toNat)

/-- Reading a packet makes the stream shorter. -/
theorem length_of_read {stream rest : List UInt8} {p : Packet} (h : read stream = .ok (p, rest)) :
    rest.length < stream.length := by
  unfold read at h
  split at h
  · simp at h
  · rename_i size after hw
    have hlen : stream.length = after.length + 4 := by
      unfold word? at hw
      split at hw
      · simp only [Option.some.injEq, Prod.mk.injEq] at hw
        simp [← hw.2]
      · simp at hw
    split at h
    · simp at h
    split at h
    · simp at h
    split at h
    · simp at h
    · simp only [Except.ok.injEq, Prod.mk.injEq] at h
      rw [← h.2, List.length_drop]
      omega

end Packet

end GameFleet.Console
