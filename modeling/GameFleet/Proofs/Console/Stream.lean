import GameFleet.Console.Packet
import GameFleet.Proofs.Text.Utf8

/-!
# Streams of packets

Packets are read from a stream one after another. What is read is decided by the bytes that are
taken, and a packet that was encoded is read as it was.

- `Packet.read_eq_ok_iff`: when a stream starts with a packet, and with which.
- `Packet.encode?_eq`, `Packet.encode?_eq_some`, `Packet.encode?_eq_none`: what is written of a
  packet, and of which nothing is.
- `Packet.Fits`: packets that a reader takes; `Packet.read_encode_append`: they are read again,
  whatever follows them.
- `Packet.Reads`: packets are taken from a stream, and something is left.
- `Packet.readAll`: the packets of a stream up to where none can be read, and why.
- `Reads.exists_front`: the bytes behind those that were taken make no difference.
-/

namespace GameFleet.Console

/-! ### Words -/

/-- An integer of 32 bits. -/
def IsWord (i : Int) : Prop := -0x80000000 ≤ i ∧ i < 0x80000000

instance (i : Int) : Decidable (IsWord i) :=
  inferInstanceAs (Decidable (-0x80000000 ≤ i ∧ i < 0x80000000))

theorem length_wordBytes (i : Int) : (wordBytes i).length = 4 := rfl

/-- The integer of four bytes is the one they were made of. -/
theorem word?_wordBytes_append {i : Int} (h : IsWord i) (rest : List UInt8) :
    word? (wordBytes i ++ rest) = some (i, rest) := by
  show some (wordOf _ _ _ _, rest) = _
  obtain ⟨hlower, hupper⟩ := h
  have hn : (i % 0x100000000).toNat < 0x100000000 := by omega
  unfold wordOf
  simp only [Nat.toUInt8, UInt8.toNat_ofNat']
  -- The four bytes are the digits of the number, the least significant first.
  have hdigits : ((i % 0x100000000).toNat % 2 ^ 8 + (i % 0x100000000).toNat / 0x100 % 2 ^ 8 * 0x100
      + (i % 0x100000000).toNat / 0x10000 % 2 ^ 8 * 0x10000
      + (i % 0x100000000).toNat / 0x1000000 % 2 ^ 8 * 0x1000000) = (i % 0x100000000).toNat := by
    omega
  have hsigned : Int.bmod (i % 0x100000000) 0x100000000 = i := by
    rw [Int.bmod]
    split <;> omega
  rw [hdigits, Int.toNat_of_nonneg (by omega), hsigned]

theorem word?_cons (a b c d : UInt8) (rest : List UInt8) :
    word? (a :: b :: c :: d :: rest) = some (wordOf a b c d, rest) := rfl

theorem word?_eq_some {stream rest : List UInt8} {i : Int} (h : word? stream = some (i, rest)) :
    ∃ a b c d, stream = a :: b :: c :: d :: rest ∧ wordOf a b c d = i := by
  unfold word? at h
  split at h
  · rename_i a b c d after
    obtain ⟨hi, rfl⟩ := Prod.mk.inj (Option.some.inj h)
    exact ⟨a, b, c, d, rfl, hi⟩
  · cases h

namespace Packet

variable {stream front rest back : List UInt8} {p : Packet} {ps qs : List Packet}

/-! ### One packet -/

/-- The bytes behind a size are two words, the body, and two more bytes. -/
theorem ofBytes?_eq {bytes after body : List UInt8} {id kind : Int}
    (hid : word? bytes = some (id, after)) (hkind : word? after = some (kind, body)) :
    ofBytes? bytes = some ⟨id, kind, bodyText (body.take (body.length - 2))⟩ := by
  rw [ofBytes?, hid, Option.bind_eq_bind, Option.bind_some]
  dsimp only
  rw [hkind, Option.bind_some]
  rfl

/-- A stream starts with a packet exactly when it has a size that packets have, and so many bytes
behind it. -/
theorem read_eq_ok_iff : read stream = .ok (p, rest) ↔ ∃ size after,
    word? stream = some (size, after) ∧ minSize ≤ size ∧ size ≤ maxSize ∧
      size.toNat ≤ after.length ∧ ofBytes? (after.take size.toNat) = some p ∧
      rest = after.drop size.toNat := by
  unfold read
  constructor
  · intro h
    split at h
    · cases h
    rename_i size after hword
    split at h
    · cases h
    rename_i hsize
    split at h
    · cases h
    rename_i hlength
    split at h
    · cases h
    rename_i q hq
    cases h
    exact ⟨size, after, hword, by omega, by omega, by omega, hq, rfl⟩
  · rintro ⟨size, after, hword, hmin, hmax, hlength, hp, rfl⟩
    rw [hword]
    dsimp only
    rw [if_neg (by omega), if_neg (by omega), hp]

/-- A packet is read from the bytes that it takes, whatever follows them. -/
theorem exists_front_of_read (h : read stream = .ok (p, rest)) :
    ∃ front, stream = front ++ rest ∧ ∀ back, read (front ++ back) = .ok (p, back) := by
  obtain ⟨size, after, hword, hmin, hmax, hlength, hp, rfl⟩ := read_eq_ok_iff.mp h
  obtain ⟨a, b, c, d, rfl, hsize⟩ := word?_eq_some hword
  have htake : (after.take size.toNat).length = size.toNat := List.length_take_of_le hlength
  refine ⟨a :: b :: c :: d :: after.take size.toNat, ?_, fun back => ?_⟩
  · simp only [List.cons_append, List.take_append_drop]
  · have hword' : word? (a :: b :: c :: d :: after.take size.toNat ++ back) =
        some (size, after.take size.toNat ++ back) := by
      rw [List.cons_append, List.cons_append, List.cons_append, List.cons_append, word?_cons, hsize]
    refine read_eq_ok_iff.mpr ⟨_, _, hword', hmin, hmax, ?_, ?_, ?_⟩
    · rw [List.length_append]
      omega
    · rw [List.take_left' htake]
      exact hp
    · rw [List.drop_left' htake]

/-- A packet that a reader takes: its numbers have 32 bits, its body is not too long, and the zero
bytes behind the body can be told from it. -/
structure Fits (p : Packet) : Prop where
  id : IsWord p.id
  kind : IsWord p.kind
  size : ((Utf8.encodeText p.body).length : Int) + 10 ≤ maxSize
  ending : p.body.toList.getLast? ≠ some '\x00'

/-- A length that is an integer of 32 bits is not cut. -/
theorem bmod_length {n : Nat} (h : n < 0x80000000) : Int.bmod n 0x100000000 = n := by
  rw [Int.bmod]
  split <;> omega

theorem size?_eq_some {n : Nat} (h : n + 10 < 0x80000000) :
    size? n = some ((n : Int) + 10) := by
  unfold size?
  rw [bmod_length (by omega)]
  dsimp only
  rw [if_pos ⟨by omega, by omega⟩]

/-- With a body of the ten greatest lengths the sum leaves the integers of 32 bits. -/
theorem size?_eq_none {n : Nat} (h : 0x80000000 ≤ n + 10) (hn : n < 0x80000000) :
    size? n = none := by
  unfold size?
  rw [bmod_length hn]
  dsimp only
  rw [if_neg (by omega)]

/-- Where a length was cut, the bytes of the size are as without that. -/
theorem wordBytes_of_size? {n : Nat} {size : Int} (h : size? n = some size) :
    wordBytes size = wordBytes (n + 10) := by
  unfold size? at h
  dsimp only at h
  split at h
  · rw [← Option.some.inj h]
    have hmod : (Int.bmod n 0x100000000 + 10) % 0x100000000 = ((n : Int) + 10) % 0x100000000 := by
      have hcut : Int.bmod n 0x100000000 % 0x100000000 = (n : Int) % 0x100000000 := Int.bmod_emod
      omega
    unfold wordBytes
    rw [hmod]
  · cases h

/-- What is written of a packet are its bytes, if its size can be summed up. -/
theorem encode?_eq (p : Packet) :
    p.encode? = (size? (Utf8.encodeText p.body).length).map fun _ => p.encode := by
  unfold encode?
  dsimp only
  cases h : size? (Utf8.encodeText p.body).length with
  | none => rfl
  | some size =>
    show some (wordBytes size ++ _ ++ _ ++ _ ++ _) = some (wordBytes _ ++ _ ++ _ ++ _ ++ _)
    rw [wordBytes_of_size? h]

theorem encode?_eq_some (h : (Utf8.encodeText p.body).length + 10 < 0x80000000) :
    p.encode? = some p.encode := by
  rw [encode?_eq, size?_eq_some h]
  rfl

theorem encode?_eq_none (h : 0x80000000 ≤ (Utf8.encodeText p.body).length + 10)
    (hlength : (Utf8.encodeText p.body).length < 0x80000000) : p.encode? = none := by
  rw [encode?_eq, size?_eq_none h hlength]
  rfl

theorem withoutZeros_eq_self {cs : List Char} (h : cs.getLast? ≠ some '\x00') :
    withoutZeros cs = cs := by
  unfold withoutZeros
  cases hcs : cs.reverse with
  | nil => rw [List.reverse_eq_nil_iff.mp hcs]; rfl
  | cons c rest =>
    have hlast : cs.getLast? = some c := by
      rw [List.getLast?_eq_head?_reverse, hcs]
      rfl
    have hc : c ≠ '\x00' := by
      rintro rfl
      exact h hlast
    rw [List.dropWhile_cons_of_neg (by simpa using hc), ← hcs, List.reverse_reverse]

theorem bodyText_encodeText {body : String} (h : body.toList.getLast? ≠ some '\x00') :
    bodyText (Utf8.encodeText body) = body := by
  rw [bodyText, Utf8.encodeText, Utf8.decodeLossy_encode, withoutZeros_eq_self h]
  exact String.ofList_toList

/-- A packet that was encoded is read as it was, and what follows it is left. -/
theorem read_encode_append (h : p.Fits) (rest : List UInt8) :
    read (encode p ++ rest) = .ok (p, rest) := by
  obtain ⟨hid, hkind, hsize, hending⟩ := h
  generalize hbody : Utf8.encodeText p.body = body at hsize
  -- What follows the size, and what follows that.
  let frame := wordBytes p.id ++ (wordBytes p.kind ++ (body ++ [0, 0]))
  have hencode : encode p ++ rest = wordBytes (body.length + 10) ++ (frame ++ rest) := by
    simp [encode, encodeWith, hbody, frame]
  have hframe : frame.length = body.length + 10 := by
    simp only [frame, List.length_append, length_wordBytes, List.length_cons, List.length_nil]
    omega
  have htoNat : ((body.length : Int) + 10).toNat = frame.length := by omega
  unfold maxSize at hsize
  have hword : word? (encode p ++ rest) = some ((body.length : Int) + 10, frame ++ rest) := by
    rw [hencode]
    exact word?_wordBytes_append ⟨by omega, by omega⟩ _
  refine read_eq_ok_iff.mpr ⟨_, _, hword, by unfold minSize; omega, hsize, ?_, ?_, ?_⟩
  · rw [List.length_append]
    omega
  · rw [htoNat, List.take_left,
      ofBytes?_eq (word?_wordBytes_append hid _) (word?_wordBytes_append hkind _)]
    have hcut : (body ++ [0, 0]).length - 2 = body.length := by simp
    rw [hcut, List.take_left, ← hbody, bodyText_encodeText hending]
  · rw [htoNat, List.drop_left]

/-! ### Packets one after another -/

/-- Packets are taken from a stream one after another, and something is left. -/
inductive Reads : List UInt8 → List Packet → List UInt8 → Prop where
  | nil (stream : List UInt8) : Reads stream [] stream
  | cons {stream after rest : List UInt8} {p : Packet} {ps : List Packet}
    (hp : read stream = .ok (p, after)) (h : Reads after ps rest) : Reads stream (p :: ps) rest

/-- The packets of a stream up to where none can be read, and why. -/
def readAll (stream : List UInt8) : List Packet × ReadError :=
  match h : read stream with
  | .error e => ([], e)
  | .ok (p, rest) =>
    have := length_of_read h
    let (ps, e) := readAll rest
    (p :: ps, e)
termination_by stream.length

/-- The packets of a stream can be taken from it, and no more. -/
theorem reads_readAll (stream : List UInt8) :
    ∃ rest, Reads stream (readAll stream).1 rest ∧ read rest = .error (readAll stream).2 := by
  fun_induction readAll stream with
  | case1 stream e h => exact ⟨stream, .nil stream, h⟩
  | case2 stream p after h _ ps e hrest ih =>
    rw [hrest] at ih
    obtain ⟨rest, hreads, herror⟩ := ih
    exact ⟨rest, .cons h hreads, herror⟩

/-- There is one way to take packets from a stream until no more can be read. -/
theorem Reads.readAll_eq {e : ReadError} (h : Reads stream ps rest) (he : read rest = .error e) :
    readAll stream = (ps, e) := by
  induction h with
  | nil stream =>
    rw [readAll]
    split
    · rename_i h
      rw [he] at h
      cases h
      rfl
    · rename_i h
      rw [he] at h
      cases h
  | cons hp _ ih =>
    rw [readAll]
    split
    · rename_i h
      rw [hp] at h
      cases h
    · rename_i h
      rw [hp] at h
      cases h
      rw [ih he]

/-- Some of the packets are taken first, and then the others. -/
theorem Reads.of_append (h : Reads stream (ps ++ qs) rest) :
    ∃ between, Reads stream ps between ∧ Reads between qs rest := by
  induction ps generalizing stream with
  | nil => exact ⟨stream, .nil stream, h⟩
  | cons p ps ih =>
    cases h with
    | cons hp h =>
      obtain ⟨between, hps, hqs⟩ := ih h
      exact ⟨between, .cons hp hps, hqs⟩

theorem Reads.append {between : List UInt8} (h : Reads stream ps between)
    (h' : Reads between qs rest) : Reads stream (ps ++ qs) rest := by
  induction h with
  | nil stream => exact h'
  | cons hp _ ih => exact .cons hp (ih h')

/-- Packets are read from the bytes that they take, whatever follows them. -/
theorem Reads.exists_front (h : Reads stream ps rest) :
    ∃ front, stream = front ++ rest ∧ ∀ back, Reads (front ++ back) ps back := by
  induction h with
  | nil stream => exact ⟨[], rfl, fun back => .nil back⟩
  | cons hp _ ih =>
    obtain ⟨front, rfl, hfront⟩ := exists_front_of_read hp
    obtain ⟨more, rfl, hmore⟩ := ih
    refine ⟨front ++ more, (List.append_assoc ..).symm, fun back => ?_⟩
    rw [List.append_assoc]
    exact .cons (hfront _) (hmore back)

/-- Packets that were encoded are read as they were. -/
theorem reads_flatMap_encode (h : ∀ p ∈ ps, p.Fits) (rest : List UInt8) :
    Reads (ps.flatMap encode ++ rest) ps rest := by
  induction ps with
  | nil => exact .nil rest
  | cons p ps ih =>
    rw [List.flatMap_cons, List.append_assoc]
    exact .cons (read_encode_append (h p List.mem_cons_self) _)
      (ih fun q hq => h q (List.mem_cons_of_mem p hq))

end Packet

end GameFleet.Console
