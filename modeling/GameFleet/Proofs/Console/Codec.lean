import GameFleet.Proofs.Console.Stream

/-!
# Frames

What is read from a stream is a frame: a size in signed little-endian bytes, and behind it two
words, a body and two more bytes, of just that size. Whether a stream starts with a frame is decided
by its first word and by how much follows that.

- `word?_eq_some_iff`: a word is read from its own four bytes, and from no others.
- `Packet.Frame`: a frame; `Frame.ofBytes`: so many bytes behind a size always make one.
- `Packet.read_frame`, `Packet.read_eq_ok_iff_frame`: what is read is the packet of a frame.
- `Packet.read_eq_noSize_iff`, `Packet.read_eq_invalidSize_iff`, `Packet.read_eq_cutShort_iff`: when
  nothing is read, and why.
- `Packet.framing`: the theorem.
-/

namespace GameFleet.Console

/-! ### Words and their bytes -/

theorem isWord_wordOf (a b c d : UInt8) : IsWord (wordOf a b c d) :=
  ⟨Int.le_bmod (by decide), Int.bmod_lt (by decide)⟩

/-- The sign makes no difference to the digits. -/
theorem toNat_bmod_emod {n : Nat} (h : n < 0x100000000) :
    (Int.bmod n 0x100000000 % 0x100000000).toNat = n := by
  have hmod : Int.bmod n 0x100000000 % 0x100000000 = (n : Int) % 0x100000000 := Int.bmod_emod
  rw [hmod]
  omega

/-- The bytes of a word that was made of four bytes are those four. -/
theorem wordBytes_wordOf (a b c d : UInt8) : wordBytes (wordOf a b c d) = [a, b, c, d] := by
  have ha := a.toNat_lt
  have hb := b.toNat_lt
  have hc := c.toNat_lt
  have hd := d.toNat_lt
  have hn : (wordOf a b c d % 0x100000000).toNat =
      a.toNat + b.toNat * 0x100 + c.toNat * 0x10000 + d.toNat * 0x1000000 :=
    toNat_bmod_emod (by omega)
  have hbyte (n : Nat) (x : UInt8) (h : n % 2 ^ 8 = x.toNat) : n.toUInt8 = x := by
    apply UInt8.toNat_inj.mp
    rw [← h]
    exact UInt8.toNat_ofNat'
  simp only [wordBytes, hn]
  rw [hbyte _ a (by omega), hbyte _ b (by omega), hbyte _ c (by omega), hbyte _ d (by omega)]

/-- A word is read from its own four bytes, and from no others. -/
theorem word?_eq_some_iff {stream rest : List UInt8} {i : Int} :
    word? stream = some (i, rest) ↔ IsWord i ∧ stream = wordBytes i ++ rest := by
  constructor
  · intro h
    obtain ⟨a, b, c, d, rfl, rfl⟩ := word?_eq_some h
    refine ⟨isWord_wordOf a b c d, ?_⟩
    rw [wordBytes_wordOf]
    rfl
  · rintro ⟨hi, rfl⟩
    exact word?_wordBytes_append hi rest

theorem word?_eq_none_iff {stream : List UInt8} : word? stream = none ↔ stream.length < 4 := by
  unfold word?
  split
  · simp
  · rename_i h
    match stream, h with
    | [], _ | [_], _ | [_, _], _ | [_, _, _], _ => simp
    | a :: b :: c :: d :: rest, h => exact absurd rfl (h a b c d rest)

/-- Four bytes are a word. -/
theorem exists_word {stream : List UInt8} (h : 4 ≤ stream.length) :
    ∃ i rest, IsWord i ∧ stream = wordBytes i ++ rest := by
  cases hword : word? stream with
  | none =>
    have := word?_eq_none_iff.mp hword
    omega
  | some first => exact ⟨first.1, first.2, word?_eq_some_iff.mp hword⟩

namespace Packet

/-! ### Frames -/

/-- A frame: two words, a body that is not too long, and the two bytes behind it. -/
structure Frame where
  id : Int
  kind : Int
  body : List UInt8
  last : List UInt8
  isWord_id : IsWord id
  isWord_kind : IsWord kind
  length_last : last.length = 2
  length_body : (body.length : Int) + 10 ≤ maxSize

namespace Frame

/-- The size of what follows the size. -/
def size (f : Frame) : Int := f.body.length + 10

/-- The bytes that follow the size. -/
def content (f : Frame) : List UInt8 :=
  wordBytes f.id ++ (wordBytes f.kind ++ (f.body ++ f.last))

/-- The bytes of a frame. -/
def bytes (f : Frame) : List UInt8 := wordBytes f.size ++ f.content

/-- The packet of a frame. -/
def packet (f : Frame) : Packet := ⟨f.id, f.kind, bodyText f.body⟩

theorem length_content (f : Frame) : (f.content.length : Int) = f.size := by
  simp only [content, size, List.length_append, length_wordBytes, f.length_last]
  omega

theorem size_bounds (f : Frame) : minSize ≤ f.size ∧ f.size ≤ maxSize :=
  ⟨by unfold minSize size; omega, f.length_body⟩

theorem isWord_size (f : Frame) : IsWord f.size := by
  obtain ⟨hmin, hmax⟩ := f.size_bounds
  unfold minSize at hmin
  unfold maxSize at hmax
  exact ⟨by omega, by omega⟩

theorem length_bytes (f : Frame) : (f.bytes.length : Int) = 4 + f.size := by
  rw [bytes, List.length_append, length_wordBytes, ← length_content]
  omega

/-- The packet is made of what follows the size. -/
theorem ofBytes?_content (f : Frame) : ofBytes? f.content = some f.packet := by
  have hcut : (f.body ++ f.last).length - 2 = f.body.length := by
    simp [f.length_last]
  rw [content, ofBytes?_eq (word?_wordBytes_append f.isWord_id _)
    (word?_wordBytes_append f.isWord_kind _), hcut, List.take_left]
  rfl

/-- As many bytes as a size says are the two words, the body and the last two bytes of a frame:
nothing is looked for outside them. -/
theorem ofBytes {bytes : List UInt8} (hmin : minSize ≤ (bytes.length : Int))
    (hmax : (bytes.length : Int) ≤ maxSize) : ∃ f : Frame, f.content = bytes := by
  unfold minSize at hmin
  obtain ⟨id, behind, isWord_id, rfl⟩ := exists_word (show 4 ≤ bytes.length by omega)
  rw [List.length_append, length_wordBytes] at hmin hmax
  obtain ⟨kind, rest, isWord_kind, rfl⟩ := exists_word (show 4 ≤ behind.length by omega)
  rw [List.length_append, length_wordBytes] at hmin hmax
  refine ⟨⟨id, kind, rest.take (rest.length - 2), rest.drop (rest.length - 2), isWord_id,
    isWord_kind, ?_, ?_⟩, ?_⟩
  · rw [List.length_drop]
    omega
  · rw [List.length_take]
    omega
  · rw [content, List.take_append_drop]

end Frame

/-! ### What is read -/

variable {stream after rest : List UInt8} {p : Packet} {size : Int}

/-- A frame is read, and what follows it is left. -/
theorem read_frame (f : Frame) (rest : List UInt8) :
    read (f.bytes ++ rest) = .ok (f.packet, rest) := by
  obtain ⟨hmin, hmax⟩ := f.size_bounds
  have hlength : f.size.toNat = f.content.length := by
    rw [← f.length_content]
    rfl
  have hword : word? (f.bytes ++ rest) = some (f.size, f.content ++ rest) := by
    rw [Frame.bytes, List.append_assoc]
    exact word?_wordBytes_append f.isWord_size _
  refine read_eq_ok_iff.mpr ⟨f.size, f.content ++ rest, hword, hmin, hmax, ?_, ?_, ?_⟩
  · rw [List.length_append]
    omega
  · rw [hlength, List.take_left]
    exact f.ofBytes?_content
  · rw [hlength, List.drop_left]

/-- A size that packets have, and so many bytes behind it, are a frame. -/
theorem exists_frame (hmin : minSize ≤ size) (hmax : size ≤ maxSize)
    (hlength : size ≤ after.length) : ∃ f : Frame, f.size = size ∧
      wordBytes size ++ after = f.bytes ++ after.drop size.toNat := by
  have hpos : 0 ≤ size := by
    unfold minSize at hmin
    omega
  have htake : ((after.take size.toNat).length : Int) = size := by
    rw [List.length_take]
    omega
  obtain ⟨f, hf⟩ : ∃ f : Frame, f.content = after.take size.toNat :=
    Frame.ofBytes (by rwa [htake]) (by rwa [htake])
  have hsize : f.size = size := by
    rw [← f.length_content, hf, htake]
  refine ⟨f, hsize, ?_⟩
  rw [Frame.bytes, hsize, hf, List.append_assoc, List.take_append_drop]

/-- All that can come of reading a stream. -/
inductive Outcome : List UInt8 → Except ReadError (Packet × List UInt8) → Prop where
  | noSize {stream : List UInt8} (h : stream.length < 4) : Outcome stream (.error .noSize)
  | invalidSize {size : Int} (after : List UInt8) (hword : IsWord size)
    (h : size < minSize ∨ maxSize < size) :
    Outcome (wordBytes size ++ after) (.error (.invalidSize size))
  | cutShort {size : Int} {after : List UInt8} (hmin : minSize ≤ size) (hmax : size ≤ maxSize)
    (h : (after.length : Int) < size) : Outcome (wordBytes size ++ after) (.error .cutShort)
  | frame (f : Frame) (rest : List UInt8) : Outcome (f.bytes ++ rest) (.ok (f.packet, rest))

/-- What comes of a stream is decided by it. -/
theorem Outcome.read_eq {r : Except ReadError (Packet × List UInt8)} (h : Outcome stream r) :
    read stream = r := by
  cases h with
  | noSize h =>
    unfold read
    rw [word?_eq_none_iff.mpr h]
  | invalidSize after hword h =>
    unfold read
    rw [word?_wordBytes_append hword]
    exact if_pos h
  | @cutShort size after hmin hmax h =>
    have hword : IsWord size := by
      unfold minSize at hmin
      unfold maxSize at hmax
      exact ⟨by omega, by omega⟩
    unfold read
    rw [word?_wordBytes_append hword]
    dsimp only
    rw [if_neg (by omega), if_pos (by omega)]
  | frame f rest => exact read_frame f rest

theorem outcome_read (stream : List UInt8) : Outcome stream (read stream) := by
  cases hword : word? stream with
  | none =>
    have h : Outcome stream (.error .noSize) := .noSize (word?_eq_none_iff.mp hword)
    rwa [h.read_eq]
  | some first =>
    obtain ⟨size, after⟩ := first
    obtain ⟨hsize, rfl⟩ := word?_eq_some_iff.mp hword
    by_cases hbounds : size < minSize ∨ maxSize < size
    · have h := Outcome.invalidSize after hsize hbounds
      rwa [h.read_eq]
    · by_cases hlength : (after.length : Int) < size
      · have h := Outcome.cutShort (by omega) (by omega) hlength
        rwa [h.read_eq]
      · obtain ⟨f, -, hf⟩ := exists_frame (by omega) (by omega) (Int.not_lt.mp hlength)
        rw [hf, read_frame]
        exact .frame f _

/-- What is read is the packet of a frame. -/
theorem read_eq_ok_iff_frame :
    read stream = .ok (p, rest) ↔ ∃ f : Frame, stream = f.bytes ++ rest ∧ p = f.packet := by
  constructor
  · intro h
    have houtcome := outcome_read stream
    rw [h] at houtcome
    cases houtcome with
    | frame f rest => exact ⟨f, rfl, rfl⟩
  · rintro ⟨f, rfl, rfl⟩
    exact read_frame f rest

theorem read_eq_noSize_iff : read stream = .error .noSize ↔ stream.length < 4 := by
  constructor
  · intro h
    have houtcome := outcome_read stream
    rw [h] at houtcome
    cases houtcome with
    | noSize hlength => exact hlength
  · intro h
    exact (Outcome.noSize h).read_eq

theorem read_eq_invalidSize_iff : read stream = .error (.invalidSize size) ↔
    ∃ after, IsWord size ∧ stream = wordBytes size ++ after ∧
      (size < minSize ∨ maxSize < size) := by
  constructor
  · intro h
    have houtcome := outcome_read stream
    rw [h] at houtcome
    cases houtcome with
    | invalidSize after hword hbounds => exact ⟨after, hword, rfl, hbounds⟩
  · rintro ⟨after, hword, rfl, h⟩
    exact (Outcome.invalidSize after hword h).read_eq

theorem read_eq_cutShort_iff : read stream = .error .cutShort ↔
    ∃ size after, stream = wordBytes size ++ after ∧ minSize ≤ size ∧ size ≤ maxSize ∧
      (after.length : Int) < size := by
  constructor
  · intro h
    have houtcome := outcome_read stream
    rw [h] at houtcome
    cases houtcome with
    | cutShort hmin hmax hlength => exact ⟨_, _, rfl, hmin, hmax, hlength⟩
  · rintro ⟨size, after, rfl, hmin, hmax, h⟩
    exact (Outcome.cutShort hmin hmax h).read_eq

/-! ### The theorem -/

/-- What is encoded, and can be, is read again, whatever follows it, and so are any number of
packets one after another. Of every stream just a frame is read, of 4 bytes more than its size and
in bounds; as many bytes as a size in bounds says have all the parts of a frame. And nothing is read
exactly if there are fewer than 4 bytes, or their word is out of bounds, or fewer bytes follow than
it says. -/
theorem framing :
    (∀ (id kind : Int) (body : String), IsWord id → IsWord kind →
      (Utf8.encodeText body).length ≤ 65526 → body.toList.getLast? ≠ some '\x00' →
      encode? ⟨id, kind, body⟩ = some (encode ⟨id, kind, body⟩) ∧
        ∀ rest, read (encode ⟨id, kind, body⟩ ++ rest) = .ok (⟨id, kind, body⟩, rest)) ∧
    (∀ ps : List Packet, (∀ p ∈ ps, p.Fits) →
      Reads (ps.flatMap encode) ps [] ∧ readAll (ps.flatMap encode) = (ps, .noSize)) ∧
    (∀ stream p rest, read stream = .ok (p, rest) ↔
      ∃ f : Frame, stream = f.bytes ++ rest ∧ p = f.packet) ∧
    (∀ f : Frame, (f.bytes.length : Int) = 4 + f.size ∧ 10 ≤ f.size ∧ f.size ≤ 65536) ∧
    (∀ bytes : List UInt8, 10 ≤ bytes.length → bytes.length ≤ 65536 →
      ∃ f : Frame, f.content = bytes ∧ ofBytes? bytes = some f.packet) ∧
    ∀ stream,
      (read stream = .error .noSize ↔ stream.length < 4) ∧
      (∀ size, read stream = .error (.invalidSize size) ↔
        ∃ after, IsWord size ∧ stream = wordBytes size ++ after ∧ (size < 10 ∨ 65536 < size)) ∧
      (read stream = .error .cutShort ↔
        ∃ size after, stream = wordBytes size ++ after ∧ 10 ≤ size ∧ size ≤ 65536 ∧
          (after.length : Int) < size) := by
  refine ⟨fun id kind body hid hkind hlength hending => ⟨?_, fun rest => ?_⟩, fun ps hps => ?_,
    fun stream p rest => read_eq_ok_iff_frame, fun f => ⟨f.length_bytes, f.size_bounds⟩,
    fun bytes hmin hmax => ?_, fun stream =>
      ⟨read_eq_noSize_iff, fun size => read_eq_invalidSize_iff, read_eq_cutShort_iff⟩⟩
  · exact encode?_eq_some (by show (Utf8.encodeText body).length + 10 < 0x80000000; omega)
  · have hfits : Fits ⟨id, kind, body⟩ := ⟨hid, hkind, by
      show ((Utf8.encodeText body).length : Int) + 10 ≤ 65536
      omega, hending⟩
    exact read_encode_append hfits rest
  · have hreads : Reads (ps.flatMap encode) ps [] := by
      have := reads_flatMap_encode hps []
      rwa [List.append_nil] at this
    exact ⟨hreads, hreads.readAll_eq rfl⟩
  · have hmin' : minSize ≤ (bytes.length : Int) := Int.ofNat_le.mpr hmin
    have hmax' : (bytes.length : Int) ≤ maxSize := Int.ofNat_le.mpr hmax
    obtain ⟨f, rfl⟩ := Frame.ofBytes hmin' hmax'
    exact ⟨f, rfl, f.ofBytes?_content⟩

/-- Two packets with a negative word and a letter of two bytes, and three streams that start with
no packet. -/
theorem framing_twoPackets :
    let p : Packet := ⟨-7, 2, "Zo\u00eb"⟩
    let q : Packet := ⟨3, -0x80000000, ""⟩
    read (encode p ++ [10, 0]) = .ok (p, [10, 0]) ∧
    readAll ([p, q].flatMap encode) = ([p, q], .noSize) ∧
    read [255, 255, 255, 255, 0] = .error (.invalidSize (-1)) ∧
    read [10, 0, 0, 0, 0] = .error .cutShort ∧ read [10, 0, 0] = .error .noSize := by
  intro p q
  have hp : p.Fits := ⟨by decide, by decide, by decide +kernel, by decide +kernel⟩
  have hq : q.Fits := ⟨by decide, by decide, by decide +kernel, by decide +kernel⟩
  obtain ⟨hone, hmany, -, -, -, hnone⟩ := framing
  refine ⟨(hone _ _ _ hp.id hp.kind (by decide +kernel) hp.ending).2 _, (hmany [p, q] ?_).2,
    ?_, ?_, ?_⟩
  · simp only [List.forall_mem_cons]
    exact ⟨hp, hq, nofun⟩
  · exact ((hnone _).2.1 (-1)).mpr ⟨[0], by decide, by decide, by decide⟩
  · exact (hnone _).2.2.mpr ⟨10, [0], by decide, by decide, by decide, by decide⟩
  · exact (hnone _).1.mpr (by decide)

end Packet

end GameFleet.Console
