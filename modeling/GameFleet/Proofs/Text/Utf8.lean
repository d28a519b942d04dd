import GameFleet.Text.Utf8

/-!
# Reading what was encoded

The bytes of a text hold its characters and nothing else, so reading them gives the text back.

- `Utf8.start_of_three`, `Utf8.start_of_four`: what the first byte of a character allows to follow.
- `Utf8.decodeFrom_encodeChar`: the bytes of one character, whatever follows them.
- `Utf8.decodeLossy_encode`: the bytes of a text are read as the text.
-/

namespace GameFleet.Utf8

/-! ### Single bytes -/

theorem start_of_one {b : Nat} (h : b ≤ 0x7F) : start b = .whole (Char.ofNat b) := if_pos h

theorem start_of_two {b bits : Nat} (h : 0xC2 ≤ b) (h' : b ≤ 0xDF) (hbits : bits = b - 0xC0) :
    start b = .more ⟨0, 0x80, 0xBF, bits⟩ := by
  rw [start, if_neg (by omega), if_pos ⟨h, h'⟩, hbits]

/-- The first of three bytes. The second may neither spell a shorter character nor a surrogate. -/
theorem start_of_three {b : Nat} (h : 0xE0 ≤ b) (h' : b ≤ 0xEF) :
    ∃ low high, start b = .more ⟨1, low, high, b - 0xE0⟩ ∧
      low = (if b = 0xE0 then 0xA0 else 0x80) ∧ high = if b = 0xED then 0x9F else 0xBF := by
  by_cases hlow : b = 0xE0
  · subst hlow
    exact ⟨_, _, rfl, rfl, rfl⟩
  by_cases hhigh : b = 0xED
  · subst hhigh
    exact ⟨_, _, rfl, rfl, rfl⟩
  refine ⟨0x80, 0xBF, ?_, by rw [if_neg hlow], by rw [if_neg hhigh]⟩
  rw [start, if_neg (by omega), if_neg (by omega), if_neg hlow, if_neg hhigh,
    if_pos ⟨by omega, h'⟩]

/-- The first of four bytes. The second may neither spell a shorter character nor one that is too
great. -/
theorem start_of_four {b : Nat} (h : 0xF0 ≤ b) (h' : b ≤ 0xF4) :
    ∃ low high, start b = .more ⟨2, low, high, b - 0xF0⟩ ∧
      low = (if b = 0xF0 then 0x90 else 0x80) ∧ high = if b = 0xF4 then 0x8F else 0xBF := by
  by_cases hlow : b = 0xF0
  · subst hlow
    exact ⟨_, _, rfl, rfl, rfl⟩
  by_cases hhigh : b = 0xF4
  · subst hhigh
    exact ⟨_, _, rfl, rfl, rfl⟩
  refine ⟨0x80, 0xBF, ?_, by rw [if_neg hlow], by rw [if_neg hhigh]⟩
  rw [start, if_neg (by omega), if_neg (by omega), if_neg (by omega), if_neg (by omega),
    if_neg (by omega), if_neg hlow, if_pos ⟨by omega, by omega⟩]

theorem next_whole {low high bits b : Nat} (h : low ≤ b) (h' : b ≤ high) :
    Partial.next ⟨0, low, high, bits⟩ b = .whole (Char.ofNat (bits * 64 + (b - 0x80))) :=
  if_pos ⟨h, h'⟩

theorem next_more {owed low high bits bits' b : Nat} (h : low ≤ b) (h' : b ≤ high)
    (hbits : bits' = bits * 64 + (b - 0x80)) :
    Partial.next ⟨owed + 1, low, high, bits⟩ b = .more ⟨owed, 0x80, 0xBF, bits'⟩ := by
  rw [hbits]
  exact if_pos ⟨h, h'⟩

/-! ### Bytes one after another -/

variable {bs : List UInt8} {b : UInt8} {c : Char} {p q : Partial}

theorem decodeFrom_whole (h : start b.toNat = .whole c) :
    decodeFrom none (b :: bs) = some c :: decodeFrom none bs := by
  rw [decodeFrom, feed, between, h]
  rfl

theorem decodeFrom_more (h : start b.toNat = .more p) :
    decodeFrom none (b :: bs) = decodeFrom (some p) bs := by
  rw [decodeFrom, feed, between, h]
  rfl

theorem decodeFrom_next_whole (h : p.next b.toNat = .whole c) :
    decodeFrom (some p) (b :: bs) = some c :: decodeFrom none bs := by
  rw [decodeFrom, feed, h]
  rfl

theorem decodeFrom_next_more (h : p.next b.toNat = .more q) :
    decodeFrom (some p) (b :: bs) = decodeFrom (some q) bs := by
  rw [decodeFrom, feed, h]
  rfl

/-- The bytes of a character are read as the character, whatever follows them. -/
theorem decodeFrom_encodeChar (c : Char) (rest : List UInt8) :
    decodeFrom none (String.utf8EncodeChar c ++ rest) = some c :: decodeFrom none rest := by
  have hvalid : c.toNat < 0xD800 ∨ (0xDFFF < c.toNat ∧ c.toNat < 0x110000) := c.valid
  have hofNat : ∀ {n : Nat}, n = c.toNat → Char.ofNat n = c := by
    rintro n rfl
    exact Char.ofNat_toNat c
  have hbyte : ∀ {n : Nat}, n < 0x100 → (UInt8.ofNat n).toNat = n := fun h =>
    UInt8.toNat_ofNat_of_lt h
  rw [String.utf8EncodeChar, show c.val.toNat = c.toNat from rfl]
  -- The cases are those of how many bytes there are.
  split
  · rename_i h
    refine decodeFrom_whole ?_
    rw [hbyte (by omega), start_of_one h, hofNat rfl]
  split
  · have h₁ : start (c.toNat / 64 % 32 + 192) = .more ⟨0, 0x80, 0xBF, c.toNat / 64⟩ :=
      start_of_two (by omega) (by omega) (by omega)
    refine (decodeFrom_more ((congrArg start (hbyte (by omega))).trans h₁)).trans
      (decodeFrom_next_whole ?_)
    rw [hbyte (by omega), next_whole (by omega) (by omega), hofNat (by omega)]
  split
  · obtain ⟨low, high, h₁, hlow, hhigh⟩ :=
      start_of_three (b := c.toNat / 4096 % 16 + 224) (by omega) (by omega)
    have h₂ : Partial.next ⟨1, low, high, c.toNat / 4096 % 16 + 224 - 0xE0⟩
        (c.toNat / 64 % 64 + 128) = .more ⟨0, 0x80, 0xBF, c.toNat / 64⟩ :=
      next_more (by split at hlow <;> omega) (by split at hhigh <;> omega) (by omega)
    refine (decodeFrom_more ((congrArg start (hbyte (by omega))).trans h₁)).trans
      ((decodeFrom_next_more ((congrArg _ (hbyte (by omega))).trans h₂)).trans
        (decodeFrom_next_whole ?_))
    rw [hbyte (by omega), next_whole (by omega) (by omega), hofNat (by omega)]
  · obtain ⟨low, high, h₁, hlow, hhigh⟩ :=
      start_of_four (b := c.toNat / 262144 % 8 + 240) (by omega) (by omega)
    have h₂ : Partial.next ⟨2, low, high, c.toNat / 262144 % 8 + 240 - 0xF0⟩
        (c.toNat / 4096 % 64 + 128) = .more ⟨1, 0x80, 0xBF, c.toNat / 4096⟩ :=
      next_more (by split at hlow <;> omega) (by split at hhigh <;> omega) (by omega)
    have h₃ : Partial.next ⟨1, 0x80, 0xBF, c.toNat / 4096⟩ (c.toNat / 64 % 64 + 128) =
        .more ⟨0, 0x80, 0xBF, c.toNat / 64⟩ :=
      next_more (by omega) (by omega) (by omega)
    refine (decodeFrom_more ((congrArg start (hbyte (by omega))).trans h₁)).trans
      ((decodeFrom_next_more ((congrArg _ (hbyte (by omega))).trans h₂)).trans
        ((decodeFrom_next_more ((congrArg _ (hbyte (by omega))).trans h₃)).trans
          (decodeFrom_next_whole ?_)))
    rw [hbyte (by omega), next_whole (by omega) (by omega), hofNat (by omega)]

theorem decodeEach_encode (cs : List Char) : decodeEach (encode cs) = cs.map some := by
  induction cs with
  | nil => rfl
  | cons c cs ih =>
    show decodeFrom none (String.utf8EncodeChar c ++ encode cs) = some c :: cs.map some
    rw [decodeFrom_encodeChar]
    exact congrArg (some c :: ·) ih

/-- The bytes of a text are read as the text. -/
theorem decodeLossy_encode (cs : List Char) : decodeLossy (encode cs) = cs := by
  rw [decodeLossy, decodeEach_encode, List.map_map]
  exact List.map_id cs

end GameFleet.Utf8
