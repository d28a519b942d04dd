/-!
# Written numbers

- `decimal`: a natural number in decimal digits, without leading zeros.
- `digitsValue?`: the value of a run of decimal digits.
- `natural?`, `integer64?`: whole numbers with an optional sign, refused beyond a bound.
- `naturalFault?`: why a text is no such number.
- `hexByte`, `hexDigit?`: pairs of hexadecimal digits.
-/

namespace GameFleet.Text

/-- The character of a digit below sixteen; letters are small. -/
def digitChar (d : Nat) : Char :=
  if d < 10 then Char.ofNat (48 + d) else Char.ofNat (87 + d)

/-- The decimal digits of a number, most significant first. -/
def decimal (n : Nat) : List Char :=
  if n < 10 then [digitChar n] else decimal (n / 10) ++ [digitChar (n % 10)]
termination_by n

/-- A number as text. -/
def natText (n : Nat) : String := String.ofList (decimal n)

/-- An integer as text, with a minus sign when it is negative. -/
def intText : Int → String
  | .ofNat n => natText n
  | .negSucc n => "-" ++ natText (n + 1)

/-- `decimal`, filled with zeros in front up to `width` characters. -/
def padded (width n : Nat) : List Char :=
  let ds := decimal n
  List.replicate (width - ds.length) '0' ++ ds

/-- The value of one decimal digit. -/
def digitValue (c : Char) : Nat := c.toNat - 48

/-- The value of digits read from the left, given the value of those before them. -/
def digitsValueFrom (before : Nat) (cs : List Char) : Nat :=
  cs.foldl (fun n c => n * 10 + digitValue c) before

/-- The value of a non-empty run of decimal digits. -/
def digitsValue? (cs : List Char) : Option Nat :=
  if cs.isEmpty || !cs.all Char.isDigit then none else some (digitsValueFrom 0 cs)

/-- A whole number up to `bound`: digits after at most one plus sign. -/
def natural? (bound : Nat) (cs : List Char) : Option Nat := do
  let digits := match cs with
    | '+' :: rest => rest
    | _ => cs
  let n ← digitsValue? digits
  if n ≤ bound then some n else none

/-- Why a text is no whole number up to a bound. -/
inductive NaturalFault where
  /-- There is nothing to read. -/
  | empty
  /-- A character is no digit. -/
  | digit
  /-- The number is beyond the bound. -/
  | bound
  deriving DecidableEq, Repr

/-- The first fault among digits, given the value of those before them. -/
def digitsFault? (bound before : Nat) : List Char → Option NaturalFault
  | [] => none
  | c :: cs =>
    let n := before * 10 + digitValue c
    if !c.isDigit then some .digit
    else if bound < n then some .bound
    else digitsFault? bound n cs

/-- Why a text is no whole number up to `bound`. The leftmost fault counts, and a sign alone is no
digit. -/
def naturalFault? (bound : Nat) (cs : List Char) : Option NaturalFault :=
  match cs with
  | [] => some .empty
  | ['+'] => some .digit
  | '+' :: digits => digitsFault? bound 0 digits
  | digits => digitsFault? bound 0 digits

/-- The least and greatest numbers of 64 bits with a sign, and the greatest of 16, 32 and 64 bits
without one. -/
def minInt64 : Int := -9223372036854775808
def maxInt64 : Int := 9223372036854775807
def maxWord16 : Nat := 65535
def maxWord32 : Nat := 4294967295
def maxWord64 : Nat := 18446744073709551615

/-- The magnitude of the least whole number of 64 bits with a sign. -/
def leastInt64 : Nat := 9223372036854775808

/-- A whole number of 64 bits with a sign: digits after at most one plus or minus sign. -/
def integer64? (cs : List Char) : Option Int := do
  let (negative, digits) := match cs with
    | '+' :: rest => (false, rest)
    | '-' :: rest => (true, rest)
    | _ => (false, cs)
  let n ← digitsValue? digits
  let i : Int := if negative then -(n : Int) else n
  if minInt64 ≤ i ∧ i ≤ maxInt64 then some i else none

/-- The value of a hexadecimal digit in either letter case. -/
def hexDigit? (c : Char) : Option Nat :=
  let n := c.toNat
  if 48 ≤ n ∧ n ≤ 57 then some (n - 48)
  else if 97 ≤ n ∧ n ≤ 102 then some (n - 87)
  else if 65 ≤ n ∧ n ≤ 70 then some (n - 55)
  else none

/-- A byte as two small hexadecimal digits. -/
def hexByte (b : UInt8) : List Char := [digitChar (b.toNat / 16), digitChar (b.toNat % 16)]

/-- Bytes as hexadecimal digits, two for each. -/
def hexText (bytes : List UInt8) : String := String.ofList (bytes.flatMap hexByte)

/-- The bytes that pairs of hexadecimal digits stand for. -/
def unhex? : List Char → Option (List UInt8)
  | [] => some []
  | [_] => none
  | a :: b :: rest => do
    let hi ← hexDigit? a
    let lo ← hexDigit? b
    return (hi * 16 + lo).toUInt8 :: (← unhex? rest)

/-- The least number of hexadecimal digits that write a number. -/
def hexadecimal (n : Nat) : List Char :=
  if n < 16 then [digitChar n] else hexadecimal (n / 16) ++ [digitChar (n % 16)]
termination_by n

theorem digitValue_digitChar : ∀ d, d < 10 → digitValue (digitChar d) = d := by decide

theorem isDigit_digitChar : ∀ d, d < 10 → (digitChar d).isDigit = true := by decide

theorem hexDigit?_digitChar : ∀ d, d < 16 → hexDigit? (digitChar d) = some d := by decide

theorem decimal_ne_nil (n : Nat) : decimal n ≠ [] := by
  rw [decimal]; split <;> simp

/-- A decimal text holds digits only. -/
theorem isDigit_of_mem_decimal (n : Nat) : ∀ c ∈ decimal n, c.isDigit = true := by
  induction n using Nat.strongRecOn with
  | _ n ih =>
    rw [decimal]
    split
    · rename_i h
      simpa using isDigit_digitChar n h
    · rename_i h
      intro c hc
      rcases List.mem_append.1 hc with hc | hc
      · exact ih (n / 10) (by omega) c hc
      · rw [List.mem_singleton.1 hc]
        exact isDigit_digitChar _ (by omega)

theorem decimal_eq_cons (n : Nat) : ∃ c cs, decimal n = c :: cs ∧ c.isDigit = true := by
  cases h : decimal n with
  | nil => exact absurd h (decimal_ne_nil n)
  | cons c cs => exact ⟨c, cs, rfl, isDigit_of_mem_decimal n c (h ▸ List.mem_cons_self)⟩

/-- A decimal text reads back as the number it was written from. -/
theorem digitsValueFrom_decimal (n : Nat) : digitsValueFrom 0 (decimal n) = n := by
  induction n using Nat.strongRecOn with
  | _ n ih =>
    rw [decimal]
    split
    · rename_i h
      simp [digitsValueFrom, digitValue_digitChar n h]
    · rename_i h
      have hq := ih (n / 10) (by omega)
      simp only [digitsValueFrom, List.foldl_append, List.foldl_cons, List.foldl_nil] at hq ⊢
      rw [hq, digitValue_digitChar _ (by omega)]
      omega

/-- A number below a power of ten has at most so many digits. -/
theorem length_decimal_le {n width : Nat} (h : n < Nat.pow 10 (width + 1)) :
    (decimal n).length ≤ width + 1 := by
  induction width generalizing n with
  | zero =>
    rw [decimal, if_pos h]
    exact Nat.le_refl 1
  | succ width ih =>
    rw [decimal]
    split
    · simp
    · have hdiv : n / 10 < Nat.pow 10 (width + 1) :=
        Nat.div_lt_of_lt_mul (Nat.lt_of_lt_of_eq h Nat.pow_succ')
      have := ih hdiv
      rw [List.length_append, List.length_singleton]
      omega

/-- A number that is not too long is filled up to the width. -/
theorem length_padded {n width : Nat} (h : n < Nat.pow 10 (width + 1)) :
    (padded (width + 1) n).length = width + 1 := by
  have := length_decimal_le h
  simp only [padded, List.length_append, List.length_replicate]
  omega

theorem isDigit_of_mem_padded {width n : Nat} : ∀ c ∈ padded width n, c.isDigit = true := by
  intro c hc
  obtain hc | hc := List.mem_append.mp hc
  · rw [List.eq_of_mem_replicate hc]
    rfl
  · exact isDigit_of_mem_decimal n c hc

theorem digitsValueFrom_padded (width n : Nat) : digitsValueFrom 0 (padded width n) = n := by
  have hzeros : ∀ k, digitsValueFrom 0 (List.replicate k '0') = 0 := by
    intro k
    induction k with
    | zero => rfl
    | succ k ih => exact ih
  have hvalue := digitsValueFrom_decimal n
  unfold digitsValueFrom at hzeros hvalue ⊢
  rw [padded, List.foldl_append, hzeros, hvalue]

/-- A filled number has the value of the number. -/
theorem digitsValue?_padded (width n : Nat) : digitsValue? (padded width n) = some n := by
  have hall : (padded width n).all Char.isDigit = true := List.all_eq_true.2 isDigit_of_mem_padded
  have hne : padded width n ≠ [] := List.append_ne_nil_of_right_ne_nil _ (decimal_ne_nil n)
  simp [digitsValue?, hall, hne, digitsValueFrom_padded]

/-- Only zero is written with a zero in front. -/
theorem eq_nil_of_decimal {n : Nat} {cs : List Char} (h : decimal n = '0' :: cs) : cs = [] := by
  induction n using Nat.strongRecOn generalizing cs with
  | _ n ih =>
    rw [decimal] at h
    split at h
    · exact (List.cons.inj h).2.symm
    · rename_i hn
      cases hfront : decimal (n / 10) with
      | nil => exact absurd hfront (decimal_ne_nil _)
      | cons c front =>
        rw [hfront] at h
        obtain ⟨rfl, -⟩ := List.cons.inj h
        have hvalue := digitsValueFrom_decimal (n / 10)
        rw [hfront, ih (n / 10) (by omega) hfront] at hvalue
        have : n / 10 = 0 := hvalue.symm
        omega

/-- More digits never make a number smaller. -/
theorem le_digitsValueFrom (n : Nat) (cs : List Char) : n ≤ digitsValueFrom n cs := by
  induction cs generalizing n with
  | nil => exact Nat.le_refl n
  | cons c cs ih => exact Nat.le_trans (by omega) (ih (n * 10 + digitValue c))

/-- Digits are without fault exactly when they are digits and their value keeps to the bound. -/
theorem digitsFault?_eq_none_iff {bound n : Nat} {cs : List Char} (h : n ≤ bound) :
    digitsFault? bound n cs = none ↔ cs.all Char.isDigit = true ∧ digitsValueFrom n cs ≤ bound := by
  induction cs generalizing n with
  | nil => simp [digitsFault?, digitsValueFrom, h]
  | cons c cs ih =>
    have hstep : digitsValueFrom n (c :: cs) = digitsValueFrom (n * 10 + digitValue c) cs := rfl
    have hle := le_digitsValueFrom (n * 10 + digitValue c) cs
    rw [digitsFault?, hstep, List.all_cons]
    by_cases hc : c.isDigit
    · by_cases hb : bound < n * 10 + digitValue c
      · simp only [hc, hb, Bool.not_true, Bool.false_eq_true, if_false, if_true, Bool.true_and]
        constructor
        · intro e
          cases e
        · intro e
          omega
      · simp only [hc, hb, Bool.not_true, Bool.false_eq_true, if_false, Bool.true_and]
        exact ih (by omega)
    · simp [hc]

theorem natural?_le {bound n : Nat} {cs : List Char} (h : natural? bound cs = some n) :
    n ≤ bound := by
  unfold natural? at h
  obtain ⟨m, -, hm⟩ := Option.bind_eq_some_iff.mp h
  split at hm
  · rename_i hle
    exact Option.some.inj hm ▸ hle
  · cases hm

/-- Digits alone are read as the number that they spell. -/
theorem natural?_of_digits {bound : Nat} {cs : List Char} (hne : cs ≠ [])
    (h : ∀ c ∈ cs, c.isDigit = true) : natural? bound cs =
      if digitsValueFrom 0 cs ≤ bound then some (digitsValueFrom 0 cs) else none := by
  have hvalue : digitsValue? cs = some (digitsValueFrom 0 cs) := by
    have hall : cs.all Char.isDigit = true := List.all_eq_true.mpr h
    simp [digitsValue?, hall, hne]
  unfold natural?
  split
  · have := h '+' List.mem_cons_self
    cases this
  · dsimp only
    rw [hvalue]
    rfl

/-- A number within a bound is read from its digits. -/
theorem natural?_decimal {bound n : Nat} (h : n ≤ bound) : natural? bound (decimal n) = some n := by
  rw [natural?_of_digits (decimal_ne_nil n) (isDigit_of_mem_decimal n), digitsValueFrom_decimal,
    if_pos h]

end GameFleet.Text
