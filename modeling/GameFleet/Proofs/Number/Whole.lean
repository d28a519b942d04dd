import GameFleet.Number.Double
import Mathlib.Algebra.Order.Field.Power
import Mathlib.Tactic.FieldSimp
import Mathlib.Tactic.Linarith
import Mathlib.Tactic.NormNum
import Mathlib.Tactic.Positivity
import Mathlib.Tactic.Ring

/-!
# Whole numbers among the floating-point numbers

A whole number of at most 53 bits is a floating-point number, so rounding leaves it as it is. Above
that a product may be rounded or be infinite, and all that is known of it is that it is not small.

- `Double.Exact`, `Double.AtLeast`: a number that is a whole number, and one that is not below it.
- `ofRatio_exact`, `ofRatio_atLeast`: the two facts about rounding; nothing else is used of it.
- `Double.Stands`: what is known of a computed number when the exact one is whole. Products and
  powers keep it (`Stands.mul`, `Stands.pow`).
-/

namespace GameFleet

namespace Double

/-! ## Ratios -/

/-- The greatest whole number up to which all whole numbers are floating-point numbers. -/
def safe : Nat := 2 ^ precision

/-- A finite number of no sign, by its value. -/
def magnitude (m : Nat) (e : Int) : ℚ := m * 2 ^ e

theorem magnitude_nonneg (m : Nat) (e : Int) : 0 ≤ magnitude m e := by
  unfold magnitude
  positivity

theorem magnitude_carry (e : Int) :
    magnitude (2 ^ (precision - 1)) (e + 1) = magnitude (2 ^ precision) e := by
  simp only [magnitude, precision, zpow_add₀ (two_ne_zero (α := ℚ))]
  push_cast
  ring

theorem ratio_den_pos (m : Nat) (e : Int) : 0 < (ratio m e).2 := by
  unfold ratio
  split
  · exact Nat.two_pow_pos _
  · exact Nat.one_pos

theorem ratio_num (m : Nat) (e : Int) :
    ((ratio m e).1 : ℚ) = magnitude m e * (ratio m e).2 := by
  unfold ratio magnitude
  split
  case isTrue h =>
    obtain ⟨k, rfl⟩ : ∃ k : Nat, e = -k := ⟨e.natAbs, by omega⟩
    simp only [Int.natAbs_neg, Int.natAbs_natCast, Nat.pow_eq, Nat.cast_pow, zpow_neg,
      zpow_natCast]
    push_cast
    field_simp
  case isFalse h =>
    obtain ⟨k, rfl⟩ : ∃ k : Nat, e = k := ⟨e.natAbs, by omega⟩
    simp [Nat.pow_eq]

theorem scaled_den_pos {num den : Nat} (h : 0 < den) (e : Int) : 0 < (scaled num den e).2 := by
  unfold scaled
  split
  · exact h
  · exact Nat.mul_pos h (Nat.two_pow_pos _)

/-- The scaled ratio is the ratio divided by the power of two. -/
theorem scaled_num {num den : Nat} (h : 0 < den) (e : Int) :
    ((scaled num den e).1 : ℚ) * 2 ^ e * den = num * (scaled num den e).2 := by
  unfold scaled
  split
  case isTrue he =>
    obtain ⟨k, rfl⟩ : ∃ k : Nat, e = -k := ⟨e.natAbs, by omega⟩
    simp only [Int.natAbs_neg, Int.natAbs_natCast, Nat.pow_eq, Nat.cast_mul, Nat.cast_pow,
      zpow_neg, zpow_natCast]
    push_cast
    field_simp
  case isFalse he =>
    obtain ⟨k, rfl⟩ : ∃ k : Nat, e = k := ⟨e.natAbs, by omega⟩
    simp only [Int.natAbs_natCast, Nat.pow_eq, Nat.cast_mul, Nat.cast_pow, zpow_natCast]
    push_cast
    ring

/-- A ratio is not below `q · 2 ^ e` exactly when it is not below `q` once it is scaled. -/
theorem le_scaled_iff {num den : Nat} (hd : 0 < den) {q : Nat} {e : Int} :
    q * (scaled num den e).2 ≤ (scaled num den e).1 ↔ (q : ℚ) * 2 ^ e * den ≤ num := by
  have hscaled := @scaled_num num den hd e
  have hfactor : (0 : ℚ) < 2 ^ e * den := by positivity
  have hpos : (0 : ℚ) < (scaled num den e).2 := by exact_mod_cast scaled_den_pos hd e
  calc q * (scaled num den e).2 ≤ (scaled num den e).1
      ↔ (q : ℚ) * (scaled num den e).2 ≤ (scaled num den e).1 := by norm_cast
    _ ↔ (q : ℚ) * (scaled num den e).2 * (2 ^ e * den) ≤
          (scaled num den e).1 * (2 ^ e * den) := (mul_le_mul_iff_left₀ hfactor).symm
    _ ↔ (q : ℚ) * 2 ^ e * den * (scaled num den e).2 ≤ num * (scaled num den e).2 := by
        rw [← hscaled]
        ring_nf
    _ ↔ (q : ℚ) * 2 ^ e * den ≤ num := mul_le_mul_iff_left₀ hpos

/-! ## Rounding -/

/-- A whole number is its own rounding. -/
theorem roundHalfEven_mul (q : Nat) {d : Nat} (h : 0 < d) : roundHalfEven (q * d) d = q := by
  simp [roundHalfEven, Nat.mul_div_cancel q h, h]

/-- Rounding does not go below a whole number. -/
theorem le_roundHalfEven {q n d : Nat} (hd : 0 < d) (h : q * d ≤ n) : q ≤ roundHalfEven n d := by
  have hq : q ≤ n / d := (Nat.le_div_iff_mul_le hd).2 h
  unfold roundHalfEven
  dsimp only
  split <;> [skip; split <;> [skip; split]] <;> omega

/-- A mantissa of a positive exponent has all its bits. -/
theorem full_of_exponentFor_pos {num den : Nat} (hn : num ≠ 0) (hd : 0 < den)
    (he : 0 < exponentFor num den) :
    2 ^ (precision - 1) * (2 : ℚ) ^ exponentFor num den * den ≤ num := by
  have hnum : ((2 ^ num.log2 : Nat) : ℚ) ≤ num := by exact_mod_cast Nat.log2_self_le hn
  have hden : (den : ℚ) ≤ ((2 ^ (den.log2 + 1) : Nat) : ℚ) := by
    exact_mod_cast (Nat.lt_log2_self (n := den)).le
  revert he
  unfold exponentFor
  dsimp only
  generalize hg : (num.log2 : Int) - (den.log2 : Int) - (precision : Int) = g
  have hdq : (0 : ℚ) < den := by exact_mod_cast hd
  split
  case isTrue hbig =>
    -- one bit too many at the guess: the exponent above leaves at least 53
    intro he
    have hg' : max minExponent (g + 1) = g + 1 := by
      simp only [minExponent] at he ⊢; omega
    have hs : (2 ^ precision : Nat) * (2 : ℚ) ^ g * den ≤ num :=
      (le_scaled_iff hd).1 ((Nat.le_div_iff_mul_le (scaled_den_pos hd g)).1 hbig)
    refine le_of_eq_of_le ?_ hs
    rw [hg', zpow_add₀ two_ne_zero]
    push_cast [precision]
    ring
  case isFalse =>
    intro he
    have hg' : max minExponent g = g := by simp only [minExponent] at he ⊢; omega
    rw [hg']
    have hsum : ((precision - 1 : Nat) : Int) + g + ((den.log2 + 1 : Nat) : Int) = num.log2 := by
      simp only [precision] at hg ⊢
      omega
    calc 2 ^ (precision - 1) * (2 : ℚ) ^ g * den
        ≤ 2 ^ (precision - 1) * (2 : ℚ) ^ g * ((2 ^ (den.log2 + 1) : Nat) : ℚ) := by gcongr
      _ = ((2 ^ num.log2 : Nat) : ℚ) := by
          push_cast
          rw [← zpow_natCast, ← zpow_natCast, ← zpow_natCast, ← zpow_add₀ two_ne_zero,
            ← zpow_add₀ two_ne_zero, hsum]
      _ ≤ num := hnum

/-! ## Whole numbers -/

/-- The number is the whole number. -/
def Exact (n : Nat) : Double → Prop
  | finite false m e => magnitude m e = n
  | _ => False

/-- The number is not below the whole number. -/
def AtLeast (n : Nat) : Double → Prop
  | infinite false => True
  | finite false m e => n ≤ magnitude m e
  | _ => False

theorem AtLeast.mono {k n : Nat} {x : Double} (h : AtLeast n x) (hk : k ≤ n) : AtLeast k x := by
  have hk' : (k : ℚ) ≤ n := by exact_mod_cast hk
  match x, h with
  | infinite false, _ => trivial
  | finite false _ _, h => exact hk'.trans h

theorem Exact.atLeast {n : Nat} {x : Double} (h : Exact n x) : AtLeast n x := by
  match x, h with
  | finite false _ _, h => exact h.ge

/-- A rounded ratio has the value of its rounded mantissa; a carry moves only the exponent. -/
theorem ofRatio_of_ne_zero {num : Nat} (hn : num ≠ 0) (den : Nat) :
    ∃ m e, magnitude m e = magnitude (roundHalfEven (scaled num den (exponentFor num den)).1
        (scaled num den (exponentFor num den)).2) (exponentFor num den) ∧
      e ≤ exponentFor num den + 1 ∧
      ofRatio false num den = if maxExponent < e then infinite false else finite false m e := by
  unfold ofRatio
  rw [if_neg hn]
  dsimp only
  split
  case isTrue h =>
    refine ⟨_, _, ?_, le_rfl, rfl⟩
    rw [h]
    exact magnitude_carry _
  case isFalse => exact ⟨_, _, rfl, by omega, rfl⟩

/-- A ratio that is `q · 2 ^ e` is `q` once it is scaled. -/
theorem scaled_eq {num den q : Nat} (hd : 0 < den) {e : Int}
    (h : (q : ℚ) * 2 ^ e * den = num) : (scaled num den e).1 = q * (scaled num den e).2 := by
  have hdq : (0 : ℚ) < 2 ^ e * den := by positivity
  have : ((scaled num den e).1 : ℚ) = ((q * (scaled num den e).2 : Nat) : ℚ) := by
    refine mul_right_cancel₀ hdq.ne' ?_
    calc ((scaled num den e).1 : ℚ) * (2 ^ e * den) = num * (scaled num den e).2 := by
          rw [← scaled_num hd e]; ring
      _ = ((q * (scaled num den e).2 : Nat) : ℚ) * (2 ^ e * den) := by
          rw [← h]; push_cast; ring
  exact_mod_cast this

/-- Below the first exponent a whole number is scaled to a whole number. -/
theorem whole_scaled (n : Nat) {e : Int} (he : e ≤ 0) :
    ((n * 2 ^ e.natAbs : Nat) : ℚ) * 2 ^ e = n := by
  obtain ⟨k, rfl⟩ : ∃ k : Nat, e = -k := ⟨e.natAbs, by omega⟩
  simp only [Int.natAbs_neg, Int.natAbs_natCast, zpow_neg, zpow_natCast]
  push_cast
  field_simp

/-- Rounding does not cross a whole number from above. -/
theorem ofRatio_atLeast {num den n : Nat} (hd : 0 < den) (hs : n ≤ safe) (hn : num ≠ 0)
    (h : n * den ≤ num) : AtLeast n (ofRatio false num den) := by
  obtain ⟨m, e, hme, -, hr⟩ := ofRatio_of_ne_zero hn den
  have hle : (n : ℚ) ≤ magnitude m e := by
    rw [hme]
    have hround : ∀ {q : Nat}, (q : ℚ) * 2 ^ exponentFor num den * den ≤ num →
        (q : ℚ) * 2 ^ exponentFor num den ≤ magnitude (roundHalfEven
          (scaled num den (exponentFor num den)).1 (scaled num den (exponentFor num den)).2)
          (exponentFor num den) := by
      intro q hq
      have := le_roundHalfEven (scaled_den_pos hd _) ((le_scaled_iff hd).2 hq)
      unfold magnitude
      gcongr
    rcases le_or_gt (exponentFor num den) 0 with he | he
    · have hq := whole_scaled n he
      rw [← hq]
      refine hround ?_
      rw [hq]
      exact_mod_cast h
    · have hq := full_of_exponentFor_pos hn hd he
      have hpow : (2 : ℚ) ≤ 2 ^ exponentFor num den := by
        simpa using zpow_le_zpow_right₀ (one_le_two (α := ℚ)) (show 1 ≤ exponentFor num den from he)
      calc (n : ℚ) ≤ safe := by exact_mod_cast hs
        _ = ((2 ^ (precision - 1) : Nat) : ℚ) * 2 := by norm_num [safe, precision]
        _ ≤ ((2 ^ (precision - 1) : Nat) : ℚ) * 2 ^ exponentFor num den := by gcongr
        _ ≤ _ := hround (by exact_mod_cast hq)
  rw [hr]
  split
  · trivial
  · exact hle

/-- Rounding leaves a whole number of at most 53 bits as it is. -/
theorem ofRatio_exact {num den n : Nat} (hd : 0 < den) (hs : n ≤ safe) (h : num = n * den) :
    Exact n (ofRatio false num den) := by
  rcases Nat.eq_zero_or_pos n with rfl | hpos
  · simp [ofRatio, h, zero, Exact, magnitude]
  have hn : num ≠ 0 := h ▸ (Nat.mul_pos hpos hd).ne'
  obtain ⟨m, e, hme, hup, hr⟩ := ofRatio_of_ne_zero hn den
  obtain ⟨q, hq, hone⟩ : ∃ q : Nat, (q : ℚ) * 2 ^ exponentFor num den = n ∧
      exponentFor num den ≤ 1 := by
    rcases le_or_gt (exponentFor num den) 0 with he | he
    · exact ⟨_, whole_scaled n he, by omega⟩
    · -- the only number with a positive exponent is the power of two above all mantissas
      have hfull := full_of_exponentFor_pos hn hd he
      have hdq : (0 : ℚ) < den := by exact_mod_cast hd
      have hle : 2 ^ (precision - 1) * (2 : ℚ) ^ exponentFor num den ≤ n :=
        le_of_mul_le_mul_right (hfull.trans_eq (by rw [h]; push_cast; ring)) hdq
      have hns : (n : ℚ) ≤ 2 ^ (precision - 1) * 2 ^ (1 : Int) := by
        refine (Nat.cast_le.2 hs).trans_eq ?_
        norm_num [safe, precision]
      have hpow : (2 : ℚ) ^ exponentFor num den ≤ 2 ^ (1 : Int) :=
        le_of_mul_le_mul_left (hle.trans hns) (by positivity)
      have hone : exponentFor num den = 1 :=
        le_antisymm ((zpow_le_zpow_iff_right₀ (one_lt_two (α := ℚ))).1 hpow) he
      refine ⟨2 ^ (precision - 1), ?_, hone.le⟩
      rw [hone] at hle ⊢
      push_cast
      exact le_antisymm hle hns
  have hexact : (scaled num den (exponentFor num den)).1 =
      q * (scaled num den (exponentFor num den)).2 :=
    scaled_eq hd (by rw [hq, h]; push_cast; ring)
  rw [hexact, roundHalfEven_mul q (scaled_den_pos hd _)] at hme
  rw [hr, if_neg (by simp only [maxExponent]; omega)]
  exact hme.trans hq

/-! ## Products -/

theorem mul_exact {x y : Double} {m n : Nat} (hx : Exact m x) (hy : Exact n y)
    (h : m * n ≤ safe) : Exact (m * n) (x.mul y) := by
  match x, y, hx, hy with
  | finite false a e, finite false b f, hx, hy =>
    refine ofRatio_exact (Nat.mul_pos (ratio_den_pos a e) (ratio_den_pos b f)) h ?_
    have : (((ratio a e).1 * (ratio b f).1 : Nat) : ℚ) =
        ((m * n * ((ratio a e).2 * (ratio b f).2) : Nat) : ℚ) := by
      push_cast
      rw [ratio_num, ratio_num, hx, hy]
      ring
    exact_mod_cast this

/-- A product is not below the product of two lower bounds, as far as whole numbers are exact. -/
theorem mul_atLeast {x y : Double} {m n k : Nat} (hx : AtLeast m x) (hy : AtLeast n y)
    (hm : 0 < m) (hn : 0 < n) (hk : k ≤ m * n) (hs : k ≤ safe) : AtLeast k (x.mul y) := by
  have hfactor : ∀ {c : Nat} {e : Int} {l : Nat}, 0 < l → (l : ℚ) ≤ magnitude c e → c ≠ 0 := by
    rintro c e l hl h rfl
    have : (0 : ℚ) < l := by exact_mod_cast hl
    simp only [magnitude, Nat.cast_zero, zero_mul] at h
    exact absurd h this.not_ge
  match x, y, hx, hy with
  | infinite false, infinite false, _, _ => trivial
  | infinite false, finite false b f, _, hy => simp [mul, hfactor hn hy, AtLeast]
  | finite false a e, infinite false, hx, _ => simp [mul, hfactor hm hx, AtLeast]
  | finite false a e, finite false b f, hx, hy =>
    have hle : m * n * ((ratio a e).2 * (ratio b f).2) ≤ (ratio a e).1 * (ratio b f).1 := by
      have : ((m * n * ((ratio a e).2 * (ratio b f).2) : Nat) : ℚ) ≤
          (((ratio a e).1 * (ratio b f).1 : Nat) : ℚ) := by
        push_cast
        rw [ratio_num, ratio_num]
        calc (m * n * ((ratio a e).2 * (ratio b f).2) : ℚ)
            = (m * (ratio a e).2) * (n * (ratio b f).2) := by ring
          _ ≤ _ := by
            gcongr
            · exact mul_nonneg (magnitude_nonneg a e) (Nat.cast_nonneg _)
            · exact hx
            · exact hy
      exact_mod_cast this
    have hden := Nat.mul_pos (ratio_den_pos a e) (ratio_den_pos b f)
    refine ofRatio_atLeast hden hs ?_ ((Nat.mul_le_mul_right _ hk).trans hle)
    exact (lt_of_lt_of_le (Nat.mul_pos (Nat.mul_pos hm hn) hden) hle).ne'

/-! ## Computed numbers -/

/-- What is known of a number computed by products when the exact result is a whole number: up to
53 bits it is that number, above it is not below what 53 bits hold. -/
structure Stands (n : Nat) (x : Double) : Prop where
  exact : n ≤ safe → Exact n x
  large : safe ≤ n → AtLeast safe x

theorem Exact.stands {n : Nat} {x : Double} (h : Exact n x) : Stands n x :=
  ⟨fun _ => h, fun hs => h.atLeast.mono hs⟩

/-- A computed number that is not zero is not below one. -/
theorem Stands.atLeast_one {n : Nat} {x : Double} (h : Stands n x) (hn : 0 < n) : AtLeast 1 x := by
  rcases le_total n safe with hs | hs
  · exact (h.exact hs).atLeast.mono hn
  · exact (h.large hs).mono Nat.one_le_two_pow

/-- A product stands for the product. Zero is excluded beside a number that may be infinite. -/
theorem Stands.mul {m n : Nat} {x y : Double} (hx : Stands m x) (hy : Stands n y)
    (hm : m = 0 → n ≤ safe) (hn : n = 0 → m ≤ safe) : Stands (m * n) (x.mul y) := by
  by_cases hsmall : m ≤ safe ∧ n ≤ safe
  · have hx := hx.exact hsmall.1
    have hy := hy.exact hsmall.2
    refine ⟨fun h => mul_exact hx hy h, fun h => ?_⟩
    have hpos : 0 < m * n := lt_of_lt_of_le (Nat.two_pow_pos _) h
    exact mul_atLeast hx.atLeast hy.atLeast (Nat.pos_of_mul_pos_right hpos)
      (Nat.pos_of_mul_pos_left hpos) h le_rfl
  · have hm : 0 < m := Nat.pos_of_ne_zero fun h => hsmall ⟨h ▸ Nat.zero_le _, hm h⟩
    have hn : 0 < n := Nat.pos_of_ne_zero fun h => hsmall ⟨hn h, h ▸ Nat.zero_le _⟩
    have hlarge : AtLeast safe (x.mul y) := by
      rcases not_and_or.1 hsmall with h | h
      · exact mul_atLeast (hx.large (by omega)) (hy.atLeast_one hn) (Nat.two_pow_pos _) Nat.one_pos
          (by omega) le_rfl
      · exact mul_atLeast (hx.atLeast_one hm) (hy.large (by omega)) Nat.one_pos (Nat.two_pow_pos _)
          (by omega) le_rfl
    refine ⟨fun h => ?_, fun _ => hlarge⟩
    rcases not_and_or.1 hsmall with h' | h'
    · exact absurd (Nat.le_trans (Nat.le_mul_of_pos_right m hn) h) h'
    · exact absurd (Nat.le_trans (Nat.le_mul_of_pos_left n hm) h) h'

/-- Repeated squaring stands for the power. A zero base keeps the product computed so far small, and
a product that is zero has a zero base: no zero ever meets a number that may be infinite. -/
theorem Stands.powFrom {r a : Double} {y x : Nat} (hr : Stands y r) (ha : Stands x a)
    (hx : x = 0 → y ≤ safe) (hy : y = 0 → x = 0) (n : Nat) :
    Stands (y * x ^ n) (powFrom r a n) := by
  induction n using Nat.strongRecOn generalizing r a y x with
  | _ n ih =>
    rw [Double.powFrom]
    have hzero : (0 : Nat) ≤ safe := Nat.zero_le _
    obtain ⟨r', y', hr', heq, hx', hy', hdef⟩ : ∃ r' y', Stands y' r' ∧ y' = y * x ^ (n % 2) ∧
        (x = 0 → y' ≤ safe) ∧ (y' = 0 → x = 0) ∧ (if n % 2 = 1 then r.mul a else r) = r' := by
      by_cases hodd : n % 2 = 1
      · refine ⟨_, y * x, hr.mul ha (fun h => (hy h).le.trans hzero) hx, by rw [hodd, pow_one], ?_,
          ?_, if_pos hodd⟩
        · rintro rfl
          exact hzero
        · intro h
          exact (Nat.mul_eq_zero.1 h).elim hy id
      · exact ⟨r, y, hr, by rw [show n % 2 = 0 by omega, pow_zero, mul_one], hx, hy, if_neg hodd⟩
    rw [hdef]
    split
    case isTrue hlast =>
      rw [show n = n % 2 by omega, ← heq]
      exact hr'
    case isFalse hmore =>
      have hsquare : Stands (x * x) (a.mul a) :=
        ha.mul ha (fun h => h.le.trans hzero) (fun h => h.le.trans hzero)
      have := ih (n / 2) (by omega) hr' hsquare (fun h => hx' (mul_self_eq_zero.1 h))
        (fun h => mul_self_eq_zero.2 (hy' h))
      rwa [heq, mul_assoc, ← pow_two, ← pow_mul, ← pow_add, Nat.mod_add_div] at this

theorem ofNat_exact {n : Nat} (h : n ≤ safe) : Exact n (ofNat n) :=
  ofRatio_exact Nat.one_pos h (by omega)

/-- A computed power of a whole number. -/
theorem Exact.pow {a : Double} {x : Nat} (ha : Exact x a) (n : Nat) : Stands (x ^ n) (a.pow n) := by
  have hone : Stands 1 (ofNat 1) := (ofNat_exact Nat.one_le_two_pow).stands
  have := hone.powFrom ha.stands (fun _ => Nat.one_le_two_pow) (fun h => absurd h one_ne_zero) n
  rwa [one_mul] at this

/-! ## Comparing and reading -/

/-- The number has the value of a whole number; a zero may have either sign. -/
def IsWhole (n : Nat) : Double → Prop
  | finite s m e => magnitude m e = n ∧ (s = true → n = 0)
  | _ => False

theorem Exact.isWhole {n : Nat} {x : Double} (h : Exact n x) : IsWhole n x := by
  match x, h with
  | finite false _ _, h => exact ⟨h, fun h => Bool.noConfusion h⟩

theorem IsWhole.atLeastZero {n : Nat} {x : Double} (h : IsWhole n x) : Exact n x.atLeastZero := by
  match x, h with
  | finite true m e, ⟨_, hzero⟩ => simp [Double.atLeastZero, zero, Exact, magnitude, hzero rfl]
  | finite false m e, ⟨hval, _⟩ => exact hval

theorem lt_iff {m n : Nat} {e f : Int} :
    (finite false m e).lt (finite false n f) = true ↔ magnitude m e < magnitude n f := by
  have hpos : (0 : ℚ) < (ratio m e).2 * (ratio n f).2 := by
    exact_mod_cast Nat.mul_pos (ratio_den_pos m e) (ratio_den_pos n f)
  have hcross : (ratio m e).1 * (ratio n f).2 < (ratio n f).1 * (ratio m e).2 ↔
      magnitude m e * ((ratio m e).2 * (ratio n f).2) <
        magnitude n f * ((ratio m e).2 * (ratio n f).2) := by
    rw [← Nat.cast_lt (α := ℚ)]
    push_cast
    rw [ratio_num, ratio_num]
    ring_nf
  rw [← mul_lt_mul_iff_left₀ hpos, ← hcross]
  simp only [lt, Bool.false_eq_true, if_false, Int.ofNat_lt, decide_eq_true_eq]

/-- The lesser of a computed number and an exact one is exact: where the computed one may be wrong,
it is not the lesser, or the two are equal. -/
theorem Stands.least {n l : Nat} {x y : Double} (hx : Stands n x) (hy : Exact l y)
    (hl : l ≤ safe) : Exact (min n l) (if x.isFinite then x.least y else y) := by
  have hlq : (l : ℚ) ≤ safe := by exact_mod_cast hl
  match y, hy with
  | finite false b f, hy =>
    rcases le_total n safe with hn | hn
    · match x, hx.exact hn with
      | finite false a e, hx =>
        simp only [isFinite, if_true, Double.least]
        split
        case isTrue h =>
          have : l < n := by
            have := lt_iff.1 h
            rw [hx, hy] at this
            exact_mod_cast this
          rwa [min_eq_right this.le]
        case isFalse h =>
          have : n ≤ l := by
            have := not_lt.1 (mt lt_iff.2 h)
            rw [hx, hy] at this
            exact_mod_cast this
          rwa [min_eq_left this]
    · rw [min_eq_right (hl.trans hn)]
      match x, hx.large hn with
      | infinite false, _ => exact hy
      | finite false a e, hx =>
        simp only [isFinite, if_true, Double.least]
        split
        case isTrue => exact hy
        case isFalse h =>
          have := not_lt.1 (mt lt_iff.2 h)
          rw [hy] at this
          exact le_antisymm this (hlq.trans hx)

theorem Exact.toWord64 {n : Nat} {x : Double} (h : Exact n x) (hn : n ≤ safe) :
    x.atLeastZero.toWord64 = n := by
  match x, h with
  | finite false m e, h =>
    have hnum : (ratio m e).1 = n * (ratio m e).2 := by
      have : ((ratio m e).1 : ℚ) = ((n * (ratio m e).2 : Nat) : ℚ) := by
        rw [ratio_num, h]
        push_cast
        rfl
      exact_mod_cast this
    have hword : n ≤ greatestWord := hn.trans (by decide)
    simp [Double.atLeastZero, Double.toWord64, hnum, Nat.mul_div_cancel _ (ratio_den_pos m e),
      hword]

end Double

end GameFleet
