import GameFleet.Retry
import GameFleet.Termination
import GameFleet.Proofs.Number.Whole

/-!
# The wait between runs (specification §4.1)

The wait grows by the multiplier from run to run up to the longest wait. It is computed in
floating-point numbers, with a power that stops growing at 64; for a whole multiplier and waits of
at most 53 bits neither shows.

- `power_clamped`: the power above 64 is capped in any case.
- `RetryPolicy.delay_of_whole`: the wait is the product over the whole numbers, capped.
-/

namespace GameFleet

namespace RetryPolicy

/-- A power that stops growing at 64 gives the same capped product as the power itself: a multiplier
of two or more is beyond the cap at 64, and the powers of zero and one no longer change. -/
theorem power_clamped {first cap m : Nat} (hf : 1 ≤ first) (hc : cap ≤ Double.safe) (run : Nat) :
    min (first * m ^ growth run) cap = min (first * m ^ (run - 1)) cap := by
  unfold growth
  rcases le_total (run - 1) 64 with h | h
  · rw [min_eq_left h]
  rw [min_eq_right h]
  match m with
  | 0 => rw [zero_pow (by omega), zero_pow (by omega)]
  | 1 => rw [one_pow, one_pow]
  | m + 2 =>
    have beyond : ∀ k, 64 ≤ k → cap ≤ first * (m + 2) ^ k := fun k hk =>
      calc cap ≤ Double.safe := hc
        _ ≤ 2 ^ k := Nat.pow_le_pow_right two_pos (by simp only [Double.precision]; omega)
        _ ≤ (m + 2) ^ k := Nat.pow_le_pow_left (by omega) k
        _ ≤ first * (m + 2) ^ k := Nat.le_mul_of_pos_left _ hf
    rw [min_eq_right (beyond _ le_rfl), min_eq_right (beyond _ h)]

/-- The wait after a run, for a multiplier that is a whole number: the first wait times the power of
the multiplier over all whole numbers, and the longest wait where that is less. The run may have any
number, also one whose power no floating-point number holds. -/
theorem delay_of_whole (p : RetryPolicy) (m : Nat) (hm : p.multiplier.IsWhole m)
    (hfirst : 1 ≤ p.initialDelay) (hsafe : p.initialDelay ≤ 2 ^ 53) (hcap : p.maxDelay ≤ 2 ^ 53)
    (run : Nat) : p.delay run = min (p.initialDelay * m ^ (run - 1)) p.maxDelay := by
  have hpow := hm.atLeastZero.pow (growth run)
  have hraw := (Double.ofNat_exact hsafe).stands.mul hpow (fun h => absurd h (by omega))
    (fun _ => hsafe)
  have hleast := hraw.least (Double.ofNat_exact hcap) hcap
  rw [← power_clamped hfirst hcap]
  exact hleast.toWord64 ((min_le_right _ _).trans hcap)

/-- Removals of instances wait eight minutes after the fourth run. A multiplier whose powers are
beyond all floating-point numbers long before run 100 only reaches the cap. -/
theorem delay_of_whole_removals_and_overflow :
    DeletionOrder.policy.delay 4 = 480000 ∧
      ({ initialDelay := 1, maxDelay := 2 ^ 53, multiplier := .ofNat (2 ^ 53) } :
        RetryPolicy).delay 100 = 2 ^ 53 := by
  constructor
  · exact delay_of_whole DeletionOrder.policy 2 (Double.ofNat_exact (by decide)).isWhole (by decide)
      (by decide) (by decide) 4
  · refine (delay_of_whole _ (2 ^ 53) (Double.ofNat_exact le_rfl).isWhole le_rfl ?_ le_rfl
      100).trans (min_eq_right ?_)
    · exact Nat.one_le_two_pow
    · rw [one_mul]
      exact Nat.le_self_pow (by omega) _

end RetryPolicy

end GameFleet
