import Mathlib.Algebra.Group.Nat.Defs
import Mathlib.Logic.Function.Iterate

/-!
# A delay that doubles in a machine word

An exponential backoff keeps its delay in a word and doubles it before each retry.  In a
word that holds the numbers below `m`, the delay before retry `i` is `d * 2 ^ i` only as
long as no doubling has wrapped; the doublings of `n` retries are exact if and only if
`d * 2 ^ n` still fits the word (`exact_iff`).
-/

set_option autoImplicit false

namespace Backoff

/-- One doubling in a word that holds the numbers below `m`. -/
def double (m d : ℕ) : ℕ :=
  d * 2 % m

/-- The delay before retry `i`, after `i` doublings of the first one. -/
def delay (m d i : ℕ) : ℕ :=
  (double m)^[i] d

/-- The first delay is the base. -/
theorem delay_zero (m d : ℕ) : delay m d 0 = d := rfl

/-- Every further one is the double. -/
theorem delay_succ (m d i : ℕ) : delay m d (i + 1) = double m (delay m d i) :=
  Function.iterate_succ_apply' _ _ _

/-- What the word holds after `i` doublings, wrapped or not. -/
theorem delay_eq_mod {m d : ℕ} (h : d < m) (i : ℕ) : delay m d i = d * 2 ^ i % m := by
  induction i with
  | zero =>
    rw [delay_zero, Nat.pow_zero, Nat.mul_one]
    exact (Nat.mod_eq_of_lt h).symm
  | succ i ih =>
    rw [delay_succ, ih, double, Nat.mod_mul_mod, Nat.pow_succ, Nat.mul_assoc]

/-- As long as it fits, nothing is cut off. -/
theorem delay_of_lt {m d i : ℕ} (h : d * 2 ^ i < m) : delay m d i = d * 2 ^ i := by
  have hpow : 0 < 2 ^ i := Nat.two_pow_pos i
  have hd : d < m := Nat.lt_of_le_of_lt (Nat.le_mul_of_pos_right d hpow) h
  rw [delay_eq_mod hd, Nat.mod_eq_of_lt h]

/-- **The doublings of `n` retries are exact if and only if the last result fits.** -/
theorem exact_iff {m d : ℕ} (h : d < m) (n : ℕ) :
    (∀ i < n, delay m d i = d * 2 ^ i ∧ delay m d i * 2 < m) ↔ d * 2 ^ n < m := by
  constructor
  · intro hexact
    cases n with
    | zero => simpa using h
    | succ n =>
      obtain ⟨hdelay, hdouble⟩ := hexact n (by omega)
      rw [hdelay] at hdouble
      calc d * 2 ^ (n + 1) = d * 2 ^ n * 2 := by rw [Nat.pow_succ, Nat.mul_assoc]
        _ < m := hdouble
  · intro hfits i hi
    have hmono : d * 2 ^ (i + 1) ≤ d * 2 ^ n :=
      Nat.mul_le_mul_left d (Nat.pow_le_pow_right (by omega) hi)
    have hsucc : d * 2 ^ (i + 1) = d * 2 ^ i * 2 := by rw [Nat.pow_succ, Nat.mul_assoc]
    have hdelay : delay m d i = d * 2 ^ i := delay_of_lt (by omega)
    rw [hdelay]
    omega

end Backoff
