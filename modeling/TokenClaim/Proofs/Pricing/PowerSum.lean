import Mathlib.Algebra.BigOperators.Intervals
import Mathlib.Tactic.Ring
import TokenClaim.Proofs.Checked
/-!
Power sums in closed form. A closed form is the plain sum, or it leaves 128 bits on its way; and
then the last power of the sum alone is already beyond 64 bits.
-/

set_option autoImplicit false

namespace TokenClaim

def powerTotal (exponent n : Nat) : Nat := ∑ k ∈ Finset.range n, k ^ exponent

theorem word128?_of_lt {value : Nat} (fits : value < word128Size) :
    word128? value = some value := if_pos fits

theorem word128?_of_le {value : Nat} (large : word128Size ≤ value) : word128? value = none :=
  if_neg (Nat.not_lt.mpr large)

theorem orOverflow_word128? (value : Nat) :
    orOverflow (word128? value) = .ok value ∨
      orOverflow (word128? value) = .error .overflow ∧ word128Size ≤ value := by
  by_cases fits : value < word128Size
  · rw [word128?_of_lt fits]
    exact Or.inl rfl
  · have large := Nat.not_lt.mp fits
    rw [word128?_of_le large]
    exact Or.inr ⟨rfl, large⟩

/-- A step in 128 bits on the way to a larger number refuses nothing that the larger number does
not refuse itself. -/
theorem word128?_bind_eq {step value : Nat} {next : Nat → Option Nat} (order : step ≤ value)
    (rest : next step = word128? value) : (word128? step).bind next = word128? value := by
  by_cases fits : step < word128Size
  · rw [word128?_of_lt fits, Option.bind_some, rest]
  · have large := Nat.not_lt.mp fits
    rw [word128?_of_le large, word128?_of_le (Nat.le_trans large order), Option.bind_none]

theorem powerTotal_zero (n : Nat) : powerTotal 0 n = n := by simp [powerTotal]

theorem two_mul_powerTotal_one (n : Nat) : 2 * powerTotal 1 n = n * (n - 1) := by
  simp only [powerTotal, pow_one]
  rw [Nat.mul_comm, Finset.sum_range_id_mul_two]

theorem six_mul_powerTotal_two (n : Nat) :
    6 * powerTotal 2 n = (n - 1) * n * (2 * (n - 1) + 1) := by
  induction n with
  | zero => rfl
  | succ n ih =>
    rw [powerTotal, Finset.sum_range_succ, ← powerTotal, Nat.mul_add, ih, Nat.add_sub_cancel]
    cases n with
    | zero => rfl
    | succ n =>
      rw [Nat.add_sub_cancel]
      ring

theorem powerTotal_three (n : Nat) : powerTotal 3 n = powerTotal 1 n * powerTotal 1 n := by
  induction n with
  | zero => rfl
  | succ n ih =>
    have twice := two_mul_powerTotal_one n
    rw [powerTotal, Finset.sum_range_succ, ← powerTotal, ih, powerTotal, powerTotal,
      Finset.sum_range_succ, ← powerTotal, pow_one]
    cases n with
    | zero => rfl
    | succ n =>
      rw [Nat.add_sub_cancel] at twice
      have cube : (n + 1) ^ 3 = 2 * powerTotal 1 (n + 1) * (n + 1) + (n + 1) * (n + 1) := by
        rw [twice]
        ring
      rw [cube]
      ring

theorem triangular_eq (n : Nat) : triangular n = word128? (powerTotal 1 n) := by
  have twice := two_mul_powerTotal_one n
  -- Whichever of the two factors is even is the one that was halved.
  have halved : (if n % 2 = 0 then n / 2 * (n - 1) else n * ((n - 1) / 2)) = powerTotal 1 n := by
    apply Nat.eq_of_mul_eq_mul_left (Nat.two_pos)
    rw [twice]
    split
    · rename_i even
      rw [← Nat.mul_assoc, Nat.mul_div_cancel' (Nat.dvd_of_mod_eq_zero even)]
    · rename_i odd
      have half : 2 * ((n - 1) / 2) = n - 1 := by omega
      rw [Nat.mul_left_comm, half]
  rw [triangular, halved]

theorem powerTotal_one_lt {n : Nat} (small : n ≤ UInt64.size) : powerTotal 1 n < word128Size := by
  have twice := two_mul_powerTotal_one n
  have bound : n * (n - 1) ≤ UInt64.size * UInt64.size :=
    Nat.mul_le_mul small (Nat.le_trans (Nat.sub_le n 1) small)
  unfold word128Size
  simp only [UInt64.size] at *
  omega

theorem square_large {n : Nat} (large : word128Size ≤ 6 * powerTotal 2 n) :
    UInt64.size ≤ (n - 1) ^ 2 := by
  by_contra! small
  rw [six_mul_powerTotal_two] at large
  -- The square root is below `2 ^ 32`, which keeps the product below `2 ^ 98`.
  have root : n - 1 < 2 ^ 32 := by
    apply lt_of_pow_lt_pow_left₀ 2 (Nat.zero_le _)
    simpa [UInt64.size] using small
  have first : (n - 1) * n ≤ 2 ^ 32 * 2 ^ 32 := Nat.mul_le_mul (by omega) (by omega)
  have second : (n - 1) * n * (2 * (n - 1) + 1) ≤ 2 ^ 32 * 2 ^ 32 * 2 ^ 33 :=
    Nat.mul_le_mul first (by omega)
  simp only [word128Size, UInt64.size] at large
  omega

theorem cube_large {n : Nat} (large : word128Size ≤ powerTotal 3 n) :
    UInt64.size ≤ (n - 1) ^ 3 := by
  by_contra! small
  rw [powerTotal_three] at large
  -- The cube root is below `2 ^ 22`, which keeps the sum of the numbers below `2 ^ 43`.
  have root : n - 1 < 2 ^ 22 := by
    apply lt_of_pow_lt_pow_left₀ 3 (Nat.zero_le _)
    exact Nat.lt_of_lt_of_le small (by decide)
  have twice := two_mul_powerTotal_one n
  have product : n * (n - 1) ≤ 2 ^ 22 * 2 ^ 22 := Nat.mul_le_mul (by omega) (by omega)
  have sum : powerTotal 1 n ≤ 2 ^ 43 := by omega
  have square : powerTotal 1 n * powerTotal 1 n ≤ 2 ^ 43 * 2 ^ 43 := Nat.mul_le_mul sum sum
  simp only [word128Size, UInt64.size] at large
  omega

theorem squares_eq {n : Nat} (small : n ≤ UInt64.size) :
    (orOverflow do
      let product ← word128? ((n - 1) * n)
      let product ← word128? (product * (2 * (n - 1) + 1))
      return product / 6) =
      orOverflow (word128? (6 * powerTotal 2 n)) >>= fun six => .ok (six / 6) := by
  have pairs : (n - 1) * n < word128Size := by
    have order : (n - 1) * n ≤ (UInt64.size - 1) * UInt64.size :=
      Nat.mul_le_mul (Nat.sub_le_sub_right small 1) small
    simp only [word128Size, UInt64.size] at *
    omega
  simp only [six_mul_powerTotal_two, word128?_of_lt pairs, Option.bind_eq_bind, Option.bind_some]
  cases word128? ((n - 1) * n * (2 * (n - 1) + 1)) <;> rfl

theorem cubes_eq {n : Nat} (small : n ≤ UInt64.size) :
    (orOverflow do
      let sum ← triangular n
      word128? (sum * sum)) = orOverflow (word128? (powerTotal 3 n)) := by
  rw [triangular_eq, word128?_of_lt (powerTotal_one_lt small), powerTotal_three]
  rfl

/-- A power sum over numbers of 64 bits is the plain sum; or it is refused, and then its last power
is beyond 64 bits. -/
theorem powerSum_eq_or_overflow {n : Nat} {exponent : UInt32} (supported : exponent ≤ maxExponent)
    (small : n ≤ UInt64.size) :
    powerSum n exponent = .ok (powerTotal exponent.toNat n) ∨
      powerSum n exponent = .error .overflow ∧ UInt64.size ≤ (n - 1) ^ exponent.toNat := by
  have bound : exponent.toNat ≤ 3 := UInt32.le_iff_toNat_le.mp supported
  unfold powerSum
  by_cases empty : n = 0
  · rw [if_pos empty, empty]
    exact Or.inl rfl
  rw [if_neg empty]
  -- one closed form for each exponent that curves can have
  match exponent.toNat, bound with
  | 0, _ => exact Or.inl (congrArg Except.ok (powerTotal_zero n).symm)
  | 1, _ =>
    rw [triangular_eq, word128?_of_lt (powerTotal_one_lt small)]
    exact Or.inl rfl
  | 2, _ =>
    simp only [squares_eq small]
    rcases orOverflow_word128? (6 * powerTotal 2 n) with told | ⟨refused, large⟩
    · rw [told, ok_bind, Nat.mul_div_cancel_left _ (by decide)]
      exact Or.inl rfl
    · rw [refused]
      exact Or.inr ⟨rfl, square_large large⟩
  | 3, _ =>
    simp only [cubes_eq small]
    rcases orOverflow_word128? (powerTotal 3 n) with told | ⟨refused, large⟩
    · exact Or.inl told
    · exact Or.inr ⟨refused, cube_large large⟩

end TokenClaim
