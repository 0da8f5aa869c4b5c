import Mathlib.FieldTheory.Finite.Basic
import Mathlib.NumberTheory.LegendreSymbol.Basic
import TokenClaim.Curve.Modular
/-!
The computations modulo a number, read in the ring of remainders. Modulo a prime the power that
`inverse` takes is the inverse of the field, by Fermat's little theorem, and the power that
`isSquare` takes tells the squares, by Euler's criterion.
-/

set_option autoImplicit false

namespace TokenClaim.Modular

theorem power_eq (modulus base exponent : Nat) :
    power modulus base exponent = base ^ exponent % modulus := by
  fun_induction power modulus base exponent with
  | case1 base => rw [pow_zero]
  | case2 base exponent _ rest even ih =>
    have halves : exponent = 2 * (exponent / 2) := by omega
    rw [show rest = _ from ih, ← Nat.pow_mod, ← pow_two, ← pow_mul, ← halves]
  | case3 base exponent _ rest odd ih =>
    have halves : exponent = 2 * (exponent / 2) + 1 := by omega
    rw [show rest = _ from ih, ← Nat.pow_mod, ← pow_two, ← pow_mul, Nat.mod_mul_mod, ← pow_succ,
      ← halves]

theorem power_lt {modulus : Nat} (positive : 0 < modulus) (base exponent : Nat) :
    power modulus base exponent < modulus := by
  rw [power_eq]
  exact Nat.mod_lt _ positive

theorem sub_lt {modulus : Nat} (positive : 0 < modulus) (a b : Nat) : sub modulus a b < modulus :=
  Nat.mod_lt _ positive

section Cast

variable {modulus : Nat}

theorem cast_power (base exponent : Nat) :
    (power modulus base exponent : ZMod modulus) = (base : ZMod modulus) ^ exponent := by
  rw [power_eq, ZMod.natCast_mod, Nat.cast_pow]

theorem cast_pow_eq_one_iff (big : 1 < modulus) (base exponent : Nat) :
    (base : ZMod modulus) ^ exponent = 1 ↔ power modulus base exponent = 1 := by
  rw [← cast_power, ← Nat.cast_one, ZMod.natCast_eq_natCast_iff', Nat.mod_eq_of_lt big,
    Nat.mod_eq_of_lt (power_lt (by omega) _ _)]

theorem cast_sub {a b : Nat} (below : b < modulus) :
    (sub modulus a b : ZMod modulus) = (a : ZMod modulus) - b := by
  rw [sub, ZMod.natCast_mod, Nat.cast_add, Nat.cast_sub below.le, ZMod.natCast_self]
  ring

theorem cast_inverse [Fact modulus.Prime] {value : Nat} (unit : (value : ZMod modulus) ≠ 0) :
    (inverse modulus value : ZMod modulus) = (value : ZMod modulus)⁻¹ := by
  have two : 2 ≤ modulus := (Fact.out : modulus.Prime).two_le
  apply eq_inv_of_mul_eq_one_left
  calc (inverse modulus value : ZMod modulus) * value
      = (value : ZMod modulus) ^ (modulus - 2 + 1) := by rw [inverse, cast_power, pow_succ]
    _ = (value : ZMod modulus) ^ (modulus - 1) := by congr 1; omega
    _ = 1 := ZMod.pow_card_sub_one_eq_one unit

theorem isSquare_eq_true_iff [Fact modulus.Prime] (odd : modulus % 2 = 1) (value : Nat) :
    isSquare modulus value = true ↔ IsSquare (value : ZMod modulus) := by
  have big : 1 < modulus := (Fact.out : modulus.Prime).one_lt
  have zero_iff : value % modulus = 0 ↔ (value : ZMod modulus) = 0 := by
    rw [ZMod.natCast_eq_zero_iff, Nat.dvd_iff_mod_eq_zero]
  rw [isSquare, Bool.or_eq_true, beq_iff_eq, beq_iff_eq, zero_iff,
    ← cast_pow_eq_one_iff big, ZMod.natCast_mod]
  by_cases zero : (value : ZMod modulus) = 0
  · exact iff_of_true (Or.inl zero) (zero ▸ IsSquare.zero)
  · have half : (modulus - 1) / 2 = modulus / 2 := by omega
    rw [or_iff_right zero, half, ZMod.euler_criterion modulus zero]

theorem eq_of_cast_eq {a b : Nat} (below : a < modulus) (otherBelow : b < modulus)
    (same : (a : ZMod modulus) = b) : a = b := by
  rw [ZMod.natCast_eq_natCast_iff', Nat.mod_eq_of_lt below, Nat.mod_eq_of_lt otherBelow] at same
  exact same

theorem cast_eq_zero_iff {a : Nat} (below : a < modulus) : (a : ZMod modulus) = 0 ↔ a = 0 := by
  rw [ZMod.natCast_eq_zero_iff]
  constructor
  · intro divides
    exact Nat.eq_zero_of_dvd_of_lt divides below
  · rintro rfl
    exact dvd_zero modulus

end Cast

end TokenClaim.Modular
