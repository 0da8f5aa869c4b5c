import Mathlib.Tactic.NormNum.LegendreSymbol
import TokenClaim.Proofs.Curve.Points
/-!
The multiples of the generator, and the two points of the curve at one `x`.
-/

set_option autoImplicit false

namespace TokenClaim.Secp256k1

theorem cast_eq_cast_of_mod_eq {a b : Nat} (same : a % prime = b % prime) :
    (a : ZMod prime) = b :=
  (ZMod.natCast_eq_natCast_iff' a b prime).mpr same

theorem curve_nonsingular_generator :
    curve.Nonsingular (generator.x : ZMod prime) (generator.y : ZMod prime) := by
  have remainders : generator.y ^ 2 % prime = (generator.x ^ 3 + 7) % prime := by decide
  rw [curve_nonsingular_iff]
  exact_mod_cast cast_eq_cast_of_mod_eq remainders

def base : curve.Point := .some _ _ curve_nonsingular_generator

theorem generator_stands : generator.Stands base := by
  have stands := Point.stands_ofAffine curve_nonsingular_generator
  rw [ZMod.val_natCast_of_lt (by decide), ZMod.val_natCast_of_lt (by decide)] at stands
  exact stands

theorem multiple_generator_stands (scalar : Nat) :
    (generator.multiple scalar).Stands (scalar • base) :=
  generator_stands.multiple scalar

theorem multiple_generator_z_eq_zero_iff {scalar : Nat} :
    (generator.multiple scalar).z = 0 ↔ scalar • base = 0 :=
  (multiple_generator_stands scalar).z_eq_zero_iff

theorem order_nsmul_base : order • base = 0 := by
  rw [← multiple_generator_z_eq_zero_iff]
  decide +kernel

theorem addOrderOf_base : addOrderOf base = order :=
  addOrderOf_eq_prime order_nsmul_base (WeierstrassCurve.Affine.Point.some_ne_zero _)

theorem nsmul_base_eq {a b : Nat} (same : (a : ZMod order) = b) : a • base = b • base := by
  rw [nsmul_eq_nsmul_iff_modEq, addOrderOf_base]
  exact (ZMod.natCast_eq_natCast_iff a b order).mp same

theorem nsmul_base_eq_zero_iff {scalar : Nat} : scalar • base = 0 ↔ order ∣ scalar := by
  rw [← addOrderOf_base, addOrderOf_dvd_iff_nsmul_eq_zero]

theorem nsmul_base_ne_zero {scalar : Nat} (positive : 0 < scalar) (below : scalar < order) :
    scalar • base ≠ 0 := by
  rw [ne_eq, nsmul_base_eq_zero_iff]
  exact Nat.not_dvd_of_pos_of_lt positive below

section Lift

variable {x y : ZMod prime}

theorem seven_not_square : ¬IsSquare (7 : ZMod prime) := by
  have symbol : jacobiSym 7 prime = -1 := by norm_num [prime]
  exact_mod_cast ZMod.nonsquare_of_jacobiSym_eq_neg_one symbol

theorem x_ne_zero (on : curve.Nonsingular x y) : x ≠ 0 := by
  rintro rfl
  have square := curve_nonsingular_iff.mp on
  rw [zero_pow three_ne_zero, zero_add, pow_two] at square
  -- At `x = 0` the curve's equation makes 7 a square.
  exact seven_not_square ⟨y, square.symm⟩

/-- A multiple of the generator is never its own negative. -/
theorem y_ne_zero_of_nsmul_base {scalar : Nat} {on : curve.Nonsingular x y}
    (positive : 0 < scalar) (below : scalar < order) (found : scalar • base = .some x y on) :
    y ≠ 0 := by
  rintro rfl
  have twice : (2 * scalar) • base = 0 := by
    rw [mul_nsmul', found, two_nsmul]
    exact WeierstrassCurve.Affine.Point.add_self_of_Y_eq (by rw [negY_eq, neg_zero])
  rw [nsmul_base_eq_zero_iff] at twice
  have coprime : Nat.Coprime order 2 := by decide
  exact Nat.not_dvd_of_pos_of_lt positive below (coprime.dvd_of_dvd_mul_left twice)

theorem odd_val_neg (nonzero : y ≠ 0) : ((-y).val % 2 == 1) = !(y.val % 2 == 1) := by
  have odd : prime % 2 = 1 := by decide
  have below := ZMod.val_lt y
  rw [ZMod.neg_val, if_neg nonzero]
  rcases Nat.mod_two_eq_zero_or_one y.val with even | odd'
  · have flipped : (prime - y.val) % 2 = 1 := by omega
    rw [flipped, even]
    rfl
  · have flipped : (prime - y.val) % 2 = 0 := by omega
    rw [flipped, odd']
    rfl

theorem power_square_eq_or_eq_neg {square : Nat} (squares : (square : ZMod prime) = y ^ 2) :
    (Modular.power prime square ((prime + 1) / 4) : ZMod prime) = y
      ∨ (Modular.power prime square ((prime + 1) / 4) : ZMod prime) = -y := by
  apply sq_eq_sq_iff_eq_or_eq_neg.mp
  rw [Modular.cast_power, squares, ← pow_mul, ← pow_mul]
  have exponent : 2 * ((prime + 1) / 4 * 2) = prime - 1 + 2 := by decide
  rw [exponent, pow_add]
  by_cases zero : y = 0
  · rw [zero, zero_pow two_ne_zero, mul_zero]
  · rw [ZMod.pow_card_sub_one_eq_one zero, one_mul]

theorem root_of_parity {root : Nat} (below : root < prime)
    (isRoot : (root : ZMod prime) = y ∨ (root : ZMod prime) = -y) :
    (if (root % 2 == 1) = (y.val % 2 == 1) then root else prime - root) = y.val := by
  have whole : root = (root : ZMod prime).val := (ZMod.val_natCast_of_lt below).symm
  by_cases same : (root : ZMod prime) = y
  · have isY : root = y.val := by rw [whole, same]
    rw [if_pos (by rw [isY]), isY]
  · have opposite := isRoot.resolve_left same
    have nonzero : y ≠ 0 := by
      rintro rfl
      exact same (opposite.trans neg_zero)
    have isNegative : root = prime - y.val := by rw [whole, opposite, ZMod.neg_val, if_neg nonzero]
    -- as `prime` is odd, the two roots differ in parity
    have parity : (root % 2 == 1) = !(y.val % 2 == 1) := by
      rw [whole, opposite, odd_val_neg nonzero]
    rw [if_neg (by simp [parity]), isNegative]
    exact Nat.sub_sub_self (ZMod.val_lt y).le

/-- The lift of a point's `x` with the parity of its `y` is the point. -/
theorem liftX?_eq (on : curve.Nonsingular x y) :
    liftX? x.val (y.val % 2 == 1) = some (Point.ofAffine x.val y.val) := by
  have squares : (((x.val * x.val % prime * x.val + 7) % prime : Nat) : ZMod prime) = y ^ 2 := by
    rw [curve_nonsingular_iff.mp on]
    simp only [ZMod.natCast_mod, Nat.cast_add, Nat.cast_mul, ZMod.natCast_zmod_val, Nat.cast_ofNat]
    ring
  have isRoot := power_square_eq_or_eq_neg squares
  have below := Modular.power_lt prime_prime.pos
    ((x.val * x.val % prime * x.val + 7) % prime) ((prime + 1) / 4)
  rw [liftX?]
  generalize Modular.power prime _ ((prime + 1) / 4) = root at isRoot below
  have isSquare : root * root % prime = (x.val * x.val % prime * x.val + 7) % prime := by
    apply Modular.eq_of_cast_eq (mod_lt _) (mod_lt _)
    rw [squares, ZMod.natCast_mod, Nat.cast_mul, ← pow_two]
    exact sq_eq_sq_iff_eq_or_eq_neg.mpr isRoot
  rw [if_pos isSquare, root_of_parity below isRoot]

end Lift

end TokenClaim.Secp256k1
