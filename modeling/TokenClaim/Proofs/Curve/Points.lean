import Mathlib.AlgebraicGeometry.EllipticCurve.Affine.Point
import TokenClaim.Proofs.Curve.Primes
/-!
The points that the program computes with stand for points of the elliptic curve, and its addition
of them is the addition of the curve's group.
-/

set_option autoImplicit false

namespace TokenClaim.Secp256k1

open WeierstrassCurve.Affine

/-- The curve `y² = x³ + 7` over the field of `prime` elements. -/
def curve : WeierstrassCurve.Affine (ZMod prime) := ⟨0, 0, 0, 0, 7⟩

theorem mod_lt (value : Nat) : value % prime < prime := Nat.mod_lt _ prime_prime.pos

theorem sub_lt (a b : Nat) : Modular.sub prime a b < prime := Modular.sub_lt prime_prime.pos a b

theorem natCast_ne_zero (value : Nat) (positive : 0 < value) (below : value < prime) :
    (value : ZMod prime) ≠ 0 := by
  rw [ne_eq, Modular.cast_eq_zero_iff below]
  omega

theorem field_two_ne_zero : (2 : ZMod prime) ≠ 0 :=
  mod_cast natCast_ne_zero 2 (by decide) (by decide)

theorem curve_nonsingular_iff {x y : ZMod prime} : curve.Nonsingular x y ↔ y ^ 2 = x ^ 3 + 7 := by
  have discriminant : curve.Δ ≠ 0 := by
    have value : curve.Δ = -((21168 : Nat) : ZMod prime) := by
      simp only [WeierstrassCurve.Δ, WeierstrassCurve.b₂, WeierstrassCurve.b₄, WeierstrassCurve.b₆,
        WeierstrassCurve.b₈, curve]
      push_cast
      ring
    rw [value]
    exact neg_ne_zero.mpr (natCast_ne_zero _ (by decide) (by decide))
  rw [← equation_iff_nonsingular_of_Δ_ne_zero discriminant, equation_iff]
  simp [curve]

theorem negY_eq (x y : ZMod prime) : curve.negY x y = -y := by
  simp [negY, curve]

def coordinates? : curve.Point → Option (Nat × Nat)
  | .zero => none
  | .some x y _ => some (x.val, y.val)

section Sum

variable {x y x' y' : ZMod prime}

structure SumOnLine (x y x' slope sumX sumY : ZMod prime) : Prop where
  x_eq : sumX = slope ^ 2 - x - x'
  y_eq : sumY = slope * (x - sumX) - y

theorem sumOnLine (slope : ZMod prime) :
    SumOnLine x y x' slope (curve.addX x x' slope) (curve.addY x x' y slope) := by
  constructor
  · simp [addX, curve]
  · simp only [addY, negAddY, negY_eq]
    ring

theorem exists_sum_of_ne (on : curve.Nonsingular x y) (on' : curve.Nonsingular x' y')
    (distinct : x ≠ x') :
    ∃ slope sumX sumY, ∃ onSum : curve.Nonsingular sumX sumY,
      Point.some x y on + Point.some x' y' on' = Point.some sumX sumY onSum
        ∧ slope * (x - x') = y - y' ∧ SumOnLine x y x' slope sumX sumY := by
  refine ⟨_, _, _, _, Point.add_of_X_ne distinct, ?_, sumOnLine _⟩
  rw [slope_of_X_ne distinct, div_mul_cancel₀ _ (sub_ne_zero.mpr distinct)]

theorem exists_double (on : curve.Nonsingular x y) (nonzero : y ≠ 0) :
    ∃ slope sumX sumY, ∃ onSum : curve.Nonsingular sumX sumY,
      Point.some x y on + Point.some x y on = Point.some sumX sumY onSum
        ∧ slope * (2 * y) = 3 * x ^ 2 ∧ SumOnLine x y x slope sumX sumY := by
  have twice : 2 * y ≠ 0 := mul_ne_zero field_two_ne_zero nonzero
  have notOwnNegative : y ≠ curve.negY x y := by
    rw [negY_eq]
    intro same
    exact twice (by linear_combination same)
  refine ⟨_, _, _, _, Point.add_self_of_Y_ne notOwnNegative, ?_, sumOnLine _⟩
  rw [slope_of_Y_ne rfl notOwnNegative, negY_eq, sub_neg_eq_add, ← two_mul, div_mul_cancel₀ _ twice]
  simp [curve]

end Sum

namespace Point

/-- The triple is for the point with the coordinates `x` and `y`. -/
structure HasCoordinates (p : Point) (x y : ZMod prime) : Prop where
  nonzero : p.z ≠ 0
  below : p.z < prime
  yBelow : p.y < prime
  x_eq : (p.x : ZMod prime) = x * p.z ^ 2
  y_eq : (p.y : ZMod prime) = y * p.z ^ 3

/-- The triple is for a point of the curve. -/
def Stands (p : Point) : curve.Point → Prop
  | .zero => p.z = 0
  | .some x y _ => p.HasCoordinates x y

variable {p q : Point} {P Q : curve.Point}

theorem stands_zero_iff : p.Stands 0 ↔ p.z = 0 := Iff.rfl

theorem HasCoordinates.z_ne_zero {x y : ZMod prime} (has : p.HasCoordinates x y) :
    (p.z : ZMod prime) ≠ 0 :=
  natCast_ne_zero _ (Nat.pos_of_ne_zero has.nonzero) has.below

theorem HasCoordinates.y_eq_zero_iff {x y : ZMod prime} (has : p.HasCoordinates x y) :
    p.y = 0 ↔ y = 0 := by
  rw [← Modular.cast_eq_zero_iff has.yBelow, has.y_eq,
    mul_eq_zero_iff_right (pow_ne_zero 3 has.z_ne_zero)]

theorem Stands.z_eq_zero_iff (stands : p.Stands P) : p.z = 0 ↔ P = 0 := by
  cases P with
  | zero => exact ⟨fun _ => rfl, fun _ => stands⟩
  | some x y on =>
    constructor
    · intro zero
      exact absurd zero stands.nonzero
    · intro neutral
      cases neutral

theorem stands_ofAffine {x y : ZMod prime} (on : curve.Nonsingular x y) :
    (ofAffine x.val y.val).Stands (.some x y on) where
  nonzero := one_ne_zero
  below := prime_prime.one_lt
  yBelow := ZMod.val_lt y
  x_eq := by simp [ofAffine]
  y_eq := by simp [ofAffine]

section Double

theorem cast_double (finite : p.z ≠ 0) (steep : p.y ≠ 0) :
    (p.double.x : ZMod prime) = (3 * p.x ^ 2) ^ 2 - 8 * p.x * p.y ^ 2
      ∧ (p.double.y : ZMod prime)
        = 3 * p.x ^ 2 * (4 * p.x * p.y ^ 2 - p.double.x) - 8 * p.y ^ 4
      ∧ (p.double.z : ZMod prime) = 2 * p.y * p.z := by
  simp only [double, finite, steep, or_self, if_false, Modular.cast_sub (mod_lt _),
    Modular.cast_sub (sub_lt _ _), ZMod.natCast_mod, Nat.cast_mul, Nat.cast_ofNat]
  exact ⟨by ring, by ring, trivial⟩

theorem double_below (finite : p.z ≠ 0) (steep : p.y ≠ 0) :
    p.double.y < prime ∧ p.double.z < prime := by
  simp only [double, finite, steep, or_self, if_false]
  exact ⟨sub_lt _ _, mod_lt _⟩

variable {x y slope sumX sumY : ZMod prime}

theorem HasCoordinates.double (has : p.HasCoordinates x y) (nonzero : y ≠ 0)
    (tangent : slope * (2 * y) = 3 * x ^ 2) (line : SumOnLine x y x slope sumX sumY) :
    p.double.HasCoordinates sumX sumY := by
  have steep : p.y ≠ 0 := has.y_eq_zero_iff.not.mpr nonzero
  obtain ⟨castX, castY, castZ⟩ := cast_double has.nonzero steep
  obtain ⟨yBelow, below⟩ := double_below has.nonzero steep
  have finite : (p.double.z : ZMod prime) ≠ 0 := by
    have scaled : y * (p.z : ZMod prime) ^ 3 ≠ 0 :=
      mul_ne_zero nonzero (pow_ne_zero 3 has.z_ne_zero)
    rw [castZ, has.y_eq]
    exact mul_ne_zero (mul_ne_zero field_two_ne_zero scaled) has.z_ne_zero
  -- the slope stands squared in `x`, so the tangent's equation is needed for both of its factors
  have doubleX : (p.double.x : ZMod prime) = sumX * p.double.z ^ 2 := by
    rw [castX, castZ, line.x_eq, has.x_eq, has.y_eq]
    linear_combination -(p.z : ZMod prime) ^ 8 * (slope * (2 * y) + 3 * x ^ 2) * tangent
  refine ⟨(Modular.cast_eq_zero_iff below).not.mp finite, below, yBelow, doubleX, ?_⟩
  rw [castY, doubleX, castZ, line.y_eq, has.x_eq, has.y_eq]
  linear_combination -(p.z : ZMod prime) ^ 12 * 4 * y ^ 2 * (x - sumX) * tangent

theorem Stands.double (stands : p.Stands P) : p.double.Stands (P + P) := by
  cases P with
  | zero =>
    change p.double.z = 0
    rw [Point.double, if_pos (.inl stands)]
    rfl
  | some x y on =>
    have has : p.HasCoordinates x y := stands
    by_cases flat : y = 0
    · have own : y = curve.negY x y := by rw [negY_eq, flat, neg_zero]
      rw [WeierstrassCurve.Affine.Point.add_self_of_Y_eq own, Point.double,
        if_pos (.inr (has.y_eq_zero_iff.mpr flat))]
      rfl
    · obtain ⟨_, _, _, _, sum, tangent, line⟩ := exists_double on flat
      rw [sum]
      exact has.double flat tangent line

end Double

section Add

theorem cast_add (finite : p.z ≠ 0) (otherFinite : q.z ≠ 0)
    (distinct : p.x * (q.z * q.z % prime) % prime ≠ q.x * (p.z * p.z % prime) % prime) :
    let h : ZMod prime := q.x * p.z ^ 2 - p.x * q.z ^ 2
    let r : ZMod prime := q.y * p.z ^ 3 - p.y * q.z ^ 3
    ((p.add q).x : ZMod prime) = r ^ 2 - h ^ 3 - 2 * (p.x * q.z ^ 2 * h ^ 2)
      ∧ ((p.add q).y : ZMod prime)
        = r * (p.x * q.z ^ 2 * h ^ 2 - (p.add q).x) - p.y * q.z ^ 3 * h ^ 3
      ∧ ((p.add q).z : ZMod prime) = p.z * q.z * h := by
  simp only [add, finite, otherFinite, distinct, if_false, Modular.cast_sub (mod_lt _),
    Modular.cast_sub (sub_lt _ _), ZMod.natCast_mod, Nat.cast_mul, Nat.cast_ofNat]
  exact ⟨by ring, by ring, by ring⟩

theorem add_below (finite : p.z ≠ 0) (otherFinite : q.z ≠ 0)
    (distinct : p.x * (q.z * q.z % prime) % prime ≠ q.x * (p.z * p.z % prime) % prime) :
    (p.add q).y < prime ∧ (p.add q).z < prime := by
  simp only [add, finite, otherFinite, distinct, if_false]
  exact ⟨sub_lt _ _, mod_lt _⟩

variable {x y x' y' slope sumX sumY : ZMod prime}

theorem HasCoordinates.cross_x_eq_iff (has : p.HasCoordinates x y)
    (hasOther : q.HasCoordinates x' y') :
    p.x * (q.z * q.z % prime) % prime = q.x * (p.z * p.z % prime) % prime ↔ x = x' := by
  have common : ((p.z : ZMod prime) * q.z) ^ 2 ≠ 0 :=
    pow_ne_zero 2 (mul_ne_zero has.z_ne_zero hasOther.z_ne_zero)
  rw [← ZMod.natCast_eq_natCast_iff', ← mul_left_inj' common (a := x)]
  simp only [Nat.cast_mul, ZMod.natCast_mod, has.x_eq, hasOther.x_eq]
  ring_nf

theorem HasCoordinates.cross_y_eq_iff (has : p.HasCoordinates x y)
    (hasOther : q.HasCoordinates x' y') :
    p.y * (q.z * q.z % prime * q.z % prime) % prime
        = q.y * (p.z * p.z % prime * p.z % prime) % prime ↔ y = y' := by
  have common : ((p.z : ZMod prime) * q.z) ^ 3 ≠ 0 :=
    pow_ne_zero 3 (mul_ne_zero has.z_ne_zero hasOther.z_ne_zero)
  rw [← ZMod.natCast_eq_natCast_iff', ← mul_left_inj' common (a := y)]
  simp only [Nat.cast_mul, ZMod.natCast_mod, has.y_eq, hasOther.y_eq]
  ring_nf

theorem HasCoordinates.add (has : p.HasCoordinates x y) (hasOther : q.HasCoordinates x' y')
    (distinct : x ≠ x') (chord : slope * (x - x') = y - y')
    (line : SumOnLine x y x' slope sumX sumY) : (p.add q).HasCoordinates sumX sumY := by
  have crossed := (has.cross_x_eq_iff hasOther).not.mpr distinct
  obtain ⟨castX, castY, castZ⟩ := cast_add has.nonzero hasOther.nonzero crossed
  obtain ⟨yBelow, below⟩ := add_below has.nonzero hasOther.nonzero crossed
  have scale : (p.z * q.z : ZMod prime) ≠ 0 := mul_ne_zero has.z_ne_zero hasOther.z_ne_zero
  have finite : ((p.add q).z : ZMod prime) ≠ 0 := by
    have apart : (q.x * p.z ^ 2 - p.x * q.z ^ 2 : ZMod prime) = (x' - x) * (p.z * q.z) ^ 2 := by
      rw [has.x_eq, hasOther.x_eq]
      ring
    rw [castZ, apart]
    exact mul_ne_zero scale (mul_ne_zero (sub_ne_zero.mpr distinct.symm) (pow_ne_zero 2 scale))
  have addX : ((p.add q).x : ZMod prime) = sumX * (p.add q).z ^ 2 := by
    rw [castX, castZ, line.x_eq, has.x_eq, hasOther.x_eq, has.y_eq, hasOther.y_eq]
    linear_combination
      (p.z * q.z : ZMod prime) ^ 6 * (y' - y + slope * (x' - x)) * chord
  refine ⟨(Modular.cast_eq_zero_iff below).not.mp finite, below, yBelow, addX, ?_⟩
  rw [castY, addX, castZ, line.y_eq, has.x_eq, hasOther.x_eq, has.y_eq, hasOther.y_eq]
  linear_combination (p.z * q.z : ZMod prime) ^ 9 * (x' - x) ^ 2 * (x - sumX) * chord

theorem HasCoordinates.add_self (has : p.HasCoordinates x y) (hasSame : q.HasCoordinates x y) :
    p.add q = p.double := by
  simp only [Point.add, has.nonzero, hasSame.nonzero, if_false, if_true,
    (has.cross_x_eq_iff hasSame).mpr rfl, (has.cross_y_eq_iff hasSame).mpr rfl]

theorem HasCoordinates.add_opposite (has : p.HasCoordinates x y)
    (hasOther : q.HasCoordinates x y') (apart : y ≠ y') : p.add q = Point.zero := by
  simp only [Point.add, has.nonzero, hasOther.nonzero, if_false, if_true,
    (has.cross_x_eq_iff hasOther).mpr rfl, (has.cross_y_eq_iff hasOther).not.mpr apart]

theorem Stands.add (stands : p.Stands P) (standsOther : q.Stands Q) :
    (p.add q).Stands (P + Q) := by
  cases P with
  | zero =>
    rw [Point.add, if_pos (show p.z = 0 from stands)]
    exact (zero_add Q).symm ▸ standsOther
  | some x y on =>
    have has : p.HasCoordinates x y := stands
    cases Q with
    | zero =>
      rw [Point.add, if_neg has.nonzero, if_pos (show q.z = 0 from standsOther)]
      exact (add_zero (WeierstrassCurve.Affine.Point.some x y on)).symm ▸ stands
    | some x' y' on' =>
      have hasOther : q.HasCoordinates x' y' := standsOther
      by_cases sameX : x = x'
      · subst sameX
        by_cases sameY : y = y'
        · subst sameY
          rw [has.add_self hasOther]
          exact stands.double
        · have squares : y ^ 2 = y' ^ 2 := by
            rw [curve_nonsingular_iff.mp on, curve_nonsingular_iff.mp on']
          have opposite : y = curve.negY x y' := by
            rw [negY_eq]
            exact (sq_eq_sq_iff_eq_or_eq_neg.mp squares).resolve_left sameY
          rw [has.add_opposite hasOther sameY,
            WeierstrassCurve.Affine.Point.add_of_Y_eq rfl opposite]
          rfl
      · obtain ⟨_, _, _, _, sum, chord, line⟩ := exists_sum_of_ne on on' sameX
        rw [sum]
        exact has.add hasOther sameX chord line

end Add

/-- The program's multiple is the multiple in the group. -/
theorem Stands.multiple (stands : p.Stands P) (count : Nat) :
    (p.multiple count).Stands (count • P) := by
  have twice (half : Nat) (R : curve.Point) : half • (R + R) = (half * 2) • R := by
    rw [← two_nsmul, ← mul_nsmul']
  induction count, p using Point.multiple.induct generalizing P with
  | case1 p =>
    rw [Point.multiple, if_pos rfl, zero_nsmul]
    exact stands_zero_iff.mpr rfl
  | case2 count p positive even ih =>
    have halves : count / 2 * 2 = count := by omega
    have doubled := ih stands.double
    rw [twice, halves] at doubled
    rw [Point.multiple, if_neg positive, if_pos even]
    exact doubled
  | case3 count p positive odd ih =>
    have halves : count / 2 * 2 + 1 = count := by omega
    have sum := stands.add (ih stands.double)
    rw [twice, ← succ_nsmul', halves] at sum
    rw [Point.multiple, if_neg positive, if_neg odd]
    exact sum

theorem HasCoordinates.affine?_eq {x y : ZMod prime} (has : p.HasCoordinates x y) :
    p.affine? = some (x.val, y.val) := by
  have finite : p.z % prime ≠ 0 := by
    rw [Nat.mod_eq_of_lt has.below]
    exact has.nonzero
  have unit := has.z_ne_zero
  rw [affine?, if_neg finite]
  simp only [← ZMod.val_natCast, Nat.cast_mul, ZMod.natCast_val, ZMod.cast_id,
    Modular.cast_inverse unit, has.x_eq, has.y_eq]
  congr 3 <;> field_simp

theorem Stands.affine?_eq (stands : p.Stands P) : p.affine? = coordinates? P := by
  cases P with
  | zero =>
    rw [affine?, show p.z = 0 from stands]
    rfl
  | some x y on => exact HasCoordinates.affine?_eq stands

end Point

end TokenClaim.Secp256k1
