import TokenClaim.Attestation.Signer
import TokenClaim.Proofs.Curve.Generator
/-!
The key that is recovered from a signature is the signer's.

With the nonce `k` and the point `k • base` at `r`, a signature's `s` satisfies
`s * k = r * secret + message` modulo the order. Recovery solves this for `secret • base`. If the
signer takes the lower of the two values of `s`, the equation holds for the opposite nonce, whose
point has the other parity.
-/

set_option autoImplicit false

namespace TokenClaim

open Secp256k1

/-- `(r, s)` signs a message with a nonce; `odd` is the parity of the nonce's point. -/
structure Signs (secret message nonce r s : Nat) (odd : Bool) : Prop where
  rBelow : r < order
  sPositive : 0 < s
  sBelow : s < order
  equation : (s * nonce : ZMod order) = r * secret + message
  point : ∃ x y, ∃ on : curve.Nonsingular x y,
    nonce • base = .some x y on ∧ r = x.val ∧ odd = (y.val % 2 == 1)

namespace Signs

variable {secret message nonce r s : Nat} {odd : Bool}

theorem r_ne_zero (signs : Signs secret message nonce r s odd) : r ≠ 0 := by
  obtain ⟨x, _, on, _, rfl, _⟩ := signs.point
  rw [ne_eq, ZMod.val_eq_zero]
  exact x_ne_zero on

theorem opposite (signs : Signs secret message nonce r s odd) (positive : 0 < nonce)
    (below : nonce < order) : Signs secret message (order - nonce) r (order - s) (!odd) where
  rBelow := signs.rBelow
  sPositive := Nat.sub_pos_of_lt signs.sBelow
  sBelow := Nat.sub_lt order_prime.pos signs.sPositive
  equation := by
    rw [Nat.cast_sub signs.sBelow.le, Nat.cast_sub below.le, ZMod.natCast_self, ← signs.equation]
    ring
  point := by
    obtain ⟨x, y, on, found, isX, parity⟩ := signs.point
    have nonzero : y ≠ 0 := y_ne_zero_of_nsmul_base positive below found
    have negative : (order - nonce) • base = -(nonce • base) := by
      rw [eq_neg_iff_add_eq_zero, ← add_nsmul, Nat.sub_add_cancel below.le, order_nsmul_base]
    refine ⟨x, -y, ?_, ?_, isX, ?_⟩
    · rw [curve_nonsingular_iff, neg_sq]
      exact curve_nonsingular_iff.mp on
    · rw [negative, found, WeierstrassCurve.Affine.Point.neg_some]
      simp only [negY_eq]
    · rw [odd_val_neg nonzero, parity]

theorem combination (signs : Signs secret message nonce r s odd) (hash : Nat)
    (isMessage : (hash : ZMod order) = message) :
    ((s * Modular.inverse order r % order * nonce
      + (order - hash % order) * Modular.inverse order r % order : Nat) : ZMod order)
        = secret := by
  have unit : (r : ZMod order) ≠ 0 :=
    (Modular.cast_eq_zero_iff signs.rBelow).not.mpr signs.r_ne_zero
  have within : hash % order ≤ order := (Nat.mod_lt _ order_prime.pos).le
  simp only [Nat.cast_add, Nat.cast_mul, ZMod.natCast_mod, Nat.cast_sub within, ZMod.natCast_self,
    Modular.cast_inverse unit, isMessage]
  -- what is left is the equation of the signature, divided by `r`
  field_simp
  linear_combination signs.equation

theorem recoverKey? {hash : Digest} (signs : Signs secret message nonce r s odd)
    (isMessage : (hash.toNat : ZMod order) = message) :
    Signature.recoverKey? hash r s odd = (generator.multiple secret).affine? := by
  obtain ⟨x, y, on, found, isX, parity⟩ := signs.point
  have lifted : liftX? r odd = some (Point.ofAffine x.val y.val) := by
    rw [isX, parity, liftX?_eq on]
  have ofNonce := (Point.stands_ofAffine on).multiple (s * Modular.inverse order r % order)
  have sum := ofNonce.add (multiple_generator_stands
    ((order - hash.toNat % order) * Modular.inverse order r % order))
  rw [← found, ← mul_nsmul', ← add_nsmul, nsmul_base_eq (signs.combination hash.toNat isMessage)]
    at sum
  have defined : ¬(r = 0 ∨ s = 0) := not_or.mpr ⟨signs.r_ne_zero, signs.sPositive.ne'⟩
  rw [Signature.recoverKey?, if_neg defined, lifted]
  exact sum.affine?_eq.trans (multiple_generator_stands secret).affine?_eq.symm

end Signs

namespace Signer

/-- How a nonce gives a signature: the coordinates of the nonce's point, the first value of `s`, and
the choice between it and the opposite one. -/
structure SignedWith (secret message nonce r s recovery x y first : Nat) : Prop where
  positive : 0 < nonce
  below : nonce < order
  found : (generator.multiple nonce).affine? = some (x, y)
  r_eq : r = x % order
  first_eq : first = Modular.inverse order nonce * (r * secret + message) % order
  firstPositive : 0 < first
  chosen : s = first ∧ recovery = (if order ≤ x then 2 else 0) + y % 2 ∨
    s = order - first ∧ recovery = (if order ≤ x then 2 else 0) + (1 - y % 2)

variable {secret message nonce r s recovery x y first : Nat}

theorem exists_signedWith (signed : signWithNonce? secret message nonce = some (r, s, recovery)) :
    ∃ x y first, SignedWith secret message nonce r s recovery x y first := by
  unfold signWithNonce? at signed
  split at signed
  · cases signed
  rename_i inRange
  rw [not_or, not_le] at inRange
  simp only [Option.bind_eq_bind, Option.bind_eq_some_iff, Prod.exists] at signed
  obtain ⟨x, y, found, signed⟩ := signed
  have positive := Nat.pos_of_ne_zero inRange.1
  split at signed
  · cases signed
  rename_i nonzero
  have firstPositive := Nat.pos_of_ne_zero nonzero
  split at signed
  · cases signed
    refine ⟨x, y, _, positive, inRange.2, found, rfl, rfl, firstPositive, .inr ⟨rfl, ?_⟩⟩
    rcases Nat.mod_two_eq_zero_or_one y with even | odd
    · rw [even, if_pos rfl]
    · rw [odd, if_neg one_ne_zero]
      rfl
  · cases signed
    exact ⟨x, y, _, positive, inRange.2, found, rfl, rfl, firstPositive, .inl ⟨rfl, rfl⟩⟩

namespace SignedWith

theorem signs_first (signed : SignedWith secret message nonce r s recovery x y first)
    (small : x < order) : Signs secret message nonce r first (y % 2 == 1) where
  rBelow := signed.r_eq ▸ Nat.mod_lt _ order_prime.pos
  sPositive := signed.firstPositive
  sBelow := signed.first_eq ▸ Nat.mod_lt _ order_prime.pos
  equation := by
    have unit : (nonce : ZMod order) ≠ 0 :=
      (Modular.cast_eq_zero_iff signed.below).not.mpr signed.positive.ne'
    rw [signed.first_eq, ZMod.natCast_mod, Nat.cast_mul, Modular.cast_inverse unit]
    push_cast
    field_simp
  point := by
    have found := signed.found
    rw [(multiple_generator_stands nonce).affine?_eq] at found
    rcases atNonce : nonce • base with _ | ⟨pointX, pointY, on⟩
    · rw [atNonce] at found
      cases found
    · rw [atNonce] at found
      cases found
      exact ⟨pointX, pointY, on, rfl, signed.r_eq.trans (Nat.mod_eq_of_lt small), rfl⟩

/-- A signature whose recovery identifier is 0 or 1 signs with the nonce or the opposite one. -/
theorem exists_signs (signed : SignedWith secret message nonce r s recovery x y first)
    (plain : recovery < 2) : ∃ used, Signs secret message used r s (recovery == 1) := by
  have chosen := signed.chosen
  have small : ¬order ≤ x := by
    intro big
    rw [if_pos big] at chosen
    omega
  have signs := signed.signs_first (not_le.mp small)
  rw [if_neg small, zero_add, zero_add] at chosen
  rcases chosen with ⟨rfl, rfl⟩ | ⟨rfl, rfl⟩
  · exact ⟨nonce, signs⟩
  · have flipped : (1 - y % 2 == 1) = !(y % 2 == 1) := by
      rcases Nat.mod_two_eq_zero_or_one y with even | odd
      · rw [even]
        rfl
      · rw [odd]
        rfl
    rw [flipped]
    exact ⟨order - nonce, signs.opposite signed.positive signed.below⟩

end SignedWith

end Signer

end TokenClaim
