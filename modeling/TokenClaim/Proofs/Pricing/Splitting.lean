import TokenClaim.Proofs.Pricing.ExactCost
/-!
When claims go through pricing, and that two claims in a row cost what one claim of both amounts
costs. A price is only checked for the last unit of a claim, which is the last unit of the whole.
-/

set_option autoImplicit false

namespace TokenClaim

theorem orOverflow_ofNat?_eq_ok_iff {value : Nat} {word : UInt64} :
    orOverflow (Word64.ofNat? value) = .ok word ↔ word.toNat = value := by
  rw [orOverflow_eq_ok_iff, Word64.ofNat?_eq_some_iff]

theorem free_eq_ok_iff {cost : UInt64} :
    (return 0 : Result UInt64) = .ok cost ↔ cost.toNat = 0 := by
  change Except.ok (0 : UInt64) = .ok cost ↔ _
  rw [Except.ok.injEq, ← UInt64.toNat_inj, UInt64.toNat_zero, eq_comm]

namespace BondingCurve

variable {curve : BondingCurve}

/-- The unit at a supply has a number of 64 bits and a price that is not above the ceiling. -/
structure Sells (curve : BondingCurve) (supply : Nat) : Prop where
  supported : curve.Supported
  numbered : supply < UInt64.size
  affordable : curve.exceeded? supply = none

theorem priceAt_of_unsupported (unsupported : ¬curve.Supported) (supply : UInt64) :
    curve.priceAt supply =
      .error (.invalidAccount (.unsupportedExponent curve.exponent)) := by
  obtain ⟨high, rising⟩ := not_or.mp unsupported
  rw [priceAt, if_neg rising, boundedPower, if_pos (UInt32.not_le.mp high)]
  rfl

theorem supported_of_cost {amount supply cost : UInt64} (nonzero : amount ≠ 0)
    (charged : curve.cost amount supply = .ok cost) : curve.Supported := by
  -- Before anything is summed the last unit is priced, and that asks for the power.
  by_contra unsupported
  rw [BondingCurve.cost, if_neg nonzero] at charged
  obtain ⟨last, -, charged⟩ := bind_eq_ok_iff.mp charged
  obtain ⟨price, told, -⟩ := bind_eq_ok_iff.mp charged
  rw [lastPrice, priceAt_of_unsupported unsupported] at told
  cases kept : curve.ceiling <;> rw [kept] at told <;> cases told

theorem cost_eq_ok_iff {amount supply cost : UInt64} :
    curve.cost amount supply = .ok cost ↔
      cost.toNat = curve.plainCost supply.toNat amount.toNat ∧
        (amount ≠ 0 → curve.Sells (supply.toNat + amount.toNat - 1)) := by
  by_cases nothing : amount = 0
  · have free : curve.plainCost supply.toNat amount.toNat = 0 := by simp [nothing, plainCost]
    rw [BondingCurve.cost, if_pos nothing, free, free_eq_ok_iff]
    simp [nothing]
  by_cases beyond : UInt64.size ≤ supply.toNat + amount.toNat - 1
  · rw [cost_eq_overflow nothing beyond]
    constructor
    · intro impossible
      cases impossible
    · rintro ⟨-, sold⟩
      exact absurd (sold nothing).numbered (Nat.not_lt.mpr beyond)
  have numbered := Nat.not_le.mp beyond
  have last : (UInt64.ofNatLT _ numbered).toNat = supply.toNat + amount.toNat - 1 :=
    UInt64.toNat_ofNatLT
  constructor
  · intro charged
    have supported := supported_of_cost nothing charged
    rw [cost_of_last supported nothing last, last] at charged
    split at charged
    · cases charged
    · rename_i within
      exact ⟨orOverflow_ofNat?_eq_ok_iff.mp charged, fun _ => ⟨supported, numbered, within⟩⟩
  · rintro ⟨sum, sold⟩
    have sells := sold nothing
    rw [cost_of_last sells.supported nothing last, last, sells.affordable]
    exact orOverflow_ofNat?_eq_ok_iff.mpr sum

end BondingCurve

namespace Pricing

def plainCost : Pricing → (supply amount : Nat) → Nat
  | free, _, _ => 0
  | flat price _, _, amount => amount * price.toNat
  | curve line, supply, amount => line.plainCost supply amount

def Sells : Pricing → (supply : Nat) → Prop
  | free, _ => True
  | flat price ceiling, _ => checkCeiling price.toNat ceiling = .ok ()
  | curve line, supply => line.Sells supply

theorem plainCost_add (pricing : Pricing) (supply first second : Nat) :
    pricing.plainCost supply (first + second) =
      pricing.plainCost supply first + pricing.plainCost (supply + first) second := by
  cases pricing with
  | free => rfl
  | flat price ceiling => exact Nat.add_mul _ _ _
  | curve line => exact line.plainCost_add supply first second

theorem flatCost_eq_ok_iff {amount price cost : UInt64} {ceiling : Option UInt64} :
    flatCost amount price ceiling = .ok cost ↔
      cost.toNat = amount.toNat * price.toNat ∧
        (amount ≠ 0 → checkCeiling price.toNat ceiling = .ok ()) := by
  unfold flatCost
  by_cases nothing : amount = 0
  · rw [if_pos nothing, free_eq_ok_iff]
    simp [nothing]
  · rw [if_neg nothing]
    simp only [bind_eq_ok_iff, Word64.mul?, orOverflow_ofNat?_eq_ok_iff]
    constructor
    · rintro ⟨⟨⟩, within, product⟩
      exact ⟨product, fun _ => within⟩
    · rintro ⟨product, within⟩
      exact ⟨(), within nothing, product⟩

theorem cost_eq_ok_iff {pricing : Pricing} {supply amount cost : UInt64} :
    pricing.cost supply amount = .ok cost ↔
      cost.toNat = pricing.plainCost supply.toNat amount.toNat ∧
        (amount ≠ 0 → pricing.Sells (supply.toNat + amount.toNat - 1)) := by
  cases pricing with
  | free =>
    refine free_eq_ok_iff.trans ?_
    simp [plainCost, Sells]
  | flat price ceiling => exact flatCost_eq_ok_iff
  | curve line => exact BondingCurve.cost_eq_ok_iff

/-- Two claims in a row cost together what one claim of both amounts costs. -/
theorem cost_of_parts {pricing : Pricing} {supply between first second amount firstCost secondCost
    cost : UInt64} (start : pricing.cost supply first = .ok firstCost)
    (rest : pricing.cost between second = .ok secondCost)
    (moved : between.toNat = supply.toNat + first.toNat)
    (both : amount.toNat = first.toNat + second.toNat)
    (paid : cost.toNat = firstCost.toNat + secondCost.toNat) :
    pricing.cost supply amount = .ok cost := by
  obtain ⟨firstSum, firstSold⟩ := cost_eq_ok_iff.mp start
  obtain ⟨secondSum, secondSold⟩ := cost_eq_ok_iff.mp rest
  refine cost_eq_ok_iff.mpr ⟨?_, ?_⟩
  · rw [both, plainCost_add, ← moved, ← firstSum, ← secondSum, paid]
  · intro nonzero
    by_cases nothing : second = 0
    · -- The last unit of the whole is that of the first part.
      have same : amount = first := by
        rw [nothing, UInt64.toNat_zero, Nat.add_zero] at both
        exact UInt64.toNat_inj.mp both
      rw [same] at nonzero ⊢
      exact firstSold nonzero
    · have last : supply.toNat + amount.toNat - 1 = between.toNat + second.toNat - 1 := by omega
      rw [last]
      exact secondSold nothing

end Pricing

end TokenClaim
