import TokenClaim.Proofs.Pricing.Splitting
/-!
Quotes. The price of the last unit is a part of the cost, so that 64 bits hold it where they hold
the cost, and a quote can be given for every claim that can be charged.
-/

set_option autoImplicit false

namespace TokenClaim

theorem checkCeiling_eq_ok_iff {price : Nat} {ceiling : Option UInt64} :
    checkCeiling price ceiling = .ok () ↔ ∀ limit, ceiling = some limit → price ≤ limit.toNat := by
  cases ceiling with
  | none => simp [checkCeiling]
  | some limit =>
    simp only [checkCeiling, Option.some.injEq, forall_eq']
    split <;> simp <;> omega

theorem checkCeiling_eq_error_iff {price : Nat} {ceiling : Option UInt64} {refusal : Refusal} :
    checkCeiling price ceiling = .error refusal ↔ ∃ limit, ceiling = some limit ∧
      limit.toNat < price ∧ refusal = .ceilingExceeded price limit := by
  cases ceiling with
  | none => simp [checkCeiling]
  | some limit =>
    by_cases above : limit.toNat < price
    · simp [checkCeiling, above, eq_comm]
    · simp [checkCeiling, above]

namespace Pricing

def plainPrice : Pricing → (supply : Nat) → Nat
  | free, _ => 0
  | flat price _, _ => price.toNat
  | curve line, supply => line.plainPrice supply

def ceiling? : Pricing → Option UInt64
  | free => none
  | flat _ ceiling => ceiling
  | curve line => line.ceiling

variable {pricing : Pricing} {supply amount cost : UInt64}

theorem plainPrice_le_plainCost (pricing : Pricing) {supply amount last : Nat}
    (start : supply ≤ last) (inside : last < supply + amount) :
    pricing.plainPrice last ≤ pricing.plainCost supply amount := by
  cases pricing with
  | free => exact Nat.le_refl 0
  | flat price ceiling => exact Nat.le_mul_of_pos_left _ (by omega)
  | curve line => exact line.plainPrice_le_plainCost start inside

theorem unitPrice_eq_ok_iff {price : UInt64} (sells : pricing.Sells supply.toNat) :
    pricing.unitPrice supply = .ok price ↔ price.toNat = pricing.plainPrice supply.toNat := by
  cases pricing with
  | free => exact free_eq_ok_iff
  | flat fixed ceiling =>
    rw [unitPrice, plainPrice, Except.ok.injEq, ← UInt64.toNat_inj, eq_comm]
  | curve line =>
    have told : (Pricing.curve line).unitPrice supply =
        orOverflow (Word64.ofNat? (line.plainPrice supply.toNat)) := by
      rw [unitPrice, BondingCurve.priceAt_eq sells.supported]
      exact (orOverflow_bind _ _).trans (congrArg orOverflow (Word64.word128?_bind_ofNat? _))
    rw [told, orOverflow_ofNat?_eq_ok_iff]
    rfl

theorem Sells.plainPrice_le {supply : Nat} {ceiling : UInt64} (sells : pricing.Sells supply)
    (limited : pricing.ceiling? = some ceiling) : pricing.plainPrice supply ≤ ceiling.toNat := by
  cases pricing with
  | free => exact Nat.zero_le _
  | flat price given => exact checkCeiling_eq_ok_iff.mp sells ceiling limited
  | curve line =>
    have limit : line.ceiling = some ceiling := limited
    have below : ¬ceiling.toNat < line.plainPrice supply := by
      simpa [BondingCurve.exceeded?, limit] using sells.affordable
    exact Nat.not_lt.mp below

end Pricing

/-- A claim that can be charged is quoted at its cost and at the plain price of its last unit, which
is not above the ceiling. -/
theorem Quote.exists_of_cost {pricing : Pricing} {supply amount cost last : UInt64}
    (charged : pricing.cost supply amount = .ok cost) (nonzero : amount ≠ 0)
    (numbered : last.toNat = supply.toNat + amount.toNat - 1) :
    ∃ price, Quote.of pricing supply amount = .ok ⟨amount, supply, cost, price⟩ ∧
      pricing.unitPrice last = .ok price ∧ price.toNat = pricing.plainPrice last.toNat ∧
      ∀ ceiling, pricing.ceiling? = some ceiling → price ≤ ceiling := by
  have positive := Word64.toNat_pos nonzero
  obtain ⟨total, sold⟩ := Pricing.cost_eq_ok_iff.mp charged
  have sells : pricing.Sells last.toNat := numbered ▸ sold nonzero
  have part : pricing.plainPrice last.toNat ≤ cost.toNat := by
    rw [total]
    exact pricing.plainPrice_le_plainCost (by omega) (by omega)
  have fits := Nat.lt_of_le_of_lt part cost.toNat_lt
  have price : (UInt64.ofNatLT _ fits).toNat = pricing.plainPrice last.toNat :=
    UInt64.toNat_ofNatLT
  have told := (Pricing.unitPrice_eq_ok_iff sells).mpr price
  have added : Word64.add? supply (amount - 1) = some last := by
    rw [Word64.add?_eq_some_iff, Word64.toNat_sub_one nonzero]
    omega
  refine ⟨_, ?_, told, price, fun ceiling limited => ?_⟩
  · simp only [Quote.of, charged, if_neg nonzero, added, orOverflow, told, ok_bind]
    rfl
  · rw [UInt64.le_iff_toNat_le, price]
    exact sells.plainPrice_le limited

end TokenClaim
