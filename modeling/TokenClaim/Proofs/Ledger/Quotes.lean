import TokenClaim.Proofs.Ledger.PathIndependence
import TokenClaim.Proofs.Pricing.Quotes
/-!
A quote is the price charged. What a claim has to pass includes all that a quote can fail on, so
that where a claim goes through its quote is given, with the claim's own numbers.
-/

set_option autoImplicit false

namespace TokenClaim

theorem VampRecord.ceiling_of_pricing {record : VampRecord} {pricing : Pricing}
    (priced : record.pricing = .ok pricing) (paid : record.paid = true) :
    pricing.ceiling? = record.ceiling := by
  simp only [VampRecord.pricing, paid, Bool.not_true, Bool.false_eq_true, if_false] at priced
  split at priced
  · cases priced
    rfl
  · split at priced <;> cases priced
    rfl

structure Quote.Foretells (quote : Quote) (record : VampRecord) (receipt : Receipt) : Prop where
  amount : quote.amount = receipt.amount
  cost : quote.cost = receipt.cost
  supply : quote.supply.toNat + receipt.amount.toNat = receipt.supply.toNat
  /-- The last unit sold is the one below the new supply. -/
  marginalPrice : ∃ pricing, record.pricing = .ok pricing ∧
    pricing.unitPrice (receipt.supply - 1) = .ok quote.marginalPrice ∧
    quote.marginalPrice.toNat = pricing.plainPrice (receipt.supply.toNat - 1)
  ceiling : ∀ ceiling, record.paid = true → record.ceiling = some ceiling →
    quote.marginalPrice ≤ ceiling

namespace Engine

variable {engine : Engine} {ledger : Ledger}

theorem ClaimSteps.vamp_eq {request : ClaimRequest} (steps : ClaimSteps engine request ledger) :
    ledger.vamp engine.program request.mint = .ok steps.record := by
  simp only [Ledger.vamp, steps.found, steps.stored, ok_bind]

theorem ClaimSteps.exists_quote {request : ClaimRequest}
    (steps : ClaimSteps engine request ledger) :
    ∃ quote, ledger.quote engine.program request.mint request.amount = .ok quote ∧
      quote.Foretells steps.record steps.receipt := by
  obtain ⟨-, nonzero, -⟩ := authorize_eq_ok steps.authorized
  have positive := Word64.toNat_pos nonzero
  have moved := steps.counted_facts.supply
  have sold : steps.counted.supply ≠ 0 := by
    rw [← UInt64.toNat_inj.ne, UInt64.toNat_zero]
    omega
  have last : (steps.counted.supply - 1).toNat =
      steps.record.supply.toNat + request.amount.toNat - 1 := by
    rw [Word64.toNat_sub_one sold, moved]
  obtain ⟨price, quoted, told, plain, limited⟩ := Quote.exists_of_cost steps.charged nonzero last
  refine ⟨⟨request.amount, steps.record.supply, steps.cost, price⟩, ?_, ?_⟩
  · simp only [Ledger.quote, steps.vamp_eq, steps.priced, quoted, ok_bind]
  · exact {
      amount := rfl
      cost := rfl
      supply := moved.symm
      marginalPrice := by
        rw [Word64.toNat_sub_one sold] at plain
        exact ⟨steps.pricing, steps.priced, told, plain⟩
      ceiling := fun ceiling paid limit =>
        limited ceiling ((VampRecord.ceiling_of_pricing steps.priced paid).trans limit) }

/-- A claim that goes through could have been quoted, on the ledger that it finds, at the cost that
it is charged and at the price of the last unit that it sells. -/
theorem quote_is_charged {request : ClaimRequest} {receipt : Receipt} {next : Ledger}
    (done : engine.claim request ledger = .ok (receipt, next)) :
    ∃ record quote, ledger.vamp engine.program request.mint = .ok record ∧
      ledger.quote engine.program request.mint request.amount = .ok quote ∧
      quote.Foretells record receipt := by
  obtain ⟨steps, rfl, rfl⟩ := claim_eq_ok_iff.mp done
  obtain ⟨quote, quoted, foretold⟩ := steps.exists_quote
  exact ⟨steps.record, quote, steps.vamp_eq, quoted, foretold⟩

end Engine

theorem quote_is_charged_cubic :
    ∃ receipt next record quote,
      Market.engine.claim (Market.claimOf Market.first.mint Market.creator) Market.fundedOnCurve =
          .ok (receipt, next) ∧
        receipt.cost = 205 ∧
        Market.fundedOnCurve.quote Market.engine.program Market.first.mint 5 = .ok quote ∧
        quote.Foretells record receipt := by
  have done : Market.engine.claim (Market.claimOf Market.first.mint Market.creator)
      Market.fundedOnCurve = .ok (Market.claimedOnCurve.receipt, Market.claimedOnCurve.next) :=
    Engine.claim_eq_ok_iff.mpr ⟨Market.claimedOnCurve, rfl, rfl⟩
  obtain ⟨record, quote, -, quoted, foretold⟩ := Engine.quote_is_charged done
  exact ⟨_, _, record, quote, done, rfl, quoted, foretold⟩

end TokenClaim
