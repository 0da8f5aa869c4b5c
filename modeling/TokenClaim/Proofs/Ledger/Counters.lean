import TokenClaim.Proofs.Ledger.Entitlement
/-!
The counters of vamp records: after any run they add up the claims on the vamp that went through.
-/

set_option autoImplicit false

namespace TokenClaim

/-- The counters of a record add up the claims. -/
structure VampRecord.Tallies (record : VampRecord) (claims : List SettledClaim) : Prop where
  totalClaimed : record.totalClaimed.toNat = totalOf Receipt.amount claims
  reserve : record.reserve.toNat = totalOf Receipt.cost claims
  supply : record.supply.toNat = totalOf Receipt.amount claims

namespace Engine

variable {engine : Engine} {history : History} {ledger : Ledger}

theorem CreateSteps.claimsOn_eq_nil {request : CreateRequest}
    (steps : CreateSteps engine request ledger) (reached : engine.Reaches history ledger) :
    history.claimsOn steps.record.mint = [] := by
  rw [History.claimsOn, List.filter_eq_nil_iff]
  intro claim member same
  obtain ⟨account, record, kept⟩ := reached.keeps claim member
  exact steps.mint_ne reached.placed kept.stored (kept.mint.trans (of_decide_eq_true same))

theorem ClaimSteps.claimsOn_next {request : ClaimRequest}
    (steps : ClaimSteps engine request ledger) :
    (history.add (.claim request) (.ok (.claimed steps.receipt))).claimsOn
        steps.record.mint =
      history.claimsOn steps.record.mint ++ [⟨request, steps.receipt⟩] := by
  rw [History.claimsOn_claimed, if_pos (show steps.receipt.mint = steps.record.mint from rfl)]

theorem ClaimSteps.claimsOn_next_of_ne {request : ClaimRequest}
    (steps : ClaimSteps engine request ledger) {mint : Pubkey} (other : mint ≠ steps.record.mint) :
    (history.add (.claim request) (.ok (.claimed steps.receipt))).claimsOn mint =
      history.claimsOn mint := by
  rw [History.claimsOn_claimed, if_neg (show steps.receipt.mint ≠ mint from Ne.symm other),
    List.append_nil]

theorem ClaimSteps.tallies {request : ClaimRequest} (steps : ClaimSteps engine request ledger)
    {claims : List SettledClaim} (before : steps.record.Tallies claims) :
    steps.counted.Tallies (claims ++ [⟨request, steps.receipt⟩]) := by
  have moved := steps.counted_facts
  constructor
  · rw [totalOf_append, totalOf_singleton, moved.totalClaimed, before.totalClaimed]
    rfl
  · rw [totalOf_append, totalOf_singleton, moved.reserve, before.reserve]
    rfl
  · rw [totalOf_append, totalOf_singleton, moved.supply, before.supply]
    rfl

theorem Reaches.tallies (reached : engine.Reaches history ledger) :
    ∀ account record, ledger.recordAt account = .ok record →
      record.Tallies (history.claimsOn record.mint) := by
  refine reached.each_record
    (motive := fun history _ record => record.Tallies (history.claimsOn record.mint))
    ?refused ?created ?besideCreated ?claimed ?besideClaimed ?deposited
  case refused =>
    intro history ledger record operation refusal before
    rwa [History.claimsOn_refused]
  case created =>
    intro history ledger request before steps
    rw [History.claimsOn_created, steps.claimsOn_eq_nil before, steps.built]
    exact ⟨rfl, rfl, rfl⟩
  case besideCreated =>
    intro history ledger record request steps _ before
    rwa [History.claimsOn_created]
  case claimed =>
    intro history ledger request steps before
    rw [steps.counted_facts.continues.mint, steps.claimsOn_next]
    exact steps.tallies before
  case besideClaimed =>
    intro history ledger record request steps other before
    rwa [steps.claimsOn_next_of_ne other]
  case deposited =>
    intro history ledger record owner amount balance before
    rwa [History.claimsOn_deposited]

end Engine

end TokenClaim
