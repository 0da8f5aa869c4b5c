import TokenClaim.Proofs.Ledger.Lamports
import TokenClaim.Proofs.Ledger.Markers
import TokenClaim.Proofs.Ledger.PathIndependence
/-!
All that a claim does to a ledger. The cost goes from the claimant to the vamp's payment vault and
the tokens come from its vault, the record counts the claim, one marker and one event are new, and
whatever else there is reads as before.
-/

set_option autoImplicit false

namespace TokenClaim

structure Moved (before after : Pubkey → UInt64) (source target : Pubkey) (amount : UInt64) :
    Prop where
  taken : (after source).toNat + amount.toNat = (before source).toNat
  given : (after target).toNat = (before target).toNat + amount.toNat
  others : ∀ account, account ≠ source → account ≠ target → after account = before account

namespace Engine

/-- What a claim on the vamp of a record does to a ledger, where the claimant is neither of the
vamp's vaults. -/
structure ExactSettlement (engine : Engine) (request : ClaimRequest) (account : Pubkey)
    (record : VampRecord) (receipt : Receipt) (before after : Ledger) : Prop where
  lamports : Moved before.lamportsOf after.lamportsOf request.claimant record.payVault receipt.cost
  tokens : Moved (before.tokensOf record.mint) (after.tokensOf record.mint) record.vault
    request.claimant request.amount
  otherTokens : ∀ mint holder, mint ≠ record.mint →
    after.tokensOf mint holder = before.tokensOf mint holder
  counted : after.recordAt account = .ok { record with
    totalClaimed := receipt.totalClaimed, reserve := receipt.reserve, supply := receipt.supply }
  totalClaimed : receipt.totalClaimed.toNat = record.totalClaimed.toNat + request.amount.toNat
  reserve : receipt.reserve.toNat = record.reserve.toNat + receipt.cost.toNat
  supply : receipt.supply.toNat = record.supply.toNat + request.amount.toNat
  marked : ∃ bump,
    Ledger.findMarker account request.address engine.program = .ok (receipt.marker, bump) ∧
      after.markerAt receipt.marker =
        some ⟨true, bump, request.address, request.claimant, request.amount, receipt.cost⟩
  vacant : before.accounts.contains receipt.marker = false
  accounts : ∀ other, after.accounts.contains other = true ↔
    before.accounts.contains other = true ∨ other = receipt.marker
  otherAccounts : ∀ other, other ≠ receipt.marker → other ≠ account →
    after.accounts.find? other = before.accounts.find? other
  events : after.events = before.events ++ [.claimed record.mint request.claimant request.address
    request.amount receipt.cost receipt.supply]
  mint : receipt.mint = record.mint
  claimant : receipt.claimant = request.claimant
  address : receipt.address = request.address
  amount : receipt.amount = request.amount
  otherVamps : ∀ place other, before.recordAt place = .ok other → place ≠ account →
    other.mint ≠ record.mint ∧ after.recordAt place = .ok other ∧
      after.tokensOf other.mint other.vault = before.tokensOf other.mint other.vault
  /-- A marker that is read from another place than the new one's is read as before. -/
  otherMarkers : ∀ mint source,
    (∀ bump, DerivedAccount.findMarker? engine.program mint source ≠
      some (receipt.marker, bump)) →
    after.marker engine.program mint source = before.marker engine.program mint source
  /-- No marker that stood was in the new one's place. -/
  standingMarkers : ∀ mint source marker,
    before.marker engine.program mint source = .ok (some marker) →
      after.marker engine.program mint source = .ok (some marker)

variable {engine : Engine} {ledger : Ledger}

section
variable {request : ClaimRequest} (steps : ClaimSteps engine request ledger)

theorem ClaimSteps.lamports_settled (outside : request.claimant ≠ steps.record.payVault) :
    Moved ledger.lamportsOf steps.next.lamportsOf request.claimant steps.record.payVault
      steps.cost where
  taken := by
    rw [steps.lamportsOf_next, if_neg outside, if_pos rfl]
    exact steps.settlement_facts.claimantLamports
  given := by
    rw [steps.lamportsOf_next, if_pos rfl]
    exact steps.settlement_facts.payVaultLamports
  others account notPayer notVault := by
    rw [steps.lamportsOf_next, if_neg notVault, if_neg notPayer]

theorem ClaimSteps.tokens_settled (outside : request.claimant ≠ steps.record.vault) :
    Moved (ledger.tokensOf steps.record.mint) (steps.next.tokensOf steps.record.mint)
      steps.record.vault request.claimant request.amount where
  taken := by
    have moved := steps.vaultTokens_next
    rw [if_neg outside] at moved
    exact moved
  given := by
    rw [steps.tokensOf_next, if_pos rfl]
    exact steps.settlement_facts.claimantTokens
  others account notVault notReceiver := by
    rw [steps.tokensOf_next, if_neg fun same => notReceiver (Prod.mk.inj same).2,
      if_neg fun same => notVault (Prod.mk.inj same).2]

theorem ClaimSteps.contains_next (account : Pubkey) :
    steps.next.accounts.contains account = true ↔
      ledger.accounts.contains account = true ∨ account = steps.marker := by
  have known := Ledger.contains_of_recordAt steps.stored
  unfold Table.contains at known ⊢
  rw [steps.find?_next]
  by_cases here : account = steps.addresses.record
  · rw [if_pos here, here]
    exact iff_of_true rfl (Or.inl known)
  · rw [if_neg here]
    by_cases marked : account = steps.marker
    · rw [if_pos marked]
      exact iff_of_true rfl (Or.inr marked)
    · rw [if_neg marked, or_iff_left marked]

theorem ClaimSteps.marker_next {mint : Pubkey} {source : EthAddress}
    (elsewhere : ∀ bump,
      DerivedAccount.findMarker? engine.program mint source ≠ some (steps.marker, bump)) :
    steps.next.marker engine.program mint source = ledger.marker engine.program mint source := by
  unfold Ledger.marker
  cases found : Ledger.findAddresses mint engine.program with
  | error refusal => rfl
  | ok addresses =>
    cases marked : Ledger.findMarker addresses.record source engine.program with
    | error refusal => simp only [ok_bind, marked, error_bind]
    | ok derived =>
      obtain ⟨place, bump⟩ := derived
      have other : place ≠ steps.marker := by
        rintro rfl
        refine elsewhere bump ?_
        rw [DerivedAccount.findMarker?, Ledger.findAddresses_eq_ok_iff.mp found]
        exact Ledger.findMarker_eq_ok_iff.mp marked
      simp only [ok_bind, marked]
      have lookup := steps.find?_next place
      by_cases here : place = steps.addresses.record
      · -- The record stands here before and after, and it is no marker.
        rw [if_pos here] at lookup
        obtain ⟨data, stands, known⟩ := Ledger.recordAt_eq_ok_iff.mp steps.stored
        have counted := VampRecord.ofAccount_toAccount steps.recordWritten
        rw [lookup, here, stands]
        simp only [ClaimMarker.ofAccount_record known, ClaimMarker.ofAccount_record counted]
      · rw [if_neg here, if_neg other] at lookup
        rw [lookup]

theorem ClaimSteps.marker_kept {mint : Pubkey} {source : EthAddress} {marker : ClaimMarker}
    (stood : ledger.marker engine.program mint source = .ok (some marker)) :
    steps.next.marker engine.program mint source = .ok (some marker) := by
  obtain ⟨place, bump, derived, stands⟩ := Ledger.marker_eq_some_iff.mp stood
  exact Ledger.marker_eq_some_iff.mpr ⟨place, bump, derived, steps.markerAt_kept stands⟩

theorem ClaimSteps.exactSettlement (placed : ledger.Placed engine.program)
    (notVault : request.claimant ≠ steps.record.vault)
    (notPayVault : request.claimant ≠ steps.record.payVault) :
    engine.ExactSettlement request steps.addresses.record steps.record steps.receipt ledger
      steps.next where
  lamports := steps.lamports_settled notPayVault
  tokens := steps.tokens_settled notVault
  otherTokens mint holder other := steps.tokensOf_next_of_ne other holder
  counted := by
    rw [steps.counted_stored]
    exact congrArg Except.ok steps.counted_facts.continues
  totalClaimed := steps.counted_facts.totalClaimed
  reserve := steps.counted_facts.reserve
  supply := steps.counted_facts.supply
  marked := by
    refine ⟨steps.bump, steps.marked, ?_⟩
    rw [steps.markerAt_next]
    exact if_pos rfl
  vacant := steps.vacant
  accounts := steps.contains_next
  otherAccounts other notMarker notRecord := by
    rw [steps.find?_next, if_neg notRecord]
    exact if_neg notMarker
  events := rfl
  mint := rfl
  claimant := rfl
  address := rfl
  amount := rfl
  otherVamps place other stored elsewhere := by
    have apart : other.mint ≠ steps.record.mint := fun same =>
      elsewhere (placed.unique stored steps.stored same).1
    exact ⟨apart, steps.recordAt_next_eq_ok_iff.mpr (Or.inr ⟨elsewhere, stored⟩),
      steps.tokensOf_next_of_ne apart other.vault⟩
  otherMarkers _ _ elsewhere := steps.marker_next elsewhere
  standingMarkers _ _ _ stood := steps.marker_kept stood

end

/-- A claim of someone who is neither of the vamp's vaults settles exactly, at the price that the
record has it at before the claim. -/
theorem claim_settles_exactly (engine : Engine) (operations : List Operation)
    (request : ClaimRequest) (receipt : Receipt) (next : Ledger)
    (done : engine.claim request (engine.after operations) = .ok (receipt, next)) :
    ∃ addresses record pricing,
      Ledger.findAddresses request.mint engine.program = .ok addresses ∧
        (engine.after operations).recordAt addresses.record = .ok record ∧
        record.pricing = .ok pricing ∧
        pricing.cost record.supply request.amount = .ok receipt.cost ∧
        (request.claimant ≠ record.vault → request.claimant ≠ record.payVault →
          engine.ExactSettlement request addresses.record record receipt
            (engine.after operations) next) := by
  obtain ⟨steps, rfl, rfl⟩ := claim_eq_ok_iff.mp done
  have placed := (engine.reaches operations).placed
  refine ⟨steps.addresses, steps.record, steps.pricing, steps.found, steps.stored, steps.priced,
    steps.charged, fun notVault notPayVault => steps.exactSettlement placed notVault notPayVault⟩

end Engine

/-- The creator pays 205 of 300 lamports for five tokens on a cubic curve. -/
theorem cubic_claim_settles_exactly :
    ∃ operations receipt next,
      Market.engine.claim (Market.claimOf Market.first.mint Market.creator)
          (Market.engine.after operations) = .ok (receipt, next) ∧
        receipt.cost = 205 ∧
        Market.engine.ExactSettlement (Market.claimOf Market.first.mint Market.creator)
          Market.first.record Market.freshOnCurve receipt (Market.engine.after operations)
          next := by
  have done : Market.engine.claim (Market.claimOf Market.first.mint Market.creator)
      (Market.engine.after [.create Market.curveCreation, .deposit Market.creator 300]) =
        .ok (Market.claimedOnCurve.receipt, Market.claimedOnCurve.next) := by
    rw [Market.after_fundedOnCurve]
    exact Engine.claim_eq_ok_iff.mpr ⟨Market.claimedOnCurve, rfl, rfl⟩
  obtain ⟨addresses, record, _, found, stored, -, -, settles⟩ :=
    Engine.claim_settles_exactly _ _ _ _ _ done
  obtain rfl : Market.first = addresses :=
    Except.ok.inj (Market.claimedOnCurve.found.symm.trans found)
  rw [Market.after_fundedOnCurve] at stored
  obtain rfl : Market.freshOnCurve = record :=
    Except.ok.inj (Market.recordAt_fundedOnCurve.symm.trans stored)
  exact ⟨_, _, _, done, rfl, settles (by decide) (by decide)⟩

end TokenClaim
