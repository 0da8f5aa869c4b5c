import TokenClaim.Proofs.Ledger.Tokens
import TokenClaim.Proofs.Pricing.Splitting
/-!
What holders have paid for a vamp's tokens does not depend on how they claimed them: after any run
the reserve is the cost of one claim of all tokens claimed so far.
-/

set_option autoImplicit false

namespace TokenClaim

/-- What was paid is what one claim of all claimed tokens costs, the first of them at supply 0. -/
structure VampRecord.PaidAsOne (record : VampRecord) : Prop where
  supply : record.supply = record.totalClaimed
  reserve : ∃ pricing, record.pricing = .ok pricing ∧
    pricing.cost 0 record.totalClaimed = .ok record.reserve

theorem VampRecord.Continues.pricing {old new : VampRecord} (same : old.Continues new) :
    new.pricing = old.pricing := by
  rw [same]
  rfl

namespace Engine

variable {engine : Engine} {history : History} {ledger : Ledger}

theorem pricing_newRecord (addresses : VampAddresses) (authority : Pubkey) (identifier : UInt64)
    (descriptor : Descriptor) (terms : Terms) (initialPrice : UInt64) :
    (newRecord addresses authority identifier descriptor terms initialPrice).pricing =
      .ok terms.pricing := by
  have small := terms.exponent.toNat_lt
  have widened : (UInt64.ofNat terms.exponent.toNat).toNat = terms.exponent.toNat := by
    rw [UInt64.toNat_ofNat']
    omega
  simp only [VampRecord.pricing, newRecord, Terms.pricing, widened, UInt32.ofNat_toNat]
  split
  · rfl
  · split
    · rfl
    · rw [if_neg (Nat.not_le.mpr small)]

theorem CreateSteps.paidAsOne {request : CreateRequest}
    (steps : CreateSteps engine request ledger) : steps.record.PaidAsOne := by
  rw [steps.built]
  refine ⟨rfl, steps.terms.pricing, pricing_newRecord _ _ _ _ _ _, ?_⟩
  refine Pricing.cost_eq_ok_iff.mpr ⟨?_, fun nonzero => absurd rfl nonzero⟩
  cases steps.terms.pricing <;> simp [newRecord, Pricing.plainCost, BondingCurve.plainCost]

theorem ClaimSteps.paidAsOne {request : ClaimRequest} (steps : ClaimSteps engine request ledger)
    (before : steps.record.PaidAsOne) : steps.counted.PaidAsOne := by
  have moved := steps.counted_facts
  obtain ⟨pricing, priced, paid⟩ := before.reserve
  have same : pricing = steps.pricing := Except.ok.inj (priced.symm.trans steps.priced)
  have supply := congrArg UInt64.toNat before.supply
  constructor
  · apply UInt64.toNat_inj.mp
    rw [moved.supply, moved.totalClaimed, supply]
  · refine ⟨pricing, moved.continues.pricing.trans priced, ?_⟩
    -- The tokens claimed before the claim number the supply that it was priced at.
    have charged : pricing.cost steps.record.supply request.amount = .ok steps.cost := by
      rw [same]
      exact steps.charged
    refine Pricing.cost_of_parts paid charged ?_ moved.totalClaimed moved.reserve
    rw [supply, UInt64.toNat_zero, Nat.zero_add]

theorem Reaches.paidAsOne (reached : engine.Reaches history ledger) :
    ∀ account record, ledger.recordAt account = .ok record → record.PaidAsOne := by
  refine reached.each_record (motive := fun _ _ record => record.PaidAsOne)
    ?refused ?created ?besideCreated ?claimed ?besideClaimed ?deposited
  case refused => exact fun _ _ before => before
  case created => exact fun _ steps => steps.paidAsOne
  case besideCreated => exact fun _ _ before => before
  case claimed => exact fun steps before => steps.paidAsOne before
  case besideClaimed => exact fun _ _ before => before
  case deposited => exact fun _ _ _ before => before

/-- After any run, whatever the number, sizes and order of the claims on a vamp: its supply is the
tokens claimed, and its reserve is what a single claim of them all would have cost. -/
theorem reserve_path_independent (engine : Engine) (operations : List Operation) (account : Pubkey)
    (record : VampRecord) (stored : (engine.after operations).recordAt account = .ok record) :
    record.supply = record.totalClaimed ∧
      ∃ pricing, record.pricing = .ok pricing ∧
        pricing.cost 0 record.totalClaimed = .ok record.reserve := by
  have paid := (engine.reaches operations).paidAsOne account record stored
  exact ⟨paid.supply, paid.reserve⟩

end Engine

namespace Market

open Engine

/-- The unit at supply `s` costs `1 + 2 * s ^ 3`. -/
def cubic : Terms where
  paid := true
  onCurve := true
  slope := 2
  base := 1
  ceiling := some 200
  flatPrice := 0
  exponent := 3

def curveCreation : CreateRequest := { creation 49 with terms := some cubic }

def freshOnCurve : VampRecord := newRecord first creator 49 offer cubic 1

def soldOnCurve : VampRecord :=
  { freshOnCurve with totalClaimed := 5, reserve := 205, supply := 5 }

def openedOnCurve : CreateSteps engine curveCreation .empty :=
  openedFrom .standard offer offer.write cubic 1 read_offer rfl rfl rfl

def fundedOnCurve : Ledger := credited openedOnCurve.next creator 300

theorem recordAt_fundedOnCurve : fundedOnCurve.recordAt first.record = .ok freshOnCurve :=
  openedOnCurve.record_stored

def claimedOnCurve : ClaimSteps engine (claimOf first.mint creator) fundedOnCurve where
  addresses := first
  record := freshOnCurve
  pricing := cubic.pricing
  cost := 205
  settlement := ⟨95, 205, 5, 5⟩
  counted := soldOnCurve
  recordData := accountOf VampRecord.kind soldOnCurve
  marker := firstMarker
  bump := 255
  markerData := accountOf ClaimMarker.kind ⟨true, 255, holder, creator, 5, 205⟩
  found := Ledger.findAddresses_eq_ok_iff.mpr (VampAddresses.ofMint?_of_derive? derive_first)
  stored := recordAt_fundedOnCurve
  authorized := rfl
  priced := rfl
  charged := rfl
  settled := rfl
  counts := rfl
  recordWritten := rfl
  marked := find_firstMarker
  markerWritten := rfl
  vacant := rfl

theorem after_fundedOnCurve :
    engine.after [.create curveCreation, .deposit creator 300] = fundedOnCurve := by
  have deposit : engine.step openedOnCurve.next (.deposit creator 300) =
      (.ok (.deposited 300), fundedOnCurve) := step_deposit rfl
  rw [after, run_cons, openedOnCurve.step_eq, run_cons, deposit, run]

theorem run_fundedOnCurve :
    (engine.run [.claim (claimOf first.mint creator)] fundedOnCurve).2 = claimedOnCurve.next := by
  rw [run_cons, claimedOnCurve.step_eq, run]

theorem after_claimedOnCurve :
    engine.after ([.create curveCreation, .deposit creator 300] ++
      [.claim (claimOf first.mint creator)]) = claimedOnCurve.next := by
  rw [after, run_append_singleton, ← after, after_fundedOnCurve, claimedOnCurve.step_eq]

/-! The same curve for two holders, who claim three and two tokens, one after the other. -/

def sharedOffer : Descriptor := offerTo (.table shares)

theorem read_sharedOffer : Descriptor.read engine.policy sharedOffer.write = .ok sharedOffer := by
  with_unfolding_all rfl

def sharedCreation : CreateRequest := { curveCreation with descriptor := sharedOffer.write }

def openedShared : CreateSteps engine sharedCreation .empty :=
  openedFrom .standard sharedOffer sharedOffer.write cubic 1 read_sharedOffer rfl rfl rfl

def sharedOnCurve (claimed paid : UInt64) : VampRecord :=
  { newRecord first creator 49 sharedOffer cubic 1 with
    totalClaimed := claimed, reserve := paid, supply := claimed }

def shareClaim (address : EthAddress) (amount : UInt64) : ClaimRequest :=
  { claimOf first.mint creator with address, amount }

def claimedShare {ledger : Ledger} {address : EthAddress} {amount claimed paid : UInt64}
    {marker : Pubkey} {bump : UInt8} (cost total reserve : UInt64) (settlement : Settlement)
    (stored : ledger.recordAt first.record = .ok (sharedOnCurve claimed paid))
    (authorized : engine.authorize (sharedOnCurve claimed paid) (shareClaim address amount) =
      .ok ())
    (charged : cubic.pricing.cost claimed amount = .ok cost)
    (settled : settle ledger (sharedOnCurve claimed paid) creator amount cost = .ok settlement)
    (counts : count (sharedOnCurve claimed paid) amount cost = .ok (sharedOnCurve total reserve))
    (marked : Ledger.findMarker first.record address engine.program = .ok (marker, bump))
    (vacant : ledger.accounts.contains marker = false) :
    ClaimSteps engine (shareClaim address amount) ledger where
  addresses := first
  record := sharedOnCurve claimed paid
  pricing := cubic.pricing
  cost := cost
  settlement := settlement
  counted := sharedOnCurve total reserve
  recordData := accountOf VampRecord.kind (sharedOnCurve total reserve)
  marker := marker
  bump := bump
  markerData := accountOf ClaimMarker.kind ⟨true, bump, address, creator, amount, cost⟩
  found := Ledger.findAddresses_eq_ok_iff.mpr (VampAddresses.ofMint?_of_derive? derive_first)
  stored := stored
  authorized := authorized
  priced := rfl
  charged := charged
  settled := settled
  counts := counts
  recordWritten := rfl
  marked := marked
  markerWritten := rfl
  vacant := vacant

def claimedFirst :
    ClaimSteps engine (shareClaim holder 3) (credited openedShared.next creator 300) :=
  claimedShare 21 3 21 ⟨279, 21, 7, 3⟩ openedShared.record_stored rfl rfl rfl rfl find_firstMarker
    rfl

def claimedSecond : ClaimSteps engine (shareClaim (.replicate 20 4) 2) claimedFirst.next :=
  claimedShare 184 5 205 ⟨95, 205, 5, 5⟩ claimedFirst.counted_stored rfl rfl rfl rfl
    find_secondShareMarker rfl

theorem reaches_claimedSecond :
    engine.Reaches [(.create sharedCreation, .ok (.created openedShared.record)),
      (.deposit creator 300, .ok (.deposited 300)),
      (.claim (shareClaim holder 3), .ok (.claimed claimedFirst.receipt)),
      (.claim (shareClaim (.replicate 20 4) 2), .ok (.claimed claimedSecond.receipt))]
      claimedSecond.next := by
  refine .claimed (.claimed (.deposited (.created .start openedShared) ?_) claimedFirst)
    claimedSecond
  rfl

end Market

/-- Two claims on a cubic curve, of three tokens for 21 and then of two for 184, have paid together
what one claim of the five would have. -/
theorem reserve_path_independent_cubic :
    ∃ operations record,
      (Market.engine.after operations).recordAt Market.first.record = .ok record ∧
        ((Market.engine.history operations).claimsOn record.mint).map (·.receipt.cost) =
          [21, 184] ∧
        record.totalClaimed = 5 ∧ record.reserve = 205 ∧ record.supply = record.totalClaimed ∧
        ∃ pricing, record.pricing = .ok pricing ∧
          pricing.cost 0 record.totalClaimed = .ok record.reserve := by
  have stored := Market.claimedSecond.counted_stored
  obtain ⟨operations, told, same⟩ := Market.reaches_claimedSecond.exists_run
  rw [← same] at stored
  refine ⟨operations, _, stored, ?_, rfl, rfl,
    Engine.reserve_path_independent _ _ _ _ stored⟩
  rw [told]
  rfl

end TokenClaim
