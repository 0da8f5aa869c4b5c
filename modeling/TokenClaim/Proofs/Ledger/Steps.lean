import TokenClaim.Ledger.Run
import TokenClaim.Proofs.Checked
/-!
What a creation and a claim that go through have computed on their way, with every check that they
have passed: an operation goes through exactly if there is such a record of it.
-/

set_option autoImplicit false

namespace TokenClaim

/-- A record is an older one with other counters. -/
def VampRecord.Continues (old new : VampRecord) : Prop :=
  new = { old with
    totalClaimed := new.totalClaimed, reserve := new.reserve, supply := new.supply }

namespace VampRecord.Continues

theorem refl (record : VampRecord) : record.Continues record := rfl

theorem trans {first second third : VampRecord} (left : first.Continues second)
    (right : second.Continues third) : first.Continues third := by
  unfold Continues at *
  rw [right, left]

variable {old new : VampRecord} (same : old.Continues new)
include same

theorem mint : new.mint = old.mint := by rw [same]
theorem bump : new.bump = old.bump := by rw [same]
theorem vault : new.vault = old.vault := by rw [same]
theorem payVault : new.payVault = old.payVault := by rw [same]
theorem minted : new.minted = old.minted := by rw [same]

end VampRecord.Continues

namespace Engine

variable {engine : Engine} {ledger : Ledger}

def chooseIdentifier (request : CreateRequest) (descriptor : Descriptor) : Result UInt64 :=
  match request.identifier with
  | some identifier => .ok identifier
  | none => foldIntent descriptor.intent

/-- The steps of a creation that goes through. -/
structure CreateSteps (engine : Engine) (request : CreateRequest) (ledger : Ledger) where
  descriptor : Descriptor
  terms : Terms
  identifier : UInt64
  addresses : VampAddresses
  initialPrice : UInt64
  record : VampRecord
  data : Bytes
  described : Descriptor.read engine.policy request.descriptor = .ok descriptor
  chosen : terms = (request.terms.or descriptor.terms).getD engine.terms
  valid : terms.validate = .ok ()
  identified : chooseIdentifier request descriptor = .ok identifier
  derived : VampAddresses.derive? request.authority identifier engine.program = some addresses
  vacant : ledger.accounts.contains addresses.record = false
  priced : terms.pricing.unitPrice 0 = .ok initialPrice
  built : record = newRecord addresses request.authority identifier descriptor terms initialPrice
  written : record.toAccount = .ok data

namespace CreateSteps

variable {request : CreateRequest}

def next (steps : CreateSteps engine request ledger) : Ledger where
  accounts := ledger.accounts.insert steps.addresses.record steps.data
  lamports := ledger.lamports.insertIfNew steps.addresses.payVault 0
  tokens := ledger.tokens.insert (steps.addresses.mint, steps.addresses.vault)
    steps.descriptor.amount
  events := ledger.events ++
    [.minted steps.addresses.mint steps.addresses.record steps.descriptor.name
      steps.descriptor.symbol steps.descriptor.erc20 steps.descriptor.amount]

end CreateSteps

theorem create_eq_ok_iff {request : CreateRequest} {record : VampRecord} {next : Ledger} :
    engine.create request ledger = .ok (record, next) ↔
      ∃ steps : CreateSteps engine request ledger, record = steps.record ∧ next = steps.next := by
  constructor
  · intro done
    simp only [create, bind_eq_ok_iff] at done
    obtain ⟨descriptor, described, ⟨⟩, valid, done⟩ := done
    split at done
    case' h_1 identifier asked =>
      have identified : chooseIdentifier request descriptor = .ok identifier := by
        simp only [chooseIdentifier, asked]
    case' h_2 asked =>
      obtain ⟨identifier, folded, done⟩ := bind_eq_ok_iff.mp done
      have identified : chooseIdentifier request descriptor = .ok identifier := by
        simp only [chooseIdentifier, asked, folded]
    -- From here on it does not matter where the identifier came from.
    all_goals
      simp only [pure_bind] at done
      split at done
      · rename_i addresses derived
        split at done
        · cases done
        · rename_i vacant
          simp only [bind_eq_ok_iff] at done
          obtain ⟨initialPrice, priced, data, written, done⟩ := done
          cases done
          exact ⟨⟨descriptor, _, identifier, addresses, initialPrice, _, data, described, rfl,
            valid, identified, derived, by simpa using vacant, priced, rfl, written⟩, rfl, rfl⟩
      · cases done
  · rintro ⟨steps, rfl, rfl⟩
    have valid := steps.valid
    have priced := steps.priced
    have written := steps.written
    have identified := steps.identified
    rw [steps.chosen] at valid priced
    rw [steps.built, steps.chosen] at written
    unfold chooseIdentifier at identified
    rw [steps.built, steps.chosen]
    split at identified
    · rename_i identifier asked
      cases identified
      simp only [create, asked, steps.described, valid, steps.derived, steps.vacant, priced,
        written, ok_bind, pure_bind]
      rfl
    · rename_i asked
      simp only [create, asked, steps.described, valid, identified, steps.derived, steps.vacant,
        priced, written, ok_bind, pure_bind]
      rfl

structure Counted (record : VampRecord) (amount cost : UInt64) (counted : VampRecord) : Prop where
  continues : record.Continues counted
  totalClaimed : counted.totalClaimed.toNat = record.totalClaimed.toNat + amount.toNat
  reserve : counted.reserve.toNat = record.reserve.toNat + cost.toNat
  supply : counted.supply.toNat = record.supply.toNat + amount.toNat

theorem counted_of_count {record counted : VampRecord} {amount cost : UInt64}
    (done : count record amount cost = .ok counted) : Counted record amount cost counted := by
  simp only [count, bind_eq_ok_iff, orOverflow_eq_ok_iff, Word64.add?_eq_some_iff] at done
  obtain ⟨totalClaimed, total, reserve, paid, supply, out, same⟩ := done
  cases same
  exact ⟨rfl, total, paid, out⟩

structure Settles (ledger : Ledger) (record : VampRecord) (claimant : Pubkey)
    (amount cost : UInt64) (settlement : Settlement) : Prop where
  claimantLamports :
    settlement.claimantLamports.toNat + cost.toNat = (ledger.lamportsOf claimant).toNat
  payVaultLamports :
    settlement.payVaultLamports.toNat = (ledger.lamportsOf record.payVault).toNat + cost.toNat
  vaultTokens :
    settlement.vaultTokens.toNat + amount.toNat = (ledger.tokensOf record.mint record.vault).toNat
  claimantTokens :
    settlement.claimantTokens.toNat = (ledger.tokensOf record.mint claimant).toNat + amount.toNat

theorem settles_of_settle {record : VampRecord} {claimant : Pubkey} {amount cost : UInt64}
    {settlement : Settlement} (done : settle ledger record claimant amount cost = .ok settlement) :
    Settles ledger record claimant amount cost settlement := by
  unfold settle at done
  simp only at done
  split at done
  · rename_i claimantLamports paid
    simp only [pure_bind, bind_eq_ok_iff, orOverflow_eq_ok_iff, Word64.add?_eq_some_iff] at done
    obtain ⟨payVaultLamports, received, done⟩ := done
    split at done
    · rename_i vaultTokens given
      simp only [bind_eq_ok_iff, orOverflow_eq_ok_iff, Word64.add?_eq_some_iff] at done
      obtain ⟨claimantTokens, taken, same⟩ := done
      cases same
      exact ⟨Word64.sub?_eq_some_iff.mp paid, received, Word64.sub?_eq_some_iff.mp given, taken⟩
    · cases done
  · cases done

structure ClaimSteps (engine : Engine) (request : ClaimRequest) (ledger : Ledger) where
  addresses : VampAddresses
  record : VampRecord
  pricing : Pricing
  cost : UInt64
  settlement : Settlement
  counted : VampRecord
  recordData : Bytes
  marker : Pubkey
  bump : UInt8
  markerData : Bytes
  found : Ledger.findAddresses request.mint engine.program = .ok addresses
  stored : ledger.recordAt addresses.record = .ok record
  authorized : engine.authorize record request = .ok ()
  priced : record.pricing = .ok pricing
  charged : pricing.cost record.supply request.amount = .ok cost
  settled : settle ledger record request.claimant request.amount cost = .ok settlement
  counts : count record request.amount cost = .ok counted
  recordWritten : counted.toAccount = .ok recordData
  marked : Ledger.findMarker addresses.record request.address engine.program = .ok (marker, bump)
  markerWritten :
    ClaimMarker.toAccount ⟨true, bump, request.address, request.claimant, request.amount, cost⟩ =
      .ok markerData
  vacant : ledger.accounts.contains marker = false

namespace ClaimSteps

variable {request : ClaimRequest}

def receipt (steps : ClaimSteps engine request ledger) : Receipt where
  mint := steps.record.mint
  claimant := request.claimant
  address := request.address
  marker := steps.marker
  amount := request.amount
  cost := steps.cost
  totalClaimed := steps.counted.totalClaimed
  reserve := steps.counted.reserve
  supply := steps.counted.supply

def next (steps : ClaimSteps engine request ledger) : Ledger where
  accounts := (ledger.accounts.insert steps.marker steps.markerData).insert steps.addresses.record
    steps.recordData
  lamports := (ledger.lamports.insert request.claimant steps.settlement.claimantLamports).insert
    steps.record.payVault steps.settlement.payVaultLamports
  tokens := (ledger.tokens.insert (steps.record.mint, steps.record.vault)
    steps.settlement.vaultTokens).insert (steps.record.mint, request.claimant)
    steps.settlement.claimantTokens
  events := ledger.events ++
    [.claimed steps.record.mint request.claimant request.address request.amount steps.cost
      steps.counted.supply]

end ClaimSteps

theorem claim_eq_ok_iff {request : ClaimRequest} {receipt : Receipt} {next : Ledger} :
    engine.claim request ledger = .ok (receipt, next) ↔
      ∃ steps : ClaimSteps engine request ledger, receipt = steps.receipt ∧ next = steps.next := by
  constructor
  · intro done
    simp only [claim, bind_eq_ok_iff] at done
    obtain ⟨addresses, found, record, stored, ⟨⟩, authorized, pricing, priced, cost, charged,
      settlement, settled, counted, counts, recordData, recordWritten, ⟨marker, bump⟩, marked,
      done⟩ := done
    obtain ⟨markerData, markerWritten, done⟩ := done
    split at done
    · cases done
    · rename_i vacant
      cases done
      exact ⟨⟨addresses, record, pricing, cost, settlement, counted, recordData, marker, bump,
        markerData, found, stored, authorized, priced, charged, settled, counts, recordWritten,
        marked, markerWritten, by simpa using vacant⟩, rfl, rfl⟩
  · rintro ⟨steps, rfl, rfl⟩
    simp only [claim, steps.found, steps.stored, steps.authorized, steps.priced, steps.charged,
      steps.settled, steps.counts, steps.recordWritten, steps.marked, steps.markerWritten,
      steps.vacant, ok_bind]
    rfl

end Engine

end TokenClaim
