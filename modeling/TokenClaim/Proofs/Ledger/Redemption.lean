import Mathlib.Algebra.BigOperators.Group.List.Basic
import Mathlib.Algebra.Order.BigOperators.Group.List
import Mathlib.Algebra.Order.Group.Nat
import TokenClaim.Proofs.Ledger.AuthorizationModes
import TokenClaim.Proofs.Ledger.Markers
import TokenClaim.Proofs.Refusals
/-!
Vamps that keep their table can honour it. The table allocates no more than was minted, and each
address takes at most its own allocation and at most once, so that the vault still holds the whole
allocation of every address that has not claimed.
-/

set_option autoImplicit false

namespace TokenClaim

namespace AllocationTable

theorem amountOf_cons (entry : Allocation) (rest : AllocationTable) (address : EthAddress) :
    amountOf (entry :: rest) address =
      if entry.address = address then entry.amount else amountOf rest address := by
  unfold amountOf
  by_cases here : entry.address = address <;> simp [here]

theorem sum_amountOf_le (table : AllocationTable) {addresses : List EthAddress}
    (distinct : addresses.Nodup) :
    (addresses.map fun address => (table.amountOf address).toNat).sum ≤
      (table.map (·.amount.toNat)).sum := by
  induction table generalizing addresses with
  | nil => simp [amountOf]
  | cons entry rest ih =>
    have elsewhere : ∀ others : List EthAddress, entry.address ∉ others →
        (others.map fun address => (amountOf (entry :: rest) address).toNat) =
          others.map fun address => (amountOf rest address).toNat := by
      intro others absent
      refine List.map_congr_left fun address member => ?_
      have other : entry.address ≠ address := fun same => absent (same ▸ member)
      rw [amountOf_cons, if_neg other]
    rw [List.map_cons, List.sum_cons]
    by_cases listed : entry.address ∈ addresses
    · have parts := List.sum_map_erase
        (fun address => (amountOf (entry :: rest) address).toNat) listed
      rw [amountOf_cons, if_pos rfl, elsewhere _ distinct.not_mem_erase] at parts
      rw [← parts]
      exact Nat.add_le_add_left (ih (distinct.erase _)) _
    · rw [elsewhere _ listed]
      exact (ih distinct).trans (Nat.le_add_left _ _)

end AllocationTable

def VampRecord.Backed (record : VampRecord) : Prop :=
  ∀ entries, record.authorization = .table entries →
    (entries.map (·.amount.toNat)).sum ≤ record.minted.toNat

theorem VampRecord.Continues.backed {old new : VampRecord} (same : old.Continues new)
    (backed : old.Backed) : new.Backed := by
  rw [same]
  exact backed

theorem Entitled.amount_le {scheme : SignatureScheme} {record : VampRecord} {claim : SettledClaim}
    {entries : AllocationTable} (entitled : Entitled scheme record claim)
    (inline : record.authorization = .table entries) :
    claim.receipt.amount.toNat ≤ (entries.amountOf claim.receipt.address).toNat := by
  obtain ⟨allocated, granted, within⟩ := entitled.granted
  rw [VampRecord.Grants, inline] at granted
  obtain ⟨entry, first, rfl⟩ := granted
  rw [AllocationTable.amountOf, first]
  exact UInt64.le_iff_toNat_le.mp within

namespace Engine

variable {engine : Engine} {history : History} {ledger : Ledger}

theorem CreateSteps.backed {request : CreateRequest} (steps : CreateSteps engine request ledger) :
    steps.record.Backed := by
  rw [steps.built]
  intro entries kept
  exact Descriptor.table_covered steps.described kept

theorem Reaches.backed (reached : engine.Reaches history ledger) :
    ∀ account record, ledger.recordAt account = .ok record → record.Backed := by
  refine reached.each_record (motive := fun _ _ record => record.Backed)
    ?refused ?created ?besideCreated ?claimed ?besideClaimed ?deposited
  case refused => exact fun _ _ before => before
  case created => exact fun _ steps => steps.backed
  case besideCreated => exact fun _ _ before => before
  case claimed => exact fun steps before => steps.counted_facts.continues.backed before
  case besideClaimed => exact fun _ _ before => before
  case deposited => exact fun _ _ _ before => before

section
variable {account : Pubkey} {record : VampRecord} {entries : AllocationTable}
  (stored : ledger.recordAt account = .ok record) (inline : record.authorization = .table entries)
include stored inline

theorem Reaches.amount_le_allocated (reached : engine.Reaches history ledger) :
    ∀ claim ∈ history.claimsOn record.mint,
      claim.receipt.amount.toNat ≤ (entries.amountOf claim.receipt.address).toNat := by
  intro claim member
  obtain ⟨member, ofMint⟩ := List.mem_filter.mp member
  obtain ⟨other, later, kept⟩ := reached.keeps claim member
  -- The record that entitled the claim is the one record of its mint.
  obtain ⟨-, rfl⟩ := reached.placed.unique kept.stored stored
    (kept.mint.trans (of_decide_eq_true ofMint))
  exact kept.entitled.amount_le inline

theorem Reaches.claimed_add_le (reached : engine.Reaches history ledger) {source : EthAddress}
    (fresh : source ∉ (history.claimsOn record.mint).map (·.receipt.address)) :
    totalOf Receipt.amount (history.claimsOn record.mint) + (entries.amountOf source).toNat ≤
      record.minted.toNat := by
  have each := List.sum_le_sum (reached.amount_le_allocated stored inline)
  have distinct : (source :: (history.claimsOn record.mint).map (·.receipt.address)).Nodup :=
    List.nodup_cons.mpr ⟨fresh, reached.addresses_nodup record.mint⟩
  have all := AllocationTable.sum_amountOf_le entries distinct
  have backed := reached.backed account record stored entries inline
  rw [List.map_cons, List.sum_cons, List.map_map] at all
  calc totalOf Receipt.amount (history.claimsOn record.mint) + (entries.amountOf source).toNat
      ≤ ((history.claimsOn record.mint).map fun claim =>
          (entries.amountOf claim.receipt.address).toNat).sum + (entries.amountOf source).toNat :=
        Nat.add_le_add_right each _
    _ ≤ (entries.map (·.amount.toNat)).sum := by
        rw [Nat.add_comm]
        exact all
    _ ≤ record.minted.toNat := backed

theorem Reaches.vault_covers (reached : engine.Reaches history ledger) {source : EthAddress}
    (fresh : source ∉ (history.claimsOn record.mint).map (·.receipt.address)) :
    (entries.amountOf source).toNat ≤ (ledger.tokensOf record.mint record.vault).toNat := by
  have within := reached.claimed_add_le stored inline fresh
  have counted := (reached.tallies account record stored).totalClaimed
  have vault := (reached.tokens_accounted account record stored).vault
  omega

end

/-- After any run, a vamp that keeps its table holds in its vault the whole allocation of every
address that has no marker, and no claim of such an address is refused because the vault lacks
tokens. -/
theorem vault_covers_unclaimed (engine : Engine) (operations : List Operation) (mint : Pubkey)
    (record : VampRecord) (entries : AllocationTable) (source : EthAddress)
    (stored : (engine.after operations).vamp engine.program mint = .ok record)
    (inline : record.authorization = .table entries)
    (unmarked : ∀ marker,
      (engine.after operations).marker engine.program mint source ≠ .ok (some marker)) :
    entries.amountOf source ≤ (engine.after operations).tokensOf record.mint record.vault ∧
      ∀ request : ClaimRequest, request.mint = mint → request.address = source →
        ∀ requested available, engine.claim request (engine.after operations) ≠
          .error (.vaultDepleted requested available) := by
  have reached := engine.reaches operations
  obtain ⟨addresses, found, kept⟩ := bind_eq_ok_iff.mp stored
  have fresh := reached.not_mem_claimed (Ledger.findAddresses_eq_ok_iff.mp found) kept unmarked
  have covered := UInt64.le_iff_toNat_le.mpr (reached.vault_covers kept inline fresh)
  refine ⟨covered, ?_⟩
  rintro request rfl rfl requested available refused
  obtain ⟨others, other, foundAgain, storedAgain, authorized, lacking⟩ :=
    claim_eq_vaultDepleted refused
  obtain rfl : addresses = others := Except.ok.inj (found.symm.trans foundAgain)
  obtain rfl : record = other := Except.ok.inj (kept.symm.trans storedAgain)
  -- The amount is within the allocation, and the vault holds that.
  obtain ⟨-, -, allocated, allocation, within⟩ := authorize_eq_ok authorized
  rw [VampRecord.allocationFor, inline] at allocation
  obtain rfl : entries.amountOf request.address = allocated := Except.ok.inj allocation
  exact absurd lacking (UInt64.not_lt.mpr (UInt64.le_trans within covered))

end Engine

namespace Market

open Engine

theorem exists_run_claimedByTable :
    ∃ operations, engine.after operations = claimedByTable.next := by
  have reached : engine.Reaches _ claimedByTable.next :=
    (Reaches.start.created openedByTable).claimed claimedByTable
  obtain ⟨operations, -, same⟩ := reached.exists_run
  exact ⟨operations, same⟩

theorem vamp_claimedByTable :
    claimedByTable.next.vamp engine.program first.mint = .ok claimedByTable.counted := by
  obtain ⟨operations, same⟩ := exists_run_claimedByTable
  have placed := (engine.reaches operations).placed
  rw [same] at placed
  have mint : claimedByTable.counted.mint = first.mint := rfl
  rw [← mint]
  exact placed.vamp_eq claimedByTable.counted_stored

theorem secondShare_unmarked (marker : ClaimMarker) :
    claimedByTable.next.marker engine.program first.mint (.replicate 20 4) ≠ .ok (some marker) := by
  intro marked
  obtain ⟨place, bump, derived, stands⟩ := Ledger.marker_eq_some_iff.mp marked
  have addresses : VampAddresses.ofMint? first.mint engine.program = some first :=
    VampAddresses.ofMint?_of_derive? derive_first
  have found := Ledger.findMarker_eq_ok_iff.mp find_secondShareMarker
  rw [DerivedAccount.findMarker?, addresses, Option.bind_some, found] at derived
  cases derived
  have apart : secondShareMarker ≠ claimedByTable.marker := by decide
  rw [claimedByTable.markerAt_next, if_neg apart, openedByTable.markerAt_next] at stands
  cases stands

end Market

/-- The first of three shares is claimed, and the vault holds the three tokens of the second. -/
theorem vault_covers_second_share :
    ∃ operations,
      (Market.engine.after operations).vamp Market.engine.program Market.first.mint =
          .ok Market.claimedByTable.counted ∧
        Market.claimedByTable.counted.authorization = .table Market.threeShares ∧
        3 ≤ (Market.engine.after operations).tokensOf Market.first.mint Market.first.vault ∧
        ∀ request : ClaimRequest, request.mint = Market.first.mint →
          request.address = .replicate 20 4 → ∀ requested available,
            Market.engine.claim request (Market.engine.after operations) ≠
              .error (.vaultDepleted requested available) := by
  obtain ⟨operations, same⟩ := Market.exists_run_claimedByTable
  have stored := Market.vamp_claimedByTable
  have unmarked := Market.secondShare_unmarked
  rw [← same] at stored unmarked
  obtain ⟨covered, served⟩ := Engine.vault_covers_unclaimed Market.engine operations
    Market.first.mint Market.claimedByTable.counted Market.threeShares (.replicate 20 4) stored rfl
    unmarked
  exact ⟨operations, stored, rfl, covered, served⟩

end TokenClaim
