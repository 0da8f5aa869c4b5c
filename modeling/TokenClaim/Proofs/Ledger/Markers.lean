import TokenClaim.Proofs.Ledger.Entitlement
import TokenClaim.Proofs.Record.Canonical
/-!
The markers of claims. A claim puts its marker where no account stood, and nothing is put in its
place again: the markers of a ledger are those of the claims that went through, no two of them at
one address.
-/

set_option autoImplicit false

namespace TokenClaim

def DerivedAccount.findMarker? (program mint : Pubkey) (source : EthAddress) :
    Option (Pubkey × UInt8) :=
  (VampAddresses.ofMint? mint program).bind fun addresses =>
    (DerivedAccount.marker addresses.record source).find? program

def SettledClaim.marker (claim : SettledClaim) (bump : UInt8) : ClaimMarker where
  isClaimed := true
  bump := bump
  address := claim.receipt.address
  claimant := claim.receipt.claimant
  amount := claim.receipt.amount
  cost := claim.receipt.cost

namespace Ledger

variable {ledger : Ledger} {account : Pubkey}

def markerAt (ledger : Ledger) (account : Pubkey) : Option ClaimMarker :=
  (ledger.accounts.find? account).bind fun data => (ClaimMarker.ofAccount data).toOption

theorem markerAt_congr {first second : Ledger}
    (same : first.accounts.find? account = second.accounts.find? account) :
    first.markerAt account = second.markerAt account := by
  rw [markerAt, same, ← markerAt]

theorem markerAt_of_find? {data : Bytes} {marker : ClaimMarker}
    (found : ledger.accounts.find? account = some data)
    (known : ClaimMarker.ofAccount data = .ok marker) :
    ledger.markerAt account = some marker := by
  rw [markerAt, found, Option.bind_some, known]
  rfl

theorem markerAt_of_vacant (vacant : ledger.accounts.contains account = false) :
    ledger.markerAt account = none := by
  have nothing : ledger.accounts.find? account = none := by simpa [Table.contains] using vacant
  rw [markerAt, nothing, Option.bind_none]

theorem contains_of_markerAt {marker : ClaimMarker}
    (stands : ledger.markerAt account = some marker) :
    ledger.accounts.contains account = true := by
  by_contra absent
  rw [markerAt_of_vacant (by simpa using absent)] at stands
  cases stands

theorem markerAt_of_recordAt {record : VampRecord} (stored : ledger.recordAt account = .ok record) :
    ledger.markerAt account = none := by
  obtain ⟨data, found, known⟩ := recordAt_eq_ok_iff.mp stored
  rw [markerAt, found, Option.bind_some, ClaimMarker.ofAccount_record known]
  rfl

theorem marker_eq_some_iff {program mint : Pubkey} {source : EthAddress} {marker : ClaimMarker} :
    ledger.marker program mint source = .ok (some marker) ↔
      ∃ place bump, DerivedAccount.findMarker? program mint source = some (place, bump) ∧
        ledger.markerAt place = some marker := by
  simp only [Ledger.marker, bind_eq_ok_iff, findAddresses_eq_ok_iff, DerivedAccount.findMarker?,
    Option.bind_eq_some_iff]
  constructor
  · rintro ⟨addresses, found, ⟨place, bump⟩, marked, read⟩
    refine ⟨place, bump, ⟨addresses, found, findMarker_eq_ok_iff.mp marked⟩, ?_⟩
    split at read
    · cases read
    · rename_i data stored
      obtain ⟨known, parsed, same⟩ := bind_eq_ok_iff.mp read
      cases same
      rw [markerAt, stored, Option.bind_some, parsed]
      rfl
  · rintro ⟨place, bump, ⟨addresses, found, marked⟩, stands⟩
    obtain ⟨data, stored, parsed⟩ := Option.bind_eq_some_iff.mp stands
    refine ⟨addresses, found, (place, bump), findMarker_eq_ok_iff.mpr marked, ?_⟩
    cases read : ClaimMarker.ofAccount data with
    | error refusal =>
      rw [read] at parsed
      cases parsed
    | ok known =>
      rw [read] at parsed
      cases parsed
      simp only [stored, read, ok_bind]
      rfl

end Ledger

namespace Engine

variable {engine : Engine} {history : History} {ledger : Ledger}

theorem CreateSteps.markerAt_next {request : CreateRequest}
    (steps : CreateSteps engine request ledger) (account : Pubkey) :
    steps.next.markerAt account = ledger.markerAt account := by
  by_cases here : account = steps.addresses.record
  · -- Nothing stood here, and what stands here now is a record.
    have stored : steps.next.recordAt account = .ok steps.record := here ▸ steps.record_stored
    rw [Ledger.markerAt_of_recordAt stored, here, Ledger.markerAt_of_vacant steps.vacant]
  · exact Ledger.markerAt_congr ((steps.find?_next account).trans (if_neg here))

section
variable {request : ClaimRequest} (steps : ClaimSteps engine request ledger)

theorem ClaimSteps.markerAt_next (account : Pubkey) :
    steps.next.markerAt account =
      if account = steps.marker then
        some (SettledClaim.marker ⟨request, steps.receipt⟩ steps.bump)
      else ledger.markerAt account := by
  have lookup := steps.find?_next account
  by_cases here : account = steps.addresses.record
  · -- Before and after the claim a record stands here, and the new marker stands elsewhere.
    have stored : steps.next.recordAt account = .ok steps.counted := here ▸ steps.counted_stored
    have older : ledger.recordAt account = .ok steps.record := here ▸ steps.stored
    rw [if_neg (steps.marker_ne_of_recordAt older), Ledger.markerAt_of_recordAt stored,
      Ledger.markerAt_of_recordAt older]
  · rw [if_neg here] at lookup
    by_cases marked : account = steps.marker
    · rw [if_pos marked] at lookup ⊢
      rw [Ledger.markerAt, lookup, Option.bind_some,
        ClaimMarker.ofAccount_toAccount steps.markerWritten]
      rfl
    · rw [if_neg marked] at lookup ⊢
      exact Ledger.markerAt_congr lookup

theorem ClaimSteps.markerAt_kept {account : Pubkey} {marker : ClaimMarker}
    (stands : ledger.markerAt account = some marker) :
    steps.next.markerAt account = some marker := by
  have elsewhere : account ≠ steps.marker := by
    rintro rfl
    rw [Ledger.markerAt_of_vacant steps.vacant] at stands
    cases stands
  rw [steps.markerAt_next, if_neg elsewhere, stands]

theorem ClaimSteps.findMarker?_eq (placed : ledger.Placed engine.program) :
    DerivedAccount.findMarker? engine.program steps.record.mint request.address =
      some (steps.marker, steps.bump) := by
  rw [DerivedAccount.findMarker?, placed _ _ steps.stored]
  exact Ledger.findMarker_eq_ok_iff.mp steps.marked

end

theorem Reaches.marker_stands (reached : engine.Reaches history ledger) :
    ∀ claim ∈ history.claims, ∃ bump,
      DerivedAccount.findMarker? engine.program claim.receipt.mint claim.receipt.address =
          some (claim.receipt.marker, bump) ∧
        ledger.markerAt claim.receipt.marker = some (claim.marker bump) := by
  induction reached with
  | start => simp [History.claims]
  | refused _ _ ih => simpa using ih
  | created _ steps ih =>
    intro claim member
    rw [History.claims_created] at member
    obtain ⟨bump, derived, stands⟩ := ih claim member
    exact ⟨bump, derived, (steps.markerAt_next _).trans stands⟩
  | claimed before steps ih =>
    intro claim member
    rw [History.claims_claimed, List.mem_append, List.mem_singleton] at member
    rcases member with member | rfl
    · obtain ⟨bump, derived, stands⟩ := ih claim member
      exact ⟨bump, derived, steps.markerAt_kept stands⟩
    · refine ⟨steps.bump, steps.findMarker?_eq before.placed, ?_⟩
      rw [steps.markerAt_next]
      exact if_pos rfl
  | deposited _ _ ih =>
    intro claim member
    rw [History.claims_deposited] at member
    exact ih claim member

theorem Reaches.claim_of_markerAt (reached : engine.Reaches history ledger) {account : Pubkey}
    {marker : ClaimMarker} (stands : ledger.markerAt account = some marker) :
    ∃ claim ∈ history.claims, claim.receipt.marker = account ∧
      marker = claim.marker marker.bump := by
  induction reached with
  | start => cases stands
  | refused _ _ ih => simpa using ih stands
  | created _ steps ih =>
    rw [steps.markerAt_next] at stands
    simpa using ih stands
  | claimed _ steps ih =>
    rw [steps.markerAt_next] at stands
    rw [History.claims_claimed]
    split at stands
    · rename_i here
      cases stands
      exact ⟨_, List.mem_append_right _ (List.mem_singleton_self _), here.symm, rfl⟩
    · obtain ⟨claim, member, left⟩ := ih stands
      exact ⟨claim, List.mem_append_left _ member, left⟩
  | deposited _ _ ih => simpa using ih stands

theorem Reaches.markers_nodup (reached : engine.Reaches history ledger) :
    (history.claims.map (·.receipt.marker)).Nodup := by
  induction reached with
  | start => exact List.nodup_nil
  | refused _ _ ih => simpa using ih
  | created _ _ ih => simpa using ih
  | claimed before steps ih =>
    rw [History.claims_claimed, List.map_append, List.map_singleton, List.nodup_append]
    refine ⟨ih, List.pairwise_singleton _ _, ?_⟩
    intro place old other new
    rw [List.mem_singleton] at new
    obtain ⟨claim, member, rfl⟩ := List.mem_map.mp old
    obtain ⟨bump, -, stands⟩ := before.marker_stands claim member
    -- The older marker stands, and the new one was put where no account was.
    rintro rfl
    have taken := Ledger.contains_of_markerAt stands
    rw [new] at taken
    exact absurd (taken.symm.trans steps.vacant) (by decide)
  | deposited _ _ ih => simpa using ih

/-- A source address that a vamp has no marker of has not claimed on the vamp. -/
theorem Reaches.not_mem_claimed (reached : engine.Reaches history ledger) {mint : Pubkey}
    {record : VampRecord} {addresses : VampAddresses} {source : EthAddress}
    (found : VampAddresses.ofMint? mint engine.program = some addresses)
    (stored : ledger.recordAt addresses.record = .ok record)
    (unmarked : ∀ marker, ledger.marker engine.program mint source ≠ .ok (some marker)) :
    source ∉ (history.claimsOn record.mint).map (·.receipt.address) := by
  intro listed
  obtain ⟨claim, member, rfl⟩ := List.mem_map.mp listed
  obtain ⟨member, ofMint⟩ := List.mem_filter.mp member
  obtain ⟨bump, derived, stands⟩ := reached.marker_stands claim member
  refine unmarked _ (Ledger.marker_eq_some_iff.mpr ⟨_, bump, ?_, stands⟩)
  -- Both mints lead to the record's account, and the marker is derived from that.
  have place := reached.placed _ _ stored
  rw [of_decide_eq_true ofMint, DerivedAccount.findMarker?, place] at derived
  rw [DerivedAccount.findMarker?, found]
  exact derived

end Engine

end TokenClaim
