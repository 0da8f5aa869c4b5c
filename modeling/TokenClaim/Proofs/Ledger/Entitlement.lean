import TokenClaim.Proofs.Attestation.Quorum
import TokenClaim.Proofs.Ledger.Records
/-!
What entitles a claim to its tokens, and that a source address gets tokens of a vamp at most once. A
claim leaves a marker that nothing removes, and the marker's address follows from the vamp's record
and the source address alone, so that retries with another amount, claimant or proof meet it too.
-/

set_option autoImplicit false

namespace TokenClaim

/-- What a vamp lets a source address claim: the amount of the address's first entry in the table,
or an amount that the proof shows under the root. -/
def VampRecord.Grants (record : VampRecord) (source : EthAddress) (proof : Option AllocationProof)
    (allocated : UInt64) : Prop :=
  match record.authorization with
  | .table entries =>
    ∃ entry, entries.find? (·.address = source) = some entry ∧ entry.amount = allocated
  | .root root =>
    ∃ shown, proof = some shown ∧ shown.amount = allocated ∧
      Merkle.verify (Allocation.leaf ⟨source, allocated, record.metadata.decimals⟩) shown.siblings
        root shown.index = true

theorem VampRecord.grants_of_allocationFor {record : VampRecord} {source : EthAddress}
    {proof : Option AllocationProof} {allocated : UInt64} (positive : 0 < allocated)
    (found : record.allocationFor source proof = .ok allocated) :
    record.Grants source proof allocated := by
  unfold allocationFor at found
  unfold Grants
  cases kept : record.authorization with
  | table entries =>
    rw [kept] at found
    cases found
    unfold AllocationTable.amountOf at positive ⊢
    cases listed : entries.find? (·.address = source) with
    | none =>
      rw [listed] at positive
      exact absurd positive (by decide)
    | some entry => exact ⟨entry, listed, rfl⟩
  | root root =>
    rw [kept] at found
    cases proof with
    | none => cases found
    | some shown =>
      simp only at found
      split at found
      · rename_i verified
        cases found
        exact ⟨shown, rfl, rfl, verified⟩
      · cases found

/-- All that a claim needs from the vamp's record: a positive amount within what the record grants
its source address, and a signature of each role over the balance under the role's stored key. Where
no owner key is stored, the source address is its own owner. -/
structure Entitled (scheme : SignatureScheme) (record : VampRecord) (claim : SettledClaim) :
    Prop where
  positive : 0 < claim.receipt.amount
  granted : ∃ allocated,
    record.Grants claim.receipt.address claim.request.proof allocated ∧
      claim.receipt.amount ≤ allocated
  solver : scheme.Accepts
    (Balance.digest claim.receipt.address claim.receipt.amount record.intent)
    claim.request.attestation.solver record.solverKey
  validator : scheme.Accepts
    (Balance.digest claim.receipt.address claim.receipt.amount record.intent)
    claim.request.attestation.validator record.validatorKey
  owner : scheme.Accepts
    (Balance.digest claim.receipt.address claim.receipt.amount record.intent)
    claim.request.attestation.owner
    (if record.ownerKey = [] then claim.receipt.address.toBytes else record.ownerKey)

theorem Entitled.continues {scheme : SignatureScheme} {old new : VampRecord} {claim : SettledClaim}
    (entitled : Entitled scheme old claim) (same : old.Continues new) :
    Entitled scheme new claim := by
  rw [same]
  exact ⟨entitled.positive, entitled.granted, entitled.solver, entitled.validator, entitled.owner⟩

namespace Engine

variable {engine : Engine} {history : History} {ledger : Ledger}

theorem authorize_eq_ok {record : VampRecord} {request : ClaimRequest}
    (done : engine.authorize record request = .ok ()) :
    Attestation.verify engine.scheme
        (Balance.digest request.address request.amount record.intent) request.attestation
        (roleKeys record request.address) = .ok () ∧
      request.amount ≠ 0 ∧
      ∃ allocated, record.allocationFor request.address request.proof = .ok allocated ∧
        request.amount ≤ allocated := by
  unfold authorize at done
  simp only at done
  split at done
  · cases done
  · rename_i verified
    split at done
    · cases done
    · rename_i positive
      obtain ⟨allocated, found, done⟩ := bind_eq_ok_iff.mp done
      split at done
      · cases done
      · rename_i within
        exact ⟨verified, positive, allocated, found, UInt64.not_lt.mp within⟩

theorem roleKeys_owner (record : VampRecord) (address : EthAddress) :
    (roleKeys record address).of .owner =
      if record.ownerKey = [] then address.toBytes else record.ownerKey := by
  simp [roleKeys, PerRole.of, VampRecord.ownerKeyFor]

theorem ClaimSteps.entitled {request : ClaimRequest} (steps : ClaimSteps engine request ledger) :
    Entitled engine.scheme steps.record ⟨request, steps.receipt⟩ := by
  obtain ⟨verified, nonzero, allocated, found, within⟩ := authorize_eq_ok steps.authorized
  have signed := Attestation.verify_eq_ok_iff.mp verified
  have positive : 0 < request.amount := UInt64.pos_iff_ne_zero.mpr nonzero
  have granted := VampRecord.grants_of_allocationFor (UInt64.lt_of_lt_of_le positive within) found
  have owner := (signed .owner).2
  rw [roleKeys_owner] at owner
  exact ⟨positive, ⟨allocated, granted, within⟩, (signed .solver).2, (signed .validator).2, owner⟩

/-- What a ledger keeps of a claim: the vamp's record still entitles it, and its marker stands. -/
structure Keeps (engine : Engine) (ledger : Ledger) (claim : SettledClaim) (account : Pubkey)
    (record : VampRecord) : Prop where
  stored : ledger.recordAt account = .ok record
  mint : record.mint = claim.receipt.mint
  entitled : Entitled engine.scheme record claim
  marked : ∃ bump, Ledger.findMarker account claim.receipt.address engine.program =
    .ok (claim.receipt.marker, bump)
  stands : ledger.accounts.contains claim.receipt.marker = true

theorem Keeps.extend {next : Ledger} {claim : SettledClaim} {account : Pubkey}
    {record : VampRecord} (kept : engine.Keeps ledger claim account record)
    (extends_ : ledger.Extends next) : ∃ later, engine.Keeps next claim account later := by
  obtain ⟨later, stored, same⟩ := extends_.records account record kept.stored
  exact ⟨later, stored, same.mint.trans kept.mint, kept.entitled.continues same, kept.marked,
    extends_.accounts _ kept.stands⟩

theorem ClaimSteps.keeps {request : ClaimRequest} (steps : ClaimSteps engine request ledger) :
    engine.Keeps steps.next ⟨request, steps.receipt⟩ steps.addresses.record steps.counted where
  stored := steps.counted_stored
  mint := steps.counted_facts.continues.mint
  entitled := steps.entitled.continues steps.counted_facts.continues
  marked := ⟨steps.bump, steps.marked⟩
  stands := by
    unfold Table.contains
    rw [steps.find?_next]
    split
    · rfl
    · rw [if_pos (show steps.receipt.marker = steps.marker from rfl)]
      rfl

theorem Reaches.keeps (reached : engine.Reaches history ledger) :
    ∀ claim ∈ history.claims, ∃ account record, engine.Keeps ledger claim account record := by
  induction reached with
  | start => simp [History.claims]
  | refused _ _ ih => simpa using ih
  | created _ steps ih =>
    intro claim member
    rw [History.claims_created] at member
    obtain ⟨account, record, kept⟩ := ih claim member
    exact ⟨account, kept.extend steps.extends⟩
  | claimed _ steps ih =>
    intro claim member
    rw [History.claims_claimed, List.mem_append, List.mem_singleton] at member
    rcases member with member | rfl
    · obtain ⟨account, record, kept⟩ := ih claim member
      exact ⟨account, kept.extend steps.extends⟩
    · exact ⟨_, _, steps.keeps⟩
  | deposited _ _ ih =>
    intro claim member
    rw [History.claims_deposited] at member
    obtain ⟨account, record, kept⟩ := ih claim member
    exact ⟨account, kept.extend (credited_extends _ _)⟩

theorem ClaimSteps.fresh {request : ClaimRequest} (steps : ClaimSteps engine request ledger)
    (placed : ledger.Placed engine.program) {claim : SettledClaim} {account : Pubkey}
    {record : VampRecord} (kept : engine.Keeps ledger claim account record) :
    (claim.receipt.mint, claim.receipt.address) ≠
      (steps.receipt.mint, steps.receipt.address) := by
  intro same
  obtain ⟨mint, address⟩ := Prod.mk.inj same
  -- One mint has one record, and with the source address that fixes where the marker stands.
  obtain ⟨here, -⟩ := placed.unique kept.stored steps.stored (kept.mint.trans mint)
  obtain ⟨bump, marked⟩ := kept.marked
  rw [here, address] at marked
  have markers := marked.symm.trans steps.marked
  have stands := kept.stands
  rw [(Prod.mk.inj (Except.ok.inj markers)).1, steps.vacant] at stands
  cases stands

theorem Reaches.claim_keys_nodup (reached : engine.Reaches history ledger) :
    (history.claims.map fun claim => (claim.receipt.mint, claim.receipt.address)).Nodup := by
  induction reached with
  | start => exact List.nodup_nil
  | refused _ _ ih => simpa using ih
  | created _ _ ih => simpa using ih
  | claimed before steps ih =>
    rw [History.claims_claimed, List.map_append, List.map_singleton, List.nodup_append]
    refine ⟨ih, List.pairwise_singleton _ _, ?_⟩
    intro key old other new
    rw [List.mem_singleton] at new
    -- What an older claim left in the ledger is still there when the new one is checked.
    obtain ⟨claim, member, rfl⟩ := List.mem_map.mp old
    obtain ⟨account, record, kept⟩ := before.keeps claim member
    rw [new]
    exact steps.fresh before.placed kept
  | deposited _ _ ih => simpa using ih

theorem Reaches.addresses_nodup (reached : engine.Reaches history ledger) (mint : Pubkey) :
    ((history.claimsOn mint).map (·.receipt.address)).Nodup := by
  rw [List.nodup_iff_pairwise_ne, List.pairwise_map]
  have keys := reached.claim_keys_nodup
  rw [List.nodup_iff_pairwise_ne, List.pairwise_map] at keys
  refine (keys.sublist List.filter_sublist).imp_of_mem fun left right apart same => apart ?_
  have first := of_decide_eq_true (List.mem_filter.mp left).2
  have second := of_decide_eq_true (List.mem_filter.mp right).2
  rw [first, second, same]

end Engine

theorem filter_key_eq_nil_or_singleton {α β : Type} [DecidableEq β] {key : α → β} {items : List α}
    (distinct : (items.map key).Nodup) (sought : β) :
    items.filter (key · = sought) = [] ∨
      ∃ item ∈ items, items.filter (key · = sought) = [item] := by
  induction items with
  | nil => exact Or.inl rfl
  | cons item rest ih =>
    rw [List.map_cons, List.nodup_cons] at distinct
    by_cases here : key item = sought
    · refine Or.inr ⟨item, List.mem_cons_self, ?_⟩
      have others : rest.filter (key · = sought) = [] := by
        rw [List.filter_eq_nil_iff]
        intro other member same
        have equal : key other = key item := (of_decide_eq_true same).trans here.symm
        exact distinct.1 (List.mem_map.mpr ⟨other, member, equal⟩)
      rw [List.filter_cons_of_pos (by simpa using here), others]
    · rw [List.filter_cons_of_neg (by simpa using here)]
      rcases ih distinct.2 with none | ⟨other, member, single⟩
      · exact Or.inl none
      · exact Or.inr ⟨other, List.mem_cons_of_mem item member, single⟩

theorem History.claimsBy_eq_filter (history : History) (mint : Pubkey) (source : EthAddress) :
    history.claimsBy mint source =
      history.claims.filter fun claim =>
        decide ((claim.receipt.mint, claim.receipt.address) = (mint, source)) := by
  simp only [claimsBy, claimsOn, List.filter_filter, Prod.mk.injEq, Bool.decide_and, Bool.and_comm]

namespace Engine

/-- Over any run a source address claims on a vamp at most once, and what it gets is what the vamp's
record entitles it to; so all that is ever paid out to it is within one allocation of the record. -/
theorem paid_once_within_allocation (engine : Engine) (operations : List Operation) (mint : Pubkey)
    (source : EthAddress) :
    (engine.history operations).claimsBy mint source = [] ∨
      ∃ claim record, (engine.history operations).claimsBy mint source = [claim] ∧
        (engine.after operations).vamp engine.program mint = .ok record ∧ record.mint = mint ∧
        claim.receipt.address = source ∧ Entitled engine.scheme record claim ∧
        ∃ allocated, record.Grants source claim.request.proof allocated ∧
          totalOf Receipt.amount ((engine.history operations).claimsBy mint source) ≤
            allocated.toNat := by
  have reached := engine.reaches operations
  rw [History.claimsBy_eq_filter]
  rcases filter_key_eq_nil_or_singleton reached.claim_keys_nodup (mint, source) with
    none | ⟨claim, member, single⟩
  · exact Or.inl none
  · have listed : claim ∈ (engine.history operations).claims.filter fun claim =>
        decide ((claim.receipt.mint, claim.receipt.address) = (mint, source)) := by
      rw [single]
      exact List.mem_singleton_self claim
    obtain ⟨ofMint, ofSource⟩ := Prod.mk.inj (of_decide_eq_true (List.mem_filter.mp listed).2)
    obtain ⟨account, record, kept⟩ := reached.keeps claim member
    have vamp := reached.placed.vamp_eq kept.stored
    rw [kept.mint, ofMint] at vamp
    obtain ⟨allocated, granted, within⟩ := kept.entitled.granted
    rw [ofSource] at granted
    refine Or.inr ⟨claim, record, single, vamp, kept.mint.trans ofMint, ofSource, kept.entitled,
      allocated, granted, ?_⟩
    rw [single, totalOf_singleton]
    exact UInt64.le_iff_toNat_le.mp within

end Engine

end TokenClaim
