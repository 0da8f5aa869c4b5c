import TokenClaim.Proofs.Descriptor.Limits
import TokenClaim.Proofs.Ledger.Markers
/-!
What the accounts of a ledger hold. Accounts are byte strings, but after any run each of them is
read as the record of a vamp, with fields in the bounds of the descriptor that it was made from, or
as the marker of a claim on a vamp whose record stands in the ledger.
-/

set_option autoImplicit false

namespace TokenClaim

/-- The fields whose size a descriptor or its terms bound. -/
structure VampRecord.Sized (record : VampRecord) : Prop where
  intent : 1 ≤ record.intent.length ∧ record.intent.length ≤ Descriptor.maxIntentLength
  solverKey : record.solverKey.length = 20
  validatorKey : record.validatorKey.length = 20
  ownerKey : record.ownerKey.length = 0 ∨ record.ownerKey.length = 20
  exponent : record.exponent.toNat ≤ maxExponent.toNat

theorem VampRecord.Sized.continues {old new : VampRecord} (sized : old.Sized)
    (same : old.Continues new) : new.Sized := by
  rw [same]
  exact ⟨sized.intent, sized.solverKey, sized.validatorKey, sized.ownerKey, sized.exponent⟩

structure VampRecord.SoundAt (record : VampRecord) (program account : Pubkey) : Prop extends
    record.Sized where
  placed : VampAddresses.ofMint? record.mint program =
    some ⟨record.mint, account, record.bump, record.vault, record.payVault⟩

structure ClaimMarker.SoundAt (marker : ClaimMarker) (program : Pubkey) (ledger : Ledger)
    (account : Pubkey) : Prop where
  isClaimed : marker.isClaimed = true
  amount : 0 < marker.amount
  placed : ∃ vamp record, ledger.recordAt vamp = .ok record ∧
    Ledger.findMarker vamp marker.address program = .ok (account, marker.bump)

def Ledger.WellFormed (program : Pubkey) (ledger : Ledger) : Prop :=
  ∀ (account : Pubkey) (data : Bytes), ledger.accounts.find? account = some data →
    (∃ record, VampRecord.ofAccount data = .ok record ∧ record.SoundAt program account) ∨
      ∃ marker, ClaimMarker.ofAccount data = .ok marker ∧ marker.SoundAt program ledger account

namespace Engine

variable {engine : Engine} {history : History} {ledger : Ledger}

theorem CreateSteps.sized {request : CreateRequest} (steps : CreateSteps engine request ledger) :
    steps.record.Sized := by
  have limits := Descriptor.withinLimits_of_read steps.described
  have low := UInt32.le_iff_toNat_le.mp (Terms.validate_eq_ok_iff.mp steps.valid).1
  have small := steps.terms.exponent.toNat_lt
  rw [steps.built]
  refine ⟨limits.intent, limits.solverKey, limits.validatorKey, limits.ownerKey, ?_⟩
  simp only [newRecord, UInt64.toNat_ofNat']
  omega

theorem Reaches.sized (reached : engine.Reaches history ledger) :
    ∀ account record, ledger.recordAt account = .ok record → record.Sized := by
  refine reached.each_record (motive := fun _ _ record => record.Sized)
    ?refused ?created ?besideCreated ?claimed ?besideClaimed ?deposited
  case refused => exact fun _ _ before => before
  case created => exact fun _ steps => steps.sized
  case besideCreated => exact fun _ _ before => before
  case claimed => exact fun steps before => before.continues steps.counted_facts.continues
  case besideClaimed => exact fun _ _ before => before
  case deposited => exact fun _ _ _ before => before

theorem Reaches.soundAt (reached : engine.Reaches history ledger) {account : Pubkey}
    {record : VampRecord} (stored : ledger.recordAt account = .ok record) :
    record.SoundAt engine.program account :=
  ⟨reached.sized account record stored, reached.placed account record stored⟩

theorem Reaches.marker_soundAt (reached : engine.Reaches history ledger) {account : Pubkey}
    {marker : ClaimMarker} (stands : ledger.markerAt account = some marker) :
    marker.SoundAt engine.program ledger account := by
  obtain ⟨claim, member, rfl, left⟩ := reached.claim_of_markerAt stands
  obtain ⟨bump, derived, known⟩ := reached.marker_stands claim member
  obtain ⟨vamp, record, kept⟩ := reached.keeps claim member
  have bumps : marker.bump = bump := by
    rw [stands] at known
    rw [Option.some.inj known]
    rfl
  refine ⟨by rw [left]; rfl, ?_, vamp, record, kept.stored, ?_⟩
  · rw [left]
    exact kept.entitled.positive
  · -- The mint of the claim leads to the record, and from there to the marker.
    have place := reached.placed vamp record kept.stored
    rw [kept.mint] at place
    rw [DerivedAccount.findMarker?, place, Option.bind_some] at derived
    rw [left, bumps]
    exact Ledger.findMarker_eq_ok_iff.mpr derived

theorem Reaches.readable (reached : engine.Reaches history ledger) {account : Pubkey} {data : Bytes}
    (found : ledger.accounts.find? account = some data) :
    (∃ record, VampRecord.ofAccount data = .ok record) ∨
      ∃ marker, ClaimMarker.ofAccount data = .ok marker := by
  induction reached with
  | start => cases found
  | refused _ _ ih => exact ih found
  | created _ steps ih =>
    rw [steps.find?_next] at found
    split at found
    · cases found
      exact Or.inl ⟨_, VampRecord.ofAccount_toAccount steps.written⟩
    · exact ih found
  | claimed _ steps ih =>
    rw [steps.find?_next] at found
    split at found
    · cases found
      exact Or.inl ⟨_, VampRecord.ofAccount_toAccount steps.recordWritten⟩
    · split at found
      · cases found
        exact Or.inr ⟨_, ClaimMarker.ofAccount_toAccount steps.markerWritten⟩
      · exact ih found
  | deposited _ _ ih => exact ih found

theorem Reaches.wellFormed (reached : engine.Reaches history ledger) :
    ledger.WellFormed engine.program := by
  intro account data found
  rcases reached.readable found with ⟨record, read⟩ | ⟨marker, read⟩
  · have stored := Ledger.recordAt_eq_ok_iff.mpr ⟨data, found, read⟩
    exact Or.inl ⟨record, read, reached.soundAt stored⟩
  · have stands := Ledger.markerAt_of_find? found read
    exact Or.inr ⟨marker, read, reached.marker_soundAt stands⟩

end Engine

end TokenClaim
