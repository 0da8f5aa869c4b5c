import TokenClaim.Proofs.Ledger.Markers
import TokenClaim.Proofs.Ledger.PathIndependence
/-!
What stands in a ledger for good. Along any run of operations records only move their counters, and
those only upwards, and the markers of claims keep every byte; so no vamp is created a second time.
-/

set_option autoImplicit false

namespace TokenClaim

structure VampRecord.Advances (old new : VampRecord) : Prop where
  continues : old.Continues new
  totalClaimed : old.totalClaimed ≤ new.totalClaimed
  reserve : old.reserve ≤ new.reserve
  supply : old.supply ≤ new.supply

namespace VampRecord.Advances

theorem refl (record : VampRecord) : record.Advances record :=
  ⟨.refl record, UInt64.le_refl _, UInt64.le_refl _, UInt64.le_refl _⟩

theorem trans {first second third : VampRecord} (left : first.Advances second)
    (right : second.Advances third) : first.Advances third where
  continues := left.continues.trans right.continues
  totalClaimed := UInt64.le_trans left.totalClaimed right.totalClaimed
  reserve := UInt64.le_trans left.reserve right.reserve
  supply := UInt64.le_trans left.supply right.supply

end VampRecord.Advances

namespace Ledger

/-- Every record is still at its account with at most higher counters, and every marker has kept
its bytes. -/
structure Preserves (before after : Ledger) : Prop where
  records : ∀ (account : Pubkey) (record : VampRecord), before.recordAt account = .ok record →
    ∃ later, after.recordAt account = .ok later ∧ record.Advances later
  markers : ∀ (account : Pubkey) (data : Bytes) (marker : ClaimMarker),
    before.accounts.find? account = some data → ClaimMarker.ofAccount data = .ok marker →
    after.accounts.find? account = some data

namespace Preserves

theorem refl (ledger : Ledger) : ledger.Preserves ledger where
  records _ record stored := ⟨record, stored, .refl record⟩
  markers _ _ _ found _ := found

theorem trans {first second third : Ledger} (earlier : first.Preserves second)
    (later : second.Preserves third) : first.Preserves third where
  records account record stored := by
    obtain ⟨between, kept, advances⟩ := earlier.records account record stored
    obtain ⟨last, keptOn, further⟩ := later.records account between kept
    exact ⟨last, keptOn, advances.trans further⟩
  markers account data marker found known :=
    later.markers account data marker (earlier.markers account data marker found known) known

end Preserves

end Ledger

namespace Engine

variable {engine : Engine} {history : History} {ledger : Ledger}

theorem Counted.advances {record counted : VampRecord} {amount cost : UInt64}
    (moved : Counted record amount cost counted) : record.Advances counted where
  continues := moved.continues
  totalClaimed := by
    rw [UInt64.le_iff_toNat_le, moved.totalClaimed]
    exact Nat.le_add_right _ _
  reserve := by
    rw [UInt64.le_iff_toNat_le, moved.reserve]
    exact Nat.le_add_right _ _
  supply := by
    rw [UInt64.le_iff_toNat_le, moved.supply]
    exact Nat.le_add_right _ _

theorem CreateSteps.preserves {request : CreateRequest}
    (steps : CreateSteps engine request ledger) :
    ledger.Preserves steps.next where
  records account record stored := by
    refine ⟨record, ?_, .refl record⟩
    rw [steps.recordAt_next, if_neg (steps.ne_of_recordAt stored), stored]
  markers account data marker found _ := by
    have elsewhere : account ≠ steps.addresses.record := by
      rintro rfl
      rw [steps.find?_vacant] at found
      cases found
    rw [steps.find?_next, if_neg elsewhere, found]

theorem ClaimSteps.preserves {request : ClaimRequest} (steps : ClaimSteps engine request ledger) :
    ledger.Preserves steps.next where
  records account record stored := by
    by_cases here : account = steps.addresses.record
    · rw [here, steps.stored] at stored
      cases stored
      exact ⟨steps.counted, here ▸ steps.counted_stored, steps.counted_facts.advances⟩
    · exact ⟨record, steps.recordAt_next_eq_ok_iff.mpr (Or.inr ⟨here, stored⟩), .refl record⟩
  markers account data marker found known := by
    have stands := Ledger.markerAt_of_find? found known
    have noRecord : account ≠ steps.addresses.record := by
      rintro rfl
      rw [Ledger.markerAt_of_recordAt steps.stored] at stands
      cases stands
    have noNewMarker : account ≠ steps.marker := by
      rintro rfl
      rw [Ledger.markerAt_of_vacant steps.vacant] at stands
      cases stands
    rw [steps.find?_next, if_neg noRecord, if_neg noNewMarker, found]

theorem step_preserves (engine : Engine) (ledger : Ledger) (operation : Operation) :
    ledger.Preserves (engine.step ledger operation).2 := by
  unfold Engine.step
  split
  · rename_i done
    cases performs_of_eq_ok done with
    | created steps => exact steps.preserves
    | claimed steps => exact steps.preserves
    | deposited _ =>
      -- A deposit touches no account.
      exact ⟨fun _ record stored => ⟨record, stored, .refl record⟩, fun _ _ _ found _ => found⟩
  · exact .refl ledger

theorem run_preserves (engine : Engine) (operations : List Operation) (ledger : Ledger) :
    ledger.Preserves (engine.run operations ledger).2 := by
  induction operations generalizing ledger with
  | nil => exact .refl ledger
  | cons operation rest ih => exact (engine.step_preserves ledger operation).trans (ih _)

def mintOf (engine : Engine) (request : CreateRequest) : Result Pubkey := do
  let descriptor ← Descriptor.read engine.policy request.descriptor
  let identifier ← chooseIdentifier request descriptor
  match VampAddresses.derive? request.authority identifier engine.program with
  | some addresses => return addresses.mint
  | none => throw .noAddress

theorem CreateSteps.mintOf_eq {request : CreateRequest}
    (steps : CreateSteps engine request ledger) :
    engine.mintOf request = .ok steps.record.mint := by
  simp only [mintOf, steps.described, steps.identified, steps.derived, ok_bind, steps.record_mint]
  rfl

theorem Reaches.create_refused (reached : engine.Reaches history ledger) {account : Pubkey}
    {record : VampRecord} (stored : ledger.recordAt account = .ok record) {request : CreateRequest}
    (same : engine.mintOf request = .ok record.mint) :
    ∃ refusal, engine.create request ledger = .error refusal := by
  cases answer : engine.create request ledger with
  | error refusal => exact ⟨refusal, rfl⟩
  | ok done =>
    obtain ⟨steps, -, -⟩ := create_eq_ok_iff.mp answer
    rw [steps.mintOf_eq] at same
    exact absurd (Except.ok.inj same).symm (steps.mint_ne reached.placed stored)

/-- What stands after a run stands after any further operations: each record at its account, all of
it the same but for counters that have not gone down, and each marker byte for byte. A creation that
leads to the mint of a record is refused from then on. -/
theorem records_permanent (engine : Engine) (operations further : List Operation) :
    (engine.after operations).Preserves (engine.run further (engine.after operations)).2 ∧
      ∀ (account : Pubkey) (record : VampRecord),
        (engine.after operations).recordAt account = .ok record →
        ∀ request : CreateRequest, engine.mintOf request = .ok record.mint →
          ∃ refusal, engine.create request (engine.run further (engine.after operations)).2 =
            .error refusal := by
  have preserved := engine.run_preserves further (engine.after operations)
  refine ⟨preserved, fun account record stored request same => ?_⟩
  obtain ⟨later, kept, advances⟩ := preserved.records account record stored
  rw [← advances.continues.mint] at same
  exact ((engine.reaches operations).run further).create_refused kept same

end Engine

/-- The record of the vamp on a cubic curve, before and after the holder's claim. -/
theorem records_permanent_cubic :
    (∃ later, Market.claimedOnCurve.next.recordAt Market.first.record = .ok later ∧
        Market.freshOnCurve.Advances later) ∧
      ∃ refusal, Market.engine.create Market.curveCreation Market.claimedOnCurve.next =
        .error refusal := by
  obtain ⟨preserved, refused⟩ := Engine.records_permanent Market.engine
    [.create Market.curveCreation, .deposit Market.creator 300]
    [.claim (Market.claimOf Market.first.mint Market.creator)]
  rw [Market.after_fundedOnCurve, Market.run_fundedOnCurve] at preserved refused
  exact ⟨preserved.records _ _ Market.recordAt_fundedOnCurve,
    refused _ _ Market.recordAt_fundedOnCurve _ Market.openedOnCurve.mintOf_eq⟩

end TokenClaim
