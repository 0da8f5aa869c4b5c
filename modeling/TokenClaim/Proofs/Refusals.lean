import TokenClaim.Ledger.Engine
import TokenClaim.Proofs.Checked
/-!
For which reasons the steps of an operation are refused. A chain of steps is refused for a reason
of one of its steps, so that the reasons of each kind of step are told once.
-/

set_option autoImplicit false

namespace TokenClaim

section
variable {ε ε' α β : Type}

theorem bind_eq_error_iff {step : Except ε α} {next : α → Except ε β} {fault : ε} :
    (step >>= next) = .error fault ↔
      step = .error fault ∨ ∃ value, step = .ok value ∧ next value = .error fault := by
  cases step with
  | error other => simp
  | ok value => simp

theorem mapError_eq_error_iff {step : Except ε α} {wrap : ε → ε'} {fault : ε'} :
    step.mapError wrap = .error fault ↔ ∃ cause, step = .error cause ∧ wrap cause = fault := by
  cases step with
  | error cause => simp
  | ok value => simp

end

theorem orOverflow_eq_error {α : Type} {value : Option α} {refusal : Refusal}
    (refused : orOverflow value = .error refusal) : refusal = .overflow := by
  cases value with
  | none => exact (Except.error.inj refused).symm
  | some word => cases refused

/-- A step that is refused is refused for one of the given reasons. -/
def RefusedBy {α : Type} (reason : Refusal → Prop) (step : Result α) : Prop :=
  ∀ refusal, step = .error refusal → reason refusal

namespace RefusedBy

variable {α β : Type} {reason : Refusal → Prop}

theorem ok (value : α) : RefusedBy reason (.ok value) := by
  intro refusal refused
  cases refused

theorem error {refusal : Refusal} (known : reason refusal) :
    RefusedBy reason (.error refusal : Result α) := by
  intro other refused
  cases refused
  exact known

theorem imp {other : Refusal → Prop} {step : Result α} (refused : RefusedBy reason step)
    (weaker : ∀ refusal, reason refusal → other refusal) : RefusedBy other step :=
  fun refusal here => weaker refusal (refused refusal here)

theorem bind_of_eq {step : Result α} {next : α → Result β} (first : RefusedBy reason step)
    (rest : ∀ value, step = .ok value → RefusedBy reason (next value)) :
    RefusedBy reason (step >>= next) := by
  intro refusal refused
  rcases bind_eq_error_iff.mp refused with here | ⟨value, done, later⟩
  · exact first refusal here
  · exact rest value done refusal later

theorem bind {step : Result α} {next : α → Result β} (first : RefusedBy reason step)
    (rest : ∀ value, RefusedBy reason (next value)) : RefusedBy reason (step >>= next) :=
  first.bind_of_eq fun value _ => rest value

theorem ite {condition : Prop} [Decidable condition] {yes no : Result α}
    (left : RefusedBy reason yes) (right : RefusedBy reason no) :
    RefusedBy reason (if condition then yes else no) := by
  split
  · exact left
  · exact right

theorem orOverflow {value : Option α} (known : reason .overflow) :
    RefusedBy reason (orOverflow value) := by
  intro refusal refused
  rw [orOverflow_eq_error refused]
  exact known

end RefusedBy

inductive PriceRefusal : Refusal → Prop where
  | overflow : PriceRefusal .overflow
  | ceiling (price : Nat) (ceiling : UInt64) : PriceRefusal (.ceilingExceeded price ceiling)
  | account (fault : AccountFault) : PriceRefusal (.invalidAccount fault)

theorem checkCeiling_refusedBy (price : Nat) (ceiling : Option UInt64) :
    RefusedBy PriceRefusal (checkCeiling price ceiling) := by
  cases ceiling with
  | none => exact .ok ()
  | some ceiling => exact .ite (.error (.ceiling _ _)) (.ok ())

theorem powerSum_refusedBy (n : Nat) (exponent : UInt32) :
    RefusedBy PriceRefusal (powerSum n exponent) := by
  unfold powerSum
  refine .ite (.ok 0) ?_
  split
  · exact .ok n
  · exact .orOverflow .overflow
  · exact .orOverflow .overflow
  · exact .orOverflow .overflow
  · exact .error (.account _)

namespace BondingCurve

variable (curve : BondingCurve)

theorem priceAt_refusedBy (supply : UInt64) : RefusedBy PriceRefusal (curve.priceAt supply) := by
  have power : RefusedBy PriceRefusal (boundedPower supply.toNat curve.exponent) :=
    .ite (.error (.account _)) (.orOverflow .overflow)
  exact .ite (.ok _) (power.bind fun _ => .orOverflow .overflow)

theorem lastPrice_refusedBy (last : UInt64) : RefusedBy PriceRefusal (curve.lastPrice last) := by
  unfold lastPrice
  split
  · exact .error (.ceiling _ _)
  · exact (curve.priceAt_refusedBy last).bind fun price =>
      (checkCeiling_refusedBy price curve.ceiling).bind fun _ => .ok price

theorem riseCost_refusedBy (amount supply : UInt64) :
    RefusedBy PriceRefusal (curve.riseCost amount supply) := by
  unfold riseCost
  refine .ite (.ok 0) ((powerSum_refusedBy _ _).bind fun upper => ?_)
  refine (powerSum_refusedBy _ _).bind fun lower => ?_
  exact .ite (.error .overflow) (.orOverflow .overflow)

theorem cost_refusedBy (amount supply : UInt64) :
    RefusedBy PriceRefusal (curve.cost amount supply) := by
  unfold cost
  refine .ite (.ok 0) (.bind (.orOverflow .overflow) fun last => ?_)
  refine (curve.lastPrice_refusedBy last).bind fun _ => ?_
  refine .bind (.orOverflow .overflow) fun base => ?_
  exact (curve.riseCost_refusedBy amount supply).bind fun rise => .orOverflow .overflow

end BondingCurve

theorem Pricing.cost_refusedBy (pricing : Pricing) (supply amount : UInt64) :
    RefusedBy PriceRefusal (pricing.cost supply amount) := by
  cases pricing with
  | free => exact .ok 0
  | flat price ceiling =>
    exact .ite (.ok 0) ((checkCeiling_refusedBy _ _).bind fun _ => .orOverflow .overflow)
  | curve line => exact line.cost_refusedBy amount supply

inductive AccountRefusal : Refusal → Prop where
  | noAddress : AccountRefusal .noAddress
  | absent : AccountRefusal .vampNotFound
  | invalid (fault : AccountFault) : AccountRefusal (.invalidAccount fault)

theorem mapError_refusedBy {α : Type} (step : Except AccountFault α) :
    RefusedBy AccountRefusal (step.mapError .invalidAccount) := by
  intro refusal refused
  obtain ⟨fault, -, rfl⟩ := mapError_eq_error_iff.mp refused
  exact .invalid fault

namespace Ledger

theorem findAddresses_refusedBy (mint program : Pubkey) :
    RefusedBy AccountRefusal (findAddresses mint program) := by
  unfold findAddresses
  split
  · exact .ok _
  · exact .error .noAddress

theorem findMarker_refusedBy (record : Pubkey) (source : EthAddress) (program : Pubkey) :
    RefusedBy AccountRefusal (findMarker record source program) := by
  unfold findMarker
  split
  · exact .ok _
  · exact .error .noAddress

theorem recordAt_refusedBy (ledger : Ledger) (account : Pubkey) :
    RefusedBy AccountRefusal (ledger.recordAt account) := by
  unfold recordAt
  split
  · exact .error .absent
  · exact mapError_refusedBy _

end Ledger

theorem VampRecord.pricing_refusedBy (record : VampRecord) :
    RefusedBy AccountRefusal record.pricing :=
  .ite (.ok _) (.ite (.ok _) (.ite (.error (.invalid _)) (.ok _)))

inductive AuthorizationRefusal : Refusal → Prop where
  | attestation (role : Role) (fault : Attestation.Fault) :
      AuthorizationRefusal (.invalidAttestation role fault)
  | zeroAmount : AuthorizationRefusal .zeroAmount
  | proof : AuthorizationRefusal .invalidProof
  | allocation (requested allocated : UInt64) :
      AuthorizationRefusal (.allocationExceeded requested allocated)

theorem VampRecord.allocationFor_refusedBy (record : VampRecord) (source : EthAddress)
    (proof : Option AllocationProof) :
    RefusedBy AuthorizationRefusal (record.allocationFor source proof) := by
  unfold allocationFor
  split
  · exact .ok _
  · split
    · exact .error .proof
    · exact .ite (.ok _) (.error .proof)

namespace Engine

theorem authorize_refusedBy (engine : Engine) (record : VampRecord) (request : ClaimRequest) :
    RefusedBy AuthorizationRefusal (engine.authorize record request) := by
  unfold authorize
  simp only
  split
  · exact .error (.attestation _ _)
  · refine .ite (.error .zeroAmount) ?_
    refine (record.allocationFor_refusedBy _ _).bind fun allocated => ?_
    exact .ite (.error (.allocation _ _)) (.ok ())

theorem count_refusedBy (record : VampRecord) (amount cost : UInt64) :
    RefusedBy (· = .overflow) (count record amount cost) :=
  .bind (.orOverflow rfl) fun _ => .bind (.orOverflow rfl) fun _ =>
    .bind (.orOverflow rfl) fun _ => .ok _

theorem settle_eq_vaultDepleted {ledger : Ledger} {record : VampRecord} {claimant : Pubkey}
    {amount cost requested available : UInt64}
    (refused : settle ledger record claimant amount cost =
      .error (.vaultDepleted requested available)) :
    requested = amount ∧ available = ledger.tokensOf record.mint record.vault ∧
      available < requested := by
  unfold settle at refused
  simp only at refused
  split at refused
  · simp only [pure_bind] at refused
    rcases bind_eq_error_iff.mp refused with overflow | ⟨received, -, refused⟩
    · cases orOverflow_eq_error overflow
    · split at refused
      · rcases bind_eq_error_iff.mp refused with overflow | ⟨given, -, done⟩
        · cases orOverflow_eq_error overflow
        · cases done
      · rename_i lacking
        cases refused
        refine ⟨rfl, rfl, ?_⟩
        unfold Word64.sub? at lacking
        split at lacking
        · cases lacking
        · rename_i large
          exact UInt64.not_le.mp large
  · cases refused

/-- A claim for which the vault holds too few tokens has passed every check up to the balances. -/
theorem claim_eq_vaultDepleted {engine : Engine} {request : ClaimRequest} {ledger : Ledger}
    {requested available : UInt64}
    (refused : engine.claim request ledger = .error (.vaultDepleted requested available)) :
    ∃ addresses record, Ledger.findAddresses request.mint engine.program = .ok addresses ∧
      ledger.recordAt addresses.record = .ok record ∧
      engine.authorize record request = .ok () ∧
      ledger.tokensOf record.mint record.vault < request.amount := by
  simp only [claim, bind_eq_error_iff] at refused
  rcases refused with early | ⟨addresses, found, refused⟩
  · cases Ledger.findAddresses_refusedBy _ _ _ early
  rcases refused with early | ⟨record, stored, refused⟩
  · cases ledger.recordAt_refusedBy _ _ early
  rcases refused with early | ⟨⟨⟩, authorized, refused⟩
  · cases engine.authorize_refusedBy _ _ _ early
  rcases refused with early | ⟨pricing, -, refused⟩
  · cases record.pricing_refusedBy _ early
  rcases refused with early | ⟨cost, -, refused⟩
  · cases pricing.cost_refusedBy _ _ _ early
  rcases refused with depleted | ⟨settlement, -, refused⟩
  · obtain ⟨rfl, rfl, lacking⟩ := settle_eq_vaultDepleted depleted
    exact ⟨addresses, record, found, stored, authorized, lacking⟩
  -- What comes after the balances is refused for other reasons.
  rcases refused with late | ⟨counted, -, refused⟩
  · cases count_refusedBy _ _ _ _ late
  rcases refused with late | ⟨data, -, refused⟩
  · cases mapError_refusedBy _ _ late
  rcases refused with late | ⟨marker, -, refused⟩
  · cases Ledger.findMarker_refusedBy _ _ _ _ late
  rcases refused with late | ⟨markerData, -, refused⟩
  · cases mapError_refusedBy _ _ late
  split at refused
  · cases refused
  · cases refused

end Engine

end TokenClaim
