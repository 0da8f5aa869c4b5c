import TokenClaim.Proofs.Ledger.Permanence
import TokenClaim.Proofs.Ledger.Readable
import TokenClaim.Proofs.Pricing.Monotonicity
/-!
Refusals for a price are final. Along a run a vamp keeps its pricing and its supply never goes down,
and prices never fall along the supply; so an amount that is too dear once stays too dear.
-/

set_option autoImplicit false

namespace TokenClaim

inductive TooDear : Refusal → Prop where
  | overflow : TooDear .overflow
  | ceiling (price : Nat) (ceiling : UInt64) : TooDear (.ceilingExceeded price ceiling)

theorem PriceRefusal.tooDear {refusal : Refusal} (refused : PriceRefusal refusal)
    (valid : NotInvalid refusal) : TooDear refusal := by
  cases refused with
  | overflow => exact .overflow
  | ceiling price ceiling => exact .ceiling price ceiling
  | account fault => exact False.elim valid

namespace VampRecord

def charge (record : VampRecord) (amount : UInt64) : Result UInt64 := do
  let pricing ← record.pricing
  pricing.cost record.supply amount

theorem Sized.charge_refusedBy {record : VampRecord} (sized : record.Sized) (amount : UInt64) :
    RefusedBy TooDear (record.charge amount) := by
  obtain ⟨pricing, priced, supported⟩ := sized.exists_pricing
  rw [charge, priced, ok_bind]
  intro refusal refused
  exact (pricing.cost_refusedBy _ _ _ refused).tooDear
    (Pricing.cost_notInvalid supported _ _ _ refused)

theorem Advances.exists_charge {old new : VampRecord} (advances : old.Advances new)
    {amount dear : UInt64} (charged : new.charge amount = .ok dear) :
    ∃ cost, old.charge amount = .ok cost ∧ cost ≤ dear := by
  obtain ⟨pricing, priced, charged⟩ := bind_eq_ok_iff.mp charged
  rw [advances.continues.pricing] at priced
  simp only [charge, priced, ok_bind]
  exact Pricing.cost_mono advances.supply (UInt64.le_refl amount) charged

theorem Advances.charge_refused {old new : VampRecord} (advances : old.Advances new)
    {amount : UInt64} {refusal : Refusal} (refused : old.charge amount = .error refusal) :
    ∃ again, new.charge amount = .error again := by
  cases charged : new.charge amount with
  | error again => exact ⟨again, rfl⟩
  | ok dear =>
    obtain ⟨cost, told, -⟩ := advances.exists_charge charged
    rw [refused] at told
    cases told

end VampRecord

theorem Ledger.vamp_eq_ok_iff {ledger : Ledger} {program mint : Pubkey} {record : VampRecord} :
    ledger.vamp program mint = .ok record ↔ ∃ addresses,
      findAddresses mint program = .ok addresses ∧ ledger.recordAt addresses.record = .ok record := by
  simp only [vamp, bind_eq_ok_iff]

namespace Engine

variable {engine : Engine} {ledger : Ledger}

theorem claim_of_charge_error {request : ClaimRequest} {record : VampRecord} {refusal : Refusal}
    (found : ledger.vamp engine.program request.mint = .ok record)
    (authorized : engine.authorize record request = .ok ())
    (refused : record.charge request.amount = .error refusal) :
    engine.claim request ledger = .error refusal := by
  obtain ⟨addresses, known, stored⟩ := Ledger.vamp_eq_ok_iff.mp found
  simp only [claim, known, stored, authorized, ok_bind]
  rcases bind_eq_error_iff.mp refused with unpriced | ⟨pricing, priced, dear⟩
  · rw [unpriced, error_bind]
  · rw [priced, ok_bind, dear, error_bind]

/-- An earlier and smaller claim costs no more than a later and larger one, and can be charged where
that can. So an amount that pricing refuses on a vamp at some point of a run is refused for its
price at every later point, and with it each claim of that amount that is authorized. -/
theorem price_refusals_final (engine : Engine) :
    (∀ (pricing : Pricing) (supply later amount more dear : UInt64),
        supply ≤ later → amount ≤ more → pricing.cost later more = .ok dear →
          ∃ cost, pricing.cost supply amount = .ok cost ∧ cost ≤ dear) ∧
      ∀ (operations further : List Operation) (mint : Pubkey) (record : VampRecord)
        (amount : UInt64) (refusal : Refusal),
        (engine.after operations).vamp engine.program mint = .ok record →
          record.charge amount = .error refusal →
          ∃ later again,
            (engine.run further (engine.after operations)).2.vamp engine.program mint = .ok later ∧
              later.charge amount = .error again ∧ TooDear again ∧
              ∀ request : ClaimRequest, request.mint = mint → request.amount = amount →
                engine.authorize later request = .ok () →
                engine.claim request (engine.run further (engine.after operations)).2 =
                  .error again := by
  refine ⟨fun _ _ _ _ _ _ order size charged => Pricing.cost_mono order size charged, ?_⟩
  intro operations further mint record amount refusal found refused
  obtain ⟨addresses, known, stored⟩ := Ledger.vamp_eq_ok_iff.mp found
  have preserved := engine.run_preserves further (engine.after operations)
  obtain ⟨later, kept, advances⟩ := preserved.records _ _ stored
  obtain ⟨again, dear⟩ := advances.charge_refused refused
  have sized := ((engine.reaches operations).run further).sized _ _ kept
  have stands := Ledger.vamp_eq_ok_iff.mpr ⟨addresses, known, kept⟩
  refine ⟨later, again, stands, dear, sized.charge_refusedBy _ _ dear, ?_⟩
  rintro request rfl rfl authorized
  exact claim_of_charge_error stands authorized dear

end Engine

/-- The sixth token on the cubic curve costs 251 lamports of 200 allowed. Six tokens at once are
refused from the start, and still after five of them have been claimed. -/
theorem price_refusals_final_cubic :
    Market.fundedOnCurve.vamp Market.engine.program Market.first.mint = .ok Market.freshOnCurve ∧
      Market.freshOnCurve.charge 6 = .error (.ceilingExceeded 251 200) ∧
      ∃ later again,
        Market.claimedOnCurve.next.vamp Market.engine.program Market.first.mint = .ok later ∧
          later.charge 6 = .error again ∧ TooDear again := by
  have refused : Market.freshOnCurve.charge 6 = .error (.ceilingExceeded 251 200) := rfl
  have found : Market.fundedOnCurve.vamp Market.engine.program Market.first.mint =
      .ok Market.freshOnCurve :=
    Ledger.vamp_eq_ok_iff.mpr ⟨_, Market.claimedOnCurve.found, Market.recordAt_fundedOnCurve⟩
  have final := (Engine.price_refusals_final Market.engine).2
    [.create Market.curveCreation, .deposit Market.creator 300]
    [.claim (Market.claimOf Market.first.mint Market.creator)] Market.first.mint Market.freshOnCurve 6
  rw [Market.after_fundedOnCurve, Market.run_fundedOnCurve] at final
  obtain ⟨later, again, stands, dear, reason, -⟩ := final _ found refused
  exact ⟨found, refused, later, again, stands, dear, reason⟩

end TokenClaim
