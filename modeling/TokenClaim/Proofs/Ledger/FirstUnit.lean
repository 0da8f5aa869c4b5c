import TokenClaim.Proofs.Ledger.Creation
import TokenClaim.Proofs.Ledger.PriceRefusals
import TokenClaim.Proofs.Pricing.Quotes
/-!
Whether terms that pass their check can sell a first unit. The check holds a curve's base price
against the ceiling. But a flat price is held against it too when it is charged, and on a curve with
the exponent 0 every unit costs the slope as well. On such terms nothing is ever sold.
-/

set_option autoImplicit false

namespace TokenClaim

theorem orOverflow_ne_ceilingExceeded {α : Type} {value : Option α} {price : Nat}
    {ceiling : UInt64} : orOverflow value ≠ .error (.ceilingExceeded price ceiling) := by
  intro refused
  cases orOverflow_eq_error refused

namespace Pricing

variable {pricing : Pricing}

theorem unit_refused_iff (supported : pricing.Supported) (supply : UInt64) :
    (∃ price ceiling, pricing.cost supply 1 = .error (.ceilingExceeded price ceiling)) ↔
      ∃ ceiling, pricing.ceiling? = some ceiling ∧
        ceiling.toNat < pricing.plainPrice supply.toNat := by
  cases pricing with
  | free => simp [cost, ceiling?]
  | flat price ceiling =>
    have one : (1 : UInt64) ≠ 0 := by decide
    simp only [cost, flatCost, if_neg one, bind_eq_error_iff, orOverflow_ne_ceilingExceeded,
      and_false, exists_false, or_false, checkCeiling_eq_error_iff, ceiling?, plainPrice]
    constructor
    · rintro ⟨_, _, limit, kept, above, -⟩
      exact ⟨limit, kept, above⟩
    · rintro ⟨limit, kept, above⟩
      exact ⟨_, _, limit, kept, above, rfl⟩
  | curve line =>
    have charged : line.cost 1 supply = _ := BondingCurve.cost_of_last supported (by decide) rfl
    simp only [cost, charged, ceiling?, plainPrice]
    cases above : line.exceeded? supply.toNat with
    | none =>
      simp only [orOverflow_ne_ceilingExceeded, exists_false, false_iff, not_exists, not_and]
      simpa [BondingCurve.exceeded?] using above
    | some limit =>
      obtain ⟨kept, larger⟩ := Option.filter_eq_some_iff.mp above
      exact iff_of_true ⟨_, _, rfl⟩ ⟨limit, kept, of_decide_eq_true larger⟩

theorem nothing_sold_of_first {refusal : Refusal} (refused : pricing.cost 0 1 = .error refusal)
    (supply : UInt64) {amount : UInt64} (nonzero : amount ≠ 0) :
    ∃ again, pricing.cost supply amount = .error again := by
  cases charged : pricing.cost supply amount with
  | error again => exact ⟨again, rfl⟩
  | ok dear =>
    -- What can be sold at some supply can be sold at the start, and of that the first unit.
    have least : 1 ≤ amount := UInt64.le_iff_toNat_le.mpr (Word64.toNat_pos nonzero)
    obtain ⟨cost, told, -⟩ := cost_mono (UInt64.zero_le) least charged
    rw [refused] at told
    cases told

end Pricing

namespace Terms

variable {terms : Terms}

/-- The price of the first unit is above the ceiling. -/
def DearFromStart (terms : Terms) : Prop :=
  terms.paid = true ∧ ∃ ceiling, terms.ceiling = some ceiling ∧
    if terms.onCurve then
      terms.exponent = 0 ∧ ceiling.toNat < terms.base.toNat + terms.slope.toNat
    else ceiling < terms.flatPrice

theorem pricing_supported (valid : terms.validate = .ok ()) : terms.pricing.Supported := by
  have low := (validate_eq_ok_iff.mp valid).1
  unfold pricing
  split
  · trivial
  · split
    · trivial
    · exact Or.inl low

theorem dearFromStart_iff (valid : terms.validate = .ok ()) :
    terms.DearFromStart ↔ ∃ ceiling, terms.pricing.ceiling? = some ceiling ∧
      ceiling.toNat < terms.pricing.plainPrice 0 := by
  have limited := (validate_eq_ok_iff.mp valid).2
  unfold DearFromStart pricing
  cases terms.paid with
  | false => simp [Pricing.ceiling?]
  | true =>
    cases curved : terms.onCurve with
    | false => simp [Pricing.ceiling?, Pricing.plainPrice, UInt64.lt_iff_toNat_lt]
    | true =>
      simp only [Bool.not_true, Bool.false_eq_true, if_false, true_and, if_true,
        Pricing.ceiling?, Pricing.plainPrice, BondingCurve.plainPrice]
      refine exists_congr fun ceiling => and_congr_right fun kept => ?_
      by_cases flat : terms.exponent = 0
      · simp [flat]
      · -- From the exponent 1 on the first unit costs the base price, which was checked.
        have power : 0 ^ terms.exponent.toNat = 0 := by
          refine Nat.zero_pow (Nat.pos_of_ne_zero fun none => flat ?_)
          exact UInt32.toNat_inj.mp none
        have within := UInt64.le_iff_toNat_le.mp (limited curved ceiling kept)
        simp only [flat, false_and, power, Nat.mul_zero, Nat.add_zero, false_iff]
        omega

theorem DearFromStart.refuses (dear : terms.DearFromStart) (valid : terms.validate = .ok ())
    (supply : UInt64) {amount : UInt64} (nonzero : amount ≠ 0) :
    ∃ refusal, terms.pricing.cost supply amount = .error refusal ∧ TooDear refusal := by
  have supported := pricing_supported valid
  have first := (Pricing.unit_refused_iff supported 0).mpr ((dearFromStart_iff valid).mp dear)
  obtain ⟨price, ceiling, refused⟩ := first
  obtain ⟨refusal, again⟩ := Pricing.nothing_sold_of_first refused supply nonzero
  have priced := terms.pricing.cost_refusedBy supply amount refusal again
  exact ⟨refusal, again,
    priced.tooDear (Pricing.cost_notInvalid supported supply amount refusal again)⟩

end Terms

namespace Engine

variable {engine : Engine} {request : CreateRequest} {ledger : Ledger}

theorem CreateSteps.charge_refused (steps : CreateSteps engine request ledger)
    (dear : (engine.chooseTerms request steps.descriptor).DearFromStart)
    (further : List Operation) {amount : UInt64} (nonzero : amount ≠ 0) :
    ∃ later refusal,
      (engine.run further steps.next).2.vamp engine.program steps.record.mint = .ok later ∧
        later.charge amount = .error refusal ∧ TooDear refusal := by
  -- The record keeps its pricing along the run, and the refusal holds at every supply.
  have preserved := engine.run_preserves further steps.next
  obtain ⟨later, kept, advances⟩ := preserved.records _ _ steps.record_stored
  have priced : later.pricing = .ok steps.terms.pricing :=
    advances.continues.pricing.trans steps.pricing_record
  rw [← steps.terms_eq] at dear
  obtain ⟨refusal, refused, tooDear⟩ := dear.refuses steps.valid later.supply nonzero
  have found : Ledger.findAddresses steps.record.mint engine.program = .ok steps.addresses := by
    rw [steps.record_mint]
    exact Ledger.findAddresses_eq_ok_iff.mpr steps.addresses_found
  refine ⟨later, refusal, ?_, ?_, tooDear⟩
  · exact Ledger.vamp_eq_ok_iff.mpr ⟨_, found, kept⟩
  · rw [VampRecord.charge, priced, ok_bind, refused]

end Engine

/-- Terms that pass their check refuse the first unit for the ceiling exactly if its price is above
that, and a vamp created on them then refuses every amount for its price, whatever happens after. -/
theorem Terms.first_unit_refused_iff (terms : Terms) (valid : terms.validate = .ok ()) :
    ((∃ price ceiling, terms.pricing.cost 0 1 = .error (.ceilingExceeded price ceiling)) ↔
        terms.DearFromStart) ∧
      (terms.DearFromStart →
        ∀ (engine : Engine) (request : CreateRequest) (before after : Ledger) (record : VampRecord)
          (descriptor : Descriptor),
          engine.create request before = .ok (record, after) →
            Descriptor.read engine.policy request.descriptor = .ok descriptor →
            engine.chooseTerms request descriptor = terms →
              ∀ (further : List Operation) (amount : UInt64), amount ≠ 0 →
                ∃ later refusal,
                  (engine.run further after).2.vamp engine.program record.mint = .ok later ∧
                    later.charge amount = .error refusal ∧ TooDear refusal) := by
  constructor
  · rw [dearFromStart_iff valid]
    exact Pricing.unit_refused_iff (pricing_supported valid) 0
  · intro dear engine request before after record descriptor done described chosen further amount
      nonzero
    obtain ⟨steps, rfl, rfl⟩ := Engine.create_eq_ok_iff.mp done
    obtain rfl : steps.descriptor = descriptor :=
      Except.ok.inj (steps.described.symm.trans described)
    exact steps.charge_refused (chosen ▸ dear) further nonzero

namespace Market

open Engine

def dearFlat : Terms := { engine.terms with flatPrice := 2000 }

def dearLine : Terms := { cubic with exponent := 0, base := 200 }

def dearCreation : CreateRequest := { creation 49 with terms := some dearFlat }

def openedDear : CreateSteps engine dearCreation .empty :=
  openedFrom .standard offer offer.write dearFlat 2000 read_offer rfl rfl rfl

theorem dearFlat_dear : dearFlat.DearFromStart := ⟨rfl, 1000, rfl, by decide⟩

theorem dearLine_dear : dearLine.DearFromStart := ⟨rfl, 200, rfl, by decide⟩

end Market

/-- Both kinds of such terms pass, and a vamp is created on a flat price of which no token can be
claimed. -/
theorem first_unit_refused_dear :
    Market.dearFlat.validate = .ok () ∧ Market.dearLine.validate = .ok () ∧
      (∃ price ceiling,
        Market.dearFlat.pricing.cost 0 1 = .error (.ceilingExceeded price ceiling)) ∧
      (∃ price ceiling,
        Market.dearLine.pricing.cost 0 1 = .error (.ceilingExceeded price ceiling)) ∧
      ∃ record after, Market.engine.create Market.dearCreation .empty = .ok (record, after) ∧
        ∃ later refusal,
          (Market.engine.run [.deposit Market.creator 5000] after).2.vamp Market.engine.program
              record.mint = .ok later ∧
            later.charge 1 = .error refusal ∧ TooDear refusal := by
  obtain ⟨flat, unsold⟩ := Terms.first_unit_refused_iff Market.dearFlat rfl
  obtain ⟨line, -⟩ := Terms.first_unit_refused_iff Market.dearLine rfl
  have done := Engine.create_eq_ok_iff.mpr ⟨Market.openedDear, rfl, rfl⟩
  refine ⟨rfl, rfl, flat.mpr Market.dearFlat_dear, line.mpr Market.dearLine_dear, _, _, done, ?_⟩
  exact unsold Market.dearFlat_dear _ _ _ _ _ _ done Market.openedDear.described rfl
    [.deposit Market.creator 5000] 1 (by decide)

theorem validated_flat_price_refused :
    ¬ ∀ terms : Terms, terms.validate = .ok () →
      ∀ price ceiling, terms.pricing.cost 0 1 ≠ .error (.ceilingExceeded price ceiling) := by
  intro sells
  exact sells Market.dearFlat rfl 2000 1000 rfl

end TokenClaim
