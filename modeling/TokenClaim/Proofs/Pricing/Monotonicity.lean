import TokenClaim.Proofs.Pricing.Splitting
/-!
Prices never fall. What can be charged for a claim can be charged for an earlier or a smaller one,
and costs no more there; so a claim goes through pricing exactly if its parts do, one after the
other.
-/

set_option autoImplicit false

namespace TokenClaim

theorem Word64.toNat_add {a b : UInt64} (fits : a.toNat + b.toNat < UInt64.size) :
    (a + b).toNat = a.toNat + b.toNat := by
  rw [UInt64.toNat_add]
  exact Nat.mod_eq_of_lt fits

namespace BondingCurve

variable {curve : BondingCurve}

theorem plainPrice_mono (curve : BondingCurve) {supply later : Nat} (order : supply ≤ later) :
    curve.plainPrice supply ≤ curve.plainPrice later :=
  Nat.add_le_add_left (Nat.mul_le_mul_left _ (Nat.pow_le_pow_left order _)) _

theorem plainCost_eq_sum_range (curve : BondingCurve) (supply amount : Nat) :
    curve.plainCost supply amount = ∑ k ∈ Finset.range amount, curve.plainPrice (supply + k) := by
  rw [plainCost, Finset.sum_Ico_eq_sum_range, Nat.add_sub_cancel_left]

theorem plainCost_mono (curve : BondingCurve) {supply later amount more : Nat}
    (order : supply ≤ later) (size : amount ≤ more) :
    curve.plainCost supply amount ≤ curve.plainCost later more := by
  rw [plainCost_eq_sum_range, plainCost_eq_sum_range]
  -- The units of the later claim cost more one by one, and the larger claim has more of them.
  calc
    ∑ k ∈ Finset.range amount, curve.plainPrice (supply + k)
      ≤ ∑ k ∈ Finset.range amount, curve.plainPrice (later + k) :=
        Finset.sum_le_sum fun k _ => curve.plainPrice_mono (Nat.add_le_add_right order k)
    _ ≤ ∑ k ∈ Finset.range more, curve.plainPrice (later + k) :=
        Finset.sum_le_sum_of_subset (Finset.range_mono size)

theorem Sells.of_le {supply later : Nat} (sells : curve.Sells later) (order : supply ≤ later) :
    curve.Sells supply where
  supported := sells.supported
  numbered := Nat.lt_of_le_of_lt order sells.numbered
  affordable := by
    have price := curve.plainPrice_mono order
    have affordable := sells.affordable
    simp only [exceeded?, Option.filter_eq_none_iff, decide_eq_true_eq, Nat.not_lt] at affordable ⊢
    exact fun ceiling kept => Nat.le_trans price (affordable ceiling kept)

end BondingCurve

namespace Pricing

variable {pricing : Pricing}

theorem plainCost_mono (pricing : Pricing) {supply later amount more : Nat}
    (order : supply ≤ later) (size : amount ≤ more) :
    pricing.plainCost supply amount ≤ pricing.plainCost later more := by
  cases pricing with
  | free => exact Nat.le_refl 0
  | flat price ceiling => exact Nat.mul_le_mul_right _ size
  | curve line => exact line.plainCost_mono order size

theorem Sells.of_le {supply later : Nat} (sells : pricing.Sells later) (order : supply ≤ later) :
    pricing.Sells supply := by
  cases pricing with
  | free => trivial
  | flat price ceiling => exact sells
  | curve line => exact BondingCurve.Sells.of_le sells order

theorem exists_cost_of_le {supply amount bound : UInt64}
    (within : pricing.plainCost supply.toNat amount.toNat ≤ bound.toNat)
    (sold : amount ≠ 0 → pricing.Sells (supply.toNat + amount.toNat - 1)) :
    ∃ cost, pricing.cost supply amount = .ok cost ∧
      cost.toNat = pricing.plainCost supply.toNat amount.toNat := by
  have fits := Nat.lt_of_le_of_lt within bound.toNat_lt
  have sum : (UInt64.ofNatLT _ fits).toNat = pricing.plainCost supply.toNat amount.toNat :=
    UInt64.toNat_ofNatLT
  exact ⟨_, cost_eq_ok_iff.mpr ⟨sum, sold⟩, sum⟩

/-- An earlier and smaller claim can be charged where a later and larger one can, and costs no
more. -/
theorem cost_mono {supply later amount more dear : UInt64} (order : supply ≤ later)
    (size : amount ≤ more) (charged : pricing.cost later more = .ok dear) :
    ∃ cost, pricing.cost supply amount = .ok cost ∧ cost ≤ dear := by
  rw [UInt64.le_iff_toNat_le] at order size
  obtain ⟨total, sold⟩ := cost_eq_ok_iff.mp charged
  have least : pricing.plainCost supply.toNat amount.toNat ≤ dear.toNat :=
    total ▸ pricing.plainCost_mono order size
  have earlier : amount ≠ 0 → pricing.Sells (supply.toNat + amount.toNat - 1) := by
    intro nonzero
    have positive := Word64.toNat_pos nonzero
    have larger : more ≠ 0 := by
      rintro rfl
      rw [UInt64.toNat_zero] at size
      omega
    exact (sold larger).of_le (by omega)
  obtain ⟨cost, told, sum⟩ := exists_cost_of_le least earlier
  exact ⟨cost, told, UInt64.le_iff_toNat_le.mpr (sum ▸ least)⟩

/-- A claim can be charged exactly if its two parts can be, one after the other, for what both cost
together. -/
theorem cost_add_eq_ok_iff {supply first second cost : UInt64}
    (numbered : supply.toNat + first.toNat + second.toNat < UInt64.size) :
    pricing.cost supply (first + second) = .ok cost ↔
      ∃ firstCost secondCost, pricing.cost supply first = .ok firstCost ∧
        pricing.cost (supply + first) second = .ok secondCost ∧
        firstCost.toNat + secondCost.toNat = cost.toNat := by
  have both : (first + second).toNat = first.toNat + second.toNat :=
    Word64.toNat_add (Nat.lt_of_le_of_lt (by omega) numbered)
  have moved : (supply + first).toNat = supply.toNat + first.toNat :=
    Word64.toNat_add (Nat.lt_of_le_of_lt (by omega) numbered)
  constructor
  · intro charged
    obtain ⟨total, sold⟩ := cost_eq_ok_iff.mp charged
    rw [both, plainCost_add, ← moved] at total
    have whole : first.toNat + second.toNat ≠ 0 → first + second ≠ 0 := by
      rintro some none
      rw [← both, none, UInt64.toNat_zero] at some
      exact some rfl
    -- The last unit of the first part is below that of the whole, which is that of the second part.
    have firstSold : first ≠ 0 → pricing.Sells (supply.toNat + first.toNat - 1) := by
      intro nonzero
      have positive := Word64.toNat_pos nonzero
      exact (sold (whole (by omega))).of_le (by omega)
    have secondSold : second ≠ 0 → pricing.Sells ((supply + first).toNat + second.toNat - 1) := by
      intro nonzero
      have positive := Word64.toNat_pos nonzero
      have last := sold (whole (by omega))
      rwa [both, ← Nat.add_assoc, ← moved] at last
    obtain ⟨firstCost, start, firstSum⟩ :=
      exists_cost_of_le (total ▸ Nat.le_add_right _ _) firstSold
    obtain ⟨secondCost, rest, secondSum⟩ :=
      exists_cost_of_le (total ▸ Nat.le_add_left _ _) secondSold
    exact ⟨firstCost, secondCost, start, rest, by rw [firstSum, secondSum, total]⟩
  · rintro ⟨firstCost, secondCost, start, rest, paid⟩
    exact cost_of_parts start rest moved both paid.symm

theorem cost_add_eq_ok_iff_cubic :
    (5 : UInt64).toNat + (4 : UInt64).toNat + (6 : UInt64).toNat < UInt64.size ∧
      ∃ firstCost secondCost,
        (curve ⟨7, 3, 3, some 10000⟩).cost 5 4 = .ok firstCost ∧
          (curve ⟨7, 3, 3, some 10000⟩).cost 9 6 = .ok secondCost ∧
          firstCost.toNat + secondCost.toNat = 32845 := by
  have numbered : (5 : UInt64).toNat + (4 : UInt64).toNat + (6 : UInt64).toNat < UInt64.size := by
    decide
  have whole : (curve ⟨7, 3, 3, some 10000⟩).cost 5 (4 + 6) = .ok 32845 := rfl
  exact ⟨numbered, (cost_add_eq_ok_iff numbered).mp whole⟩

end Pricing

end TokenClaim
