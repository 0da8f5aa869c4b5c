import Mathlib.Algebra.BigOperators.Ring.Finset
import Mathlib.Algebra.Order.BigOperators.Group.Finset
import TokenClaim.Proofs.Pricing.PowerSum
/-!
What a claim costs on a curve: the plain sum of its unit prices. The closed forms in 128 bits give
that sum whenever 64 bits hold it, and refuse a claim only where the sum, the last unit or its price
is out of bounds itself.
-/

set_option autoImplicit false

namespace TokenClaim

theorem orOverflow_bind {α β : Type} (value : Option α) (next : α → Option β) :
    (orOverflow value >>= fun found => orOverflow (next found)) = orOverflow (value.bind next) := by
  cases value <;> rfl

namespace Word64

theorem toNat_pos {word : UInt64} (nonzero : word ≠ 0) : 0 < word.toNat :=
  UInt64.lt_iff_toNat_lt.mp (UInt64.pos_iff_ne_zero.mpr nonzero)

theorem toNat_sub_one {word : UInt64} (nonzero : word ≠ 0) : (word - 1).toNat = word.toNat - 1 :=
  UInt64.toNat_sub_of_le word 1 (UInt64.le_iff_toNat_le.mpr (toNat_pos nonzero))

theorem ofNat?_of_le {value : Nat} (large : UInt64.size ≤ value) : ofNat? value = none :=
  ofNat?_eq_none_iff.mpr large

theorem word128?_bind_ofNat? (value : Nat) :
    (word128? value).bind ofNat? = ofNat? value := by
  by_cases fits : value < word128Size
  · rw [word128?_of_lt fits, Option.bind_some]
  · -- what 128 bits refuse, 64 bits refuse as well
    have large := Nat.not_lt.mp fits
    have larger : UInt64.size ≤ value := Nat.le_trans (by decide) large
    rw [word128?_of_le large, ofNat?_of_le larger, Option.bind_none]

end Word64

namespace BondingCurve

def Supported (curve : BondingCurve) : Prop := curve.exponent ≤ maxExponent ∨ curve.slope = 0

def plainPrice (curve : BondingCurve) (supply : Nat) : Nat :=
  curve.base.toNat + curve.slope.toNat * supply ^ curve.exponent.toNat

/-- By how much the prices of `amount` units exceed the base price, in sum. -/
def plainRise (curve : BondingCurve) (supply amount : Nat) : Nat :=
  curve.slope.toNat * ∑ k ∈ Finset.Ico supply (supply + amount), k ^ curve.exponent.toNat

def plainCost (curve : BondingCurve) (supply amount : Nat) : Nat :=
  ∑ k ∈ Finset.Ico supply (supply + amount), curve.plainPrice k

def exceeded? (curve : BondingCurve) (supply : Nat) : Option UInt64 :=
  curve.ceiling.filter fun ceiling => ceiling.toNat < curve.plainPrice supply

/-- What a claim costs, told by the prices of its units alone. -/
def exactCost (curve : BondingCurve) (amount supply : UInt64) : Result UInt64 :=
  let last := supply.toNat + amount.toNat - 1
  if amount = 0 then .ok 0
  else if UInt64.size ≤ last then .error .overflow
  else
    match curve.exceeded? last with
    | some ceiling =>
      .error (.ceilingExceeded (min (curve.plainPrice last) (word128Size - 1)) ceiling)
    | none => orOverflow (Word64.ofNat? (curve.plainCost supply.toNat amount.toNat))

variable {curve : BondingCurve}

theorem plainPrice_le_plainCost (curve : BondingCurve) {supply amount last : Nat}
    (start : supply ≤ last) (inside : last < supply + amount) :
    curve.plainPrice last ≤ curve.plainCost supply amount :=
  Finset.single_le_sum (f := curve.plainPrice) (fun _ _ => Nat.zero_le _)
    (Finset.mem_Ico.mpr ⟨start, inside⟩)

theorem power_le_plainPrice (curve : BondingCurve) (rising : curve.slope ≠ 0) {n supply : Nat}
    (order : n ≤ supply) : n ^ curve.exponent.toNat ≤ curve.plainPrice supply :=
  calc
    n ^ curve.exponent.toNat ≤ supply ^ curve.exponent.toNat := Nat.pow_le_pow_left order _
    _ ≤ curve.slope.toNat * supply ^ curve.exponent.toNat :=
      Nat.le_mul_of_pos_left _ (Word64.toNat_pos rising)
    _ ≤ curve.plainPrice supply := Nat.le_add_left _ _

theorem plainCost_eq (curve : BondingCurve) (supply amount : Nat) :
    curve.plainCost supply amount =
      amount * curve.base.toNat + curve.plainRise supply amount := by
  simp only [plainCost, plainPrice, plainRise, Finset.sum_add_distrib, Finset.sum_const,
    Nat.card_Ico, Nat.add_sub_cancel_left, Nat.nsmul_eq_mul, ← Finset.mul_sum]

theorem plainCost_add (curve : BondingCurve) (supply first second : Nat) :
    curve.plainCost supply (first + second) =
      curve.plainCost supply first + curve.plainCost (supply + first) second := by
  rw [plainCost, ← Nat.add_assoc, plainCost, plainCost, Finset.sum_Ico_consecutive]
  · exact Nat.le_add_right _ _
  · exact Nat.le_add_right _ _

theorem riseCost_of_powerSums {amount supply : UInt64} (rising : curve.slope ≠ 0)
    (upper : powerSum (supply.toNat + amount.toNat) curve.exponent =
      .ok (powerTotal curve.exponent.toNat (supply.toNat + amount.toNat)))
    (lower : powerSum supply.toNat curve.exponent =
      .ok (powerTotal curve.exponent.toNat supply.toNat)) :
    curve.riseCost amount supply =
      orOverflow (word128? (curve.plainRise supply.toNat amount.toNat)) := by
  have parts : powerTotal curve.exponent.toNat supply.toNat +
      ∑ k ∈ Finset.Ico supply.toNat (supply.toNat + amount.toNat), k ^ curve.exponent.toNat =
      powerTotal curve.exponent.toNat (supply.toNat + amount.toNat) :=
    Finset.sum_range_add_sum_Ico _ (Nat.le_add_right _ _)
  rw [riseCost, if_neg rising, upper, lower]
  simp only [ok_bind]
  rw [← parts, if_neg (by omega), Nat.add_sub_cancel_left, Nat.mul_comm, plainRise]

section
variable (supported : curve.Supported)
include supported

theorem priceAt_eq (supply : UInt64) :
    curve.priceAt supply = orOverflow (word128? (curve.plainPrice supply.toNat)) := by
  unfold priceAt plainPrice
  by_cases flat : curve.slope = 0
  · have small : curve.base.toNat < word128Size :=
      Nat.lt_trans curve.base.toNat_lt (by decide)
    have price : curve.base.toNat + curve.slope.toNat * supply.toNat ^ curve.exponent.toNat =
        curve.base.toNat := by simp [flat]
    rw [if_pos flat, price, word128?_of_lt small]
    rfl
  · have rising : 0 < curve.slope.toNat := Word64.toNat_pos flat
    have low : ¬maxExponent < curve.exponent :=
      UInt32.not_lt.mpr (supported.resolve_right flat)
    rw [if_neg flat, boundedPower, if_neg low]
    simp only [Option.bind_eq_bind]
    refine (orOverflow_bind _ _).trans (congrArg orOverflow ?_)
    -- The power and the rise are parts of the price, so that their bounds are its bound.
    have power := Nat.le_mul_of_pos_left (supply.toNat ^ curve.exponent.toNat) rising
    refine word128?_bind_eq (Nat.le_trans power (Nat.le_add_left _ _)) ?_
    refine word128?_bind_eq (Nat.le_add_left _ _) ?_
    rw [Nat.add_comm]
    rfl

theorem lastPrice_of_exceeded {last ceiling : UInt64}
    (above : curve.exceeded? last.toNat = some ceiling) :
    curve.lastPrice last =
      .error (.ceilingExceeded (min (curve.plainPrice last.toNat) (word128Size - 1)) ceiling) := by
  obtain ⟨kept, larger⟩ := Option.filter_eq_some_iff.mp above
  have larger := of_decide_eq_true larger
  unfold lastPrice
  rw [priceAt_eq supported, kept]
  by_cases fits : curve.plainPrice last.toNat < word128Size
  · have least : min (curve.plainPrice last.toNat) (word128Size - 1) =
        curve.plainPrice last.toNat := Nat.min_eq_left (Nat.le_sub_one_of_lt fits)
    rw [word128?_of_lt fits, least]
    simp only [orOverflow, ok_bind, checkCeiling, if_pos larger]
    rfl
  · have large := Nat.not_lt.mp fits
    rw [word128?_of_le large, Nat.min_eq_right (by omega)]
    rfl

theorem lastPrice_of_within {last : UInt64} (within : curve.exceeded? last.toNat = none) :
    curve.lastPrice last = .ok (curve.plainPrice last.toNat) ∨
      curve.lastPrice last = .error .overflow ∧ word128Size ≤ curve.plainPrice last.toNat := by
  unfold lastPrice
  rw [priceAt_eq supported]
  -- Without a ceiling the price may be beyond 128 bits; with one it is at most that ceiling.
  cases kept : curve.ceiling with
  | none =>
    rcases orOverflow_word128? (curve.plainPrice last.toNat) with told | ⟨refused, large⟩
    · rw [told]
      exact Or.inl rfl
    · rw [refused]
      exact Or.inr ⟨rfl, large⟩
  | some ceiling =>
    have below : ¬ceiling.toNat < curve.plainPrice last.toNat := by
      simpa [exceeded?, kept] using within
    have fits : curve.plainPrice last.toNat < word128Size :=
      Nat.lt_of_le_of_lt (Nat.not_lt.mp below) (Nat.lt_trans ceiling.toNat_lt (by decide))
    rw [word128?_of_lt fits]
    simp only [orOverflow, ok_bind, checkCeiling, if_neg below]
    exact Or.inl rfl

theorem riseCost_eq_or_overflow {amount supply : UInt64} (nonzero : amount ≠ 0)
    (inside : supply.toNat + amount.toNat ≤ UInt64.size) :
    curve.riseCost amount supply = .ok (curve.plainRise supply.toNat amount.toNat) ∨
      curve.riseCost amount supply = .error .overflow ∧
        UInt64.size ≤ curve.plainCost supply.toNat amount.toNat := by
  have positive := Word64.toNat_pos nonzero
  by_cases flat : curve.slope = 0
  · rw [riseCost, if_pos flat, plainRise, flat, UInt64.toNat_zero, Nat.zero_mul]
    exact Or.inl rfl
  have low := supported.resolve_right flat
  -- Both power sums end below the supply after the claim.
  have dear {n : Nat} (order : n ≤ supply.toNat + amount.toNat)
      (large : UInt64.size ≤ (n - 1) ^ curve.exponent.toNat) :
      UInt64.size ≤ curve.plainCost supply.toNat amount.toNat :=
    large.trans ((curve.power_le_plainPrice flat (Nat.sub_le_sub_right order 1)).trans
      (curve.plainPrice_le_plainCost (by omega) (by omega)))
  rcases powerSum_eq_or_overflow low inside with upper | ⟨upper, large⟩
  · rcases powerSum_eq_or_overflow low (Nat.le_trans (Nat.le_add_right _ _) inside) with
      lower | ⟨lower, large⟩
    · rw [riseCost_of_powerSums flat upper lower]
      rcases orOverflow_word128? (curve.plainRise supply.toNat amount.toNat) with
        told | ⟨refused, large⟩
      · exact Or.inl told
      · refine Or.inr ⟨refused, ?_⟩
        rw [plainCost_eq]
        exact Nat.le_trans (Nat.le_trans (by decide) large) (Nat.le_add_left _ _)
    · rw [riseCost, if_neg flat, upper, lower]
      exact Or.inr ⟨rfl, dear (Nat.le_add_right _ _) large⟩
  · rw [riseCost, if_neg flat, upper]
    exact Or.inr ⟨rfl, dear (Nat.le_refl _) large⟩

theorem cost_of_last {amount supply last : UInt64} (nonzero : amount ≠ 0)
    (added : last.toNat = supply.toNat + amount.toNat - 1) :
    curve.cost amount supply =
      match curve.exceeded? last.toNat with
      | some ceiling =>
        .error (.ceilingExceeded (min (curve.plainPrice last.toNat) (word128Size - 1)) ceiling)
      | none => orOverflow (Word64.ofNat? (curve.plainCost supply.toNat amount.toNat)) := by
  have positive := Word64.toNat_pos nonzero
  have bound := last.toNat_lt
  have numbered : Word64.add? supply (amount - 1) = some last := by
    rw [Word64.add?_eq_some_iff, Word64.toNat_sub_one nonzero]
    omega
  unfold cost
  rw [if_neg nonzero, numbered]
  simp only [orOverflow, ok_bind]
  cases above : curve.exceeded? last.toNat with
  | some ceiling =>
    rw [lastPrice_of_exceeded supported above]
    rfl
  | none =>
    -- Each refusal on the way means that the plain sum is beyond 64 bits, too.
    rcases lastPrice_of_within supported above with told | ⟨refused, large⟩
    · have bases : amount.toNat * curve.base.toNat < word128Size :=
        Nat.mul_lt_mul'' amount.toNat_lt curve.base.toNat_lt
      have inside : supply.toNat + amount.toNat ≤ UInt64.size := by
        simp only [UInt64.size]
        omega
      rw [told, word128?_of_lt bases]
      simp only [ok_bind]
      rcases riseCost_eq_or_overflow supported nonzero inside with risen | ⟨refused, large⟩
      · rw [risen, ok_bind, ← plainCost_eq]
        exact congrArg orOverflow (Word64.word128?_bind_ofNat? _)
      · rw [refused, Word64.ofNat?_of_le large]
        rfl
    · have unit : curve.plainPrice last.toNat ≤ curve.plainCost supply.toNat amount.toNat :=
        curve.plainPrice_le_plainCost (by omega) (by omega)
      have larger : UInt64.size ≤ curve.plainCost supply.toNat amount.toNat :=
        Nat.le_trans (Nat.le_trans (by decide) large) unit
      rw [refused, Word64.ofNat?_of_le larger]
      rfl

end

theorem cost_eq_overflow {amount supply : UInt64} (nonzero : amount ≠ 0)
    (beyond : UInt64.size ≤ supply.toNat + amount.toNat - 1) :
    curve.cost amount supply = .error .overflow := by
  have positive := Word64.toNat_pos nonzero
  have unnumbered : Word64.add? supply (amount - 1) = none := by
    rw [Word64.add?, Word64.ofNat?_eq_none_iff, Word64.toNat_sub_one nonzero]
    omega
  rw [cost, if_neg nonzero, unnumbered]
  rfl

/-- On a curve that has prices the cost of a claim is the plain sum of its unit prices, and a claim
is refused exactly where its last unit is beyond 64 bits, that unit's price above the ceiling, or the
sum beyond 64 bits. -/
theorem cost_eq_exactCost (supported : curve.Supported) (amount supply : UInt64) :
    curve.cost amount supply = curve.exactCost amount supply := by
  unfold exactCost
  by_cases nothing : amount = 0
  · rw [if_pos nothing, cost, if_pos nothing]
    rfl
  rw [if_neg nothing]
  by_cases beyond : UInt64.size ≤ supply.toNat + amount.toNat - 1
  · rw [if_pos beyond, cost_eq_overflow nothing beyond]
  · have last : (UInt64.ofNatLT _ (Nat.not_le.mp beyond)).toNat =
        supply.toNat + amount.toNat - 1 := UInt64.toNat_ofNatLT
    rw [if_neg beyond, cost_of_last supported nothing last, last]

theorem cost_cubic_eq_exactCost :
    (⟨7, 3, 3, some 10000⟩ : BondingCurve).Supported ∧
      (⟨7, 3, 3, some 10000⟩ : BondingCurve).cost 10 5 = .ok 32845 ∧
      (⟨7, 3, 3, some 10000⟩ : BondingCurve).cost 12 5 = .error (.ceilingExceeded 12295 10000) := by
  have supported : (⟨7, 3, 3, some 10000⟩ : BondingCurve).Supported := Or.inl (by decide)
  refine ⟨supported, ?_, ?_⟩
  · rw [cost_eq_exactCost supported]
    decide +kernel
  · rw [cost_eq_exactCost supported]
    decide +kernel

end BondingCurve

end TokenClaim
