import Mathlib.Algebra.Ring.Nat
import Mathlib.Order.Bounds.Basic
import TokenClaim.Proofs.Checked
import TokenClaim.Quantity
/-!
Amounts of the source chain as they are minted. Of an amount in 256 bits the whole number of units
is kept exactly, with the most decimals for which 64 bits hold it; it is refused only where there
are no such decimals. No step on the way overflows.
-/

set_option autoImplicit false

namespace TokenClaim.SourceAmount

variable {units amount : Nat}

structure Droppable (units dropped : Nat) : Prop where
  zero : 10 ^ dropped ∣ units
  fits : units / 10 ^ dropped < UInt64.size

/-- With so many decimals in place of nine, a whole number of units is told without loss. -/
structure Expressible (units decimals : Nat) : Prop extends
    Droppable units (maxDecimals - decimals) where
  bounded : decimals ≤ maxDecimals

theorem div?_power (units dropped : Nat) :
    div? units (Nat.pow 10 dropped) = some (units / 10 ^ dropped) :=
  if_neg (Nat.pow_pos (by decide)).ne'

theorem dropDecimals_eq (within : units < limit) (dropped : Nat) :
    dropDecimals units dropped =
      .ok (if 10 ^ dropped ∣ units then some (units / 10 ^ dropped) else none) := by
  have below : units / 10 ^ dropped * Nat.pow 10 dropped < limit :=
    Nat.lt_of_le_of_lt (Nat.div_mul_le_self _ _) within
  simp only [dropDecimals, div?_power, mul?, if_pos below, orOverflow, ok_bind,
    Nat.dvd_iff_div_mul_eq]
  rfl

theorem fitFrom_cases (within : units < limit) (more dropped : Nat) :
    (Droppable units dropped ∧ ∃ value : UInt64, value.toNat = units / 10 ^ dropped ∧
        fitFrom units more dropped = .ok (some (value, UInt8.ofNat (maxDecimals - dropped)))) ∨
      (¬10 ^ dropped ∣ units ∧ fitFrom units more dropped = .ok none) ∨
      (¬Droppable units dropped ∧ fitFrom units more dropped =
        match more with
        | 0 => .ok none
        | more + 1 => fitFrom units more (dropped + 1)) := by
  rw [fitFrom.eq_def, dropDecimals_eq within, ok_bind]
  -- Something would be lost, or the rest fits, or it is too large and one more decimal is tried.
  by_cases zero : 10 ^ dropped ∣ units
  · rw [if_pos zero]
    cases fits : Word64.ofNat? (units / 10 ^ dropped) with
    | some value =>
      have same := Word64.ofNat?_eq_some_iff.mp fits
      exact Or.inl ⟨⟨zero, same ▸ value.toNat_lt⟩, value, same, by simp only [fits]; rfl⟩
    | none =>
      have large := Word64.ofNat?_eq_none_iff.mp fits
      refine Or.inr (Or.inr ⟨fun droppable => Nat.not_lt.mpr large droppable.fits, ?_⟩)
      simp only [fits]
      cases more <;> rfl
  · rw [if_neg zero]
    exact Or.inr (Or.inl ⟨zero, rfl⟩)

/-- The search finds the least number of decimals that can be dropped. It may stop at the first that
are not zero, as they are the last decimals of any more. -/
theorem fitFrom_finds_least (within : units < limit) (more dropped : Nat) :
    (∃ (least : Nat) (value : UInt64),
        IsLeast {d | Droppable units d ∧ dropped ≤ d ∧ d ≤ dropped + more} least ∧
          value.toNat = units / 10 ^ least ∧
          fitFrom units more dropped = .ok (some (value, UInt8.ofNat (maxDecimals - least)))) ∨
      (∀ d, Droppable units d → dropped ≤ d → dropped + more < d) ∧
        fitFrom units more dropped = .ok none := by
  rcases fitFrom_cases within more dropped with
    ⟨droppable, value, same, found⟩ | ⟨lossy, stopped⟩ | ⟨unfit, goesOn⟩
  · refine Or.inl ⟨dropped, value, ⟨⟨droppable, Nat.le_refl _, Nat.le_add_right _ _⟩, ?_⟩, same,
      found⟩
    exact fun d other => other.2.1
  · refine Or.inr ⟨fun d droppable later => ?_, stopped⟩
    exact absurd (Nat.dvd_trans (Nat.pow_dvd_pow 10 later) droppable.zero) lossy
  · have next {d : Nat} (droppable : Droppable units d) (later : dropped ≤ d) : dropped + 1 ≤ d :=
      Nat.lt_of_le_of_ne later fun same => unfit (same ▸ droppable)
    rw [goesOn]
    cases more with
    | zero => exact Or.inr ⟨fun d droppable later => next droppable later, rfl⟩
    | succ more =>
      have shift : dropped + 1 + more = dropped + (more + 1) := by omega
      rcases fitFrom_finds_least within more (dropped + 1) with
        ⟨least, value, ⟨⟨droppable, later, bounded⟩, minimal⟩, same, found⟩ | ⟨none, stopped⟩
      · refine Or.inl ⟨least, value, ⟨⟨droppable, by omega, by omega⟩, ?_⟩, same, found⟩
        rintro d ⟨other, after, within⟩
        exact minimal ⟨other, next other after, by omega⟩
      · refine Or.inr ⟨fun d droppable later => ?_, stopped⟩
        exact shift ▸ none d droppable (next droppable later)
termination_by more

theorem isGreatest_of_isLeast {least : Nat}
    (isLeast : IsLeast {d | Droppable units d ∧ 0 ≤ d ∧ d ≤ 0 + maxDecimals} least) :
    IsGreatest {d | Expressible units d} (maxDecimals - least) := by
  obtain ⟨⟨droppable, -, bounded⟩, minimal⟩ := isLeast
  rw [Nat.zero_add] at bounded
  refine ⟨⟨(Nat.sub_sub_self bounded).symm ▸ droppable, Nat.sub_le _ _⟩, ?_⟩
  rintro d ⟨other, small⟩
  have order := minimal ⟨other, Nat.zero_le _, by omega⟩
  omega

theorem normalize_cases (within : amount < limit) :
    (∃ (value : UInt64) (decimals : UInt8),
        IsGreatest {d | Expressible (amount / 10 ^ maxDecimals) d} decimals.toNat ∧
          value.toNat = amount / 10 ^ maxDecimals / 10 ^ (maxDecimals - decimals.toNat) ∧
          normalize amount = .ok (value, decimals)) ∨
      (∀ d, ¬Expressible (amount / 10 ^ maxDecimals) d) ∧
        normalize amount = .error (.malformed (.amountTooLarge amount)) := by
  have below : amount / 10 ^ maxDecimals < limit := Nat.lt_of_le_of_lt (Nat.div_le_self _ _) within
  unfold normalize
  rw [div?_power, orOverflow, ok_bind]
  rcases fitFrom_finds_least below maxDecimals 0 with
    ⟨least, value, isLeast, same, found⟩ | ⟨none, stopped⟩
  · have bounded : least ≤ maxDecimals := by simpa using isLeast.1.2.2
    have decimals : (UInt8.ofNat (maxDecimals - least)).toNat = maxDecimals - least := by
      rw [UInt8.toNat_ofNat']
      simp only [maxDecimals]
      omega
    refine Or.inl ⟨value, UInt8.ofNat (maxDecimals - least), ?_, ?_, ?_⟩
    · rw [decimals]
      exact isGreatest_of_isLeast isLeast
    · rw [decimals, Nat.sub_sub_self bounded, same]
    · rw [found]
      rfl
  · refine Or.inr ⟨fun d expressible => ?_, ?_⟩
    · have more := none _ expressible.toDroppable (Nat.zero_le _)
      omega
    · rw [stopped]
      rfl

theorem normalize_eq_ok_iff (within : amount < limit) {value : UInt64} {decimals : UInt8} :
    normalize amount = .ok (value, decimals) ↔
      IsGreatest {d | Expressible (amount / 10 ^ maxDecimals) d} decimals.toNat ∧
        value.toNat = amount / 10 ^ maxDecimals / 10 ^ (maxDecimals - decimals.toNat) := by
  rcases normalize_cases within with ⟨found, most, greatest, quotient, told⟩ | ⟨none, refused⟩
  · rw [told]
    constructor
    · intro same
      cases same
      exact ⟨greatest, quotient⟩
    · rintro ⟨isGreatest, isQuotient⟩
      obtain rfl := UInt8.toNat_inj.mp (greatest.unique isGreatest)
      obtain rfl := UInt64.toNat_inj.mp (quotient.trans isQuotient.symm)
      rfl
  · rw [refused]
    constructor
    · intro impossible
      cases impossible
    · rintro ⟨greatest, -⟩
      exact absurd greatest.1 (none _)

theorem normalize_eq_error_iff (within : amount < limit) {refusal : Refusal} :
    normalize amount = .error refusal ↔
      (∀ d, ¬Expressible (amount / 10 ^ maxDecimals) d) ∧
        refusal = .malformed (.amountTooLarge amount) := by
  rcases normalize_cases within with ⟨found, most, greatest, quotient, told⟩ | ⟨none, refused⟩
  · rw [told]
    constructor
    · intro impossible
      cases impossible
    · rintro ⟨none, -⟩
      exact absurd greatest.1 (none _)
  · rw [refused, Except.error.injEq, eq_comm, and_iff_right none]

/-- An amount of 256 bits is brought to the most decimals, of nine at most, with which its whole
number of units is told in 64 bits without loss. Only where there are none it is refused, and for
its size. -/
theorem normalize_exact (within : amount < limit) :
    (∀ value decimals, normalize amount = .ok (value, decimals) ↔
        IsGreatest {d | Expressible (amount / 10 ^ 9) d} decimals.toNat ∧
          value.toNat = amount / 10 ^ 9 / 10 ^ (9 - decimals.toNat)) ∧
      (∀ refusal, normalize amount = .error refusal ↔
        (∀ d, ¬Expressible (amount / 10 ^ 9) d) ∧ refusal = .malformed (.amountTooLarge amount)) ∧
      ∀ value decimals, normalize amount = .ok (value, decimals) →
        value.toNat * 10 ^ (9 - decimals.toNat) = amount / 10 ^ 9 := by
  refine ⟨fun _ _ => normalize_eq_ok_iff within, fun _ => normalize_eq_error_iff within, ?_⟩
  intro value decimals told
  obtain ⟨greatest, quotient⟩ := (normalize_eq_ok_iff within).mp told
  rw [quotient]
  exact Nat.div_mul_cancel greatest.1.zero

theorem normalize_exact_large :
    10 ^ 30 < limit ∧ normalize (10 ^ 30) = .ok (10000000000000000000, 7) ∧
      IsGreatest {d | Expressible (10 ^ 30 / 10 ^ 9) d} 7 ∧
      10 ^ 30 + 10 ^ 9 < limit ∧ ∀ d, ¬Expressible ((10 ^ 30 + 10 ^ 9) / 10 ^ 9) d := by
  have within : 10 ^ 30 < limit := by decide
  have alsoWithin : 10 ^ 30 + 10 ^ 9 < limit := by decide
  have told : normalize (10 ^ 30) = .ok (10000000000000000000, 7) := by decide +kernel
  have refused : normalize (10 ^ 30 + 10 ^ 9) =
      .error (.malformed (.amountTooLarge (10 ^ 30 + 10 ^ 9))) := by decide +kernel
  exact ⟨within, told, (((normalize_exact within).1 _ _).mp told).1, alsoWithin,
    (((normalize_exact alsoWithin).2.1 _).mp refused).1⟩

end TokenClaim.SourceAmount
