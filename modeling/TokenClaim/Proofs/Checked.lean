import TokenClaim.Pricing.Curve
/-!
What is known once a checked step has gone through.
-/

set_option autoImplicit false

namespace TokenClaim

section
variable {ε ε' α β : Type}

@[simp] theorem ok_bind (value : α) (next : α → Except ε β) :
    (Except.ok value >>= next) = next value := rfl

@[simp] theorem error_bind (fault : ε) (next : α → Except ε β) :
    ((Except.error fault : Except ε α) >>= next) = .error fault := rfl

theorem bind_eq_ok_iff {step : Except ε α} {next : α → Except ε β} {result : β} :
    (step >>= next) = .ok result ↔ ∃ value, step = .ok value ∧ next value = .ok result := by
  cases step with
  | error fault => simp
  | ok value => simp

/-- Steps that go on alike, as far as a part of their results goes, have that part in common. -/
theorem map_bind_congr {γ : Type} {step : Except ε α} {first second : α → Except ε β} {part : β → γ}
    (alike : ∀ value, step = .ok value → (first value).map part = (second value).map part) :
    (step >>= first).map part = (step >>= second).map part := by
  cases step with
  | error fault => rfl
  | ok value => exact alike value rfl

@[simp] theorem ok_mapError (value : α) (wrap : ε → ε') :
    (Except.ok value : Except ε α).mapError wrap = .ok value := rfl

@[simp] theorem error_mapError (fault : ε) (wrap : ε → ε') :
    (Except.error fault : Except ε α).mapError wrap = .error (wrap fault) := rfl

theorem mapError_eq_ok_iff {step : Except ε α} {wrap : ε → ε'} {result : α} :
    step.mapError wrap = .ok result ↔ step = .ok result := by
  cases step with
  | ok value =>
    constructor
    · intro same
      cases same
      rfl
    · intro same
      cases same
      rfl
  | error fault =>
    constructor
    · intro impossible
      cases impossible
    · intro impossible
      cases impossible

end

theorem orOverflow_eq_ok_iff {α : Type} {value : Option α} {result : α} :
    orOverflow value = .ok result ↔ value = some result := by
  cases value <;> simp [orOverflow]

namespace Word64

theorem add?_eq_some_iff {a b sum : UInt64} :
    add? a b = some sum ↔ sum.toNat = a.toNat + b.toNat := ofNat?_eq_some_iff

theorem sub?_eq_some_iff {a b rest : UInt64} :
    sub? a b = some rest ↔ rest.toNat + b.toNat = a.toNat := by
  unfold sub?
  split
  · rename_i fits
    have size := UInt64.toNat_sub_of_le a b fits
    have order := UInt64.le_iff_toNat_le.mp fits
    rw [Option.some.injEq, ← UInt64.toNat_inj]
    omega
  · rename_i large
    have order : a.toNat < b.toNat := by simpa [UInt64.le_iff_toNat_le] using large
    constructor
    · intro impossible
      cases impossible
    · intro sum
      omega

end Word64

end TokenClaim
