/-!
Sums, differences and products of words that are only taken where they fit.
-/

set_option autoImplicit false

namespace TokenClaim

def word128Size : Nat := UInt64.size * UInt64.size

def word128? (value : Nat) : Option Nat := if value < word128Size then some value else none

namespace Word64

def ofNat? (value : Nat) : Option UInt64 :=
  if fits : value < UInt64.size then some (UInt64.ofNatLT value fits) else none

def add? (a b : UInt64) : Option UInt64 := ofNat? (a.toNat + b.toNat)

def sub? (a b : UInt64) : Option UInt64 := if b ≤ a then some (a - b) else none

def mul? (a b : UInt64) : Option UInt64 := ofNat? (a.toNat * b.toNat)

theorem ofNat?_eq_some_iff {value : Nat} {word : UInt64} :
    ofNat? value = some word ↔ word.toNat = value := by
  unfold ofNat?
  split
  · rename_i fits
    constructor
    · intro same
      cases same
      exact UInt64.toNat_ofNatLT
    · intro same
      congr 1
      apply UInt64.toNat_inj.mp
      rw [UInt64.toNat_ofNatLT, same]
  · rename_i large
    constructor
    · intro same
      cases same
    · intro same
      exact absurd (same ▸ word.toNat_lt) large

theorem ofNat?_eq_none_iff {value : Nat} : ofNat? value = none ↔ UInt64.size ≤ value := by
  unfold ofNat?
  split <;> simp <;> omega

end Word64

end TokenClaim
