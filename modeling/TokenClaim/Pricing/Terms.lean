import TokenClaim.Pricing.Curve
/-!
The terms under which a vamp sells: which of the three prices holds, and its numbers.
-/

set_option autoImplicit false

namespace TokenClaim

structure Terms where
  paid : Bool
  onCurve : Bool
  slope : UInt64
  base : UInt64
  ceiling : Option UInt64
  flatPrice : UInt64
  exponent : UInt32
  deriving DecidableEq

namespace Terms

def standard : Terms where
  paid := false
  onCurve := false
  slope := 1
  base := 1
  ceiling := some 1000
  flatPrice := 1
  exponent := 1

/-- The exponent is one that curves can have, and a curve does not start above its ceiling. -/
def validate (terms : Terms) : Result Unit := do
  if maxExponent < terms.exponent then throw (.malformed (.exponent terms.exponent))
  match terms.ceiling with
  | some ceiling =>
    if terms.onCurve ∧ ceiling < terms.base then
      throw (.malformed (.ceilingBelowBase ceiling terms.base))
  | none => return ()

def pricing (terms : Terms) : Pricing :=
  if !terms.paid then .free
  else if !terms.onCurve then .flat terms.flatPrice terms.ceiling
  else .curve ⟨terms.base, terms.slope, terms.exponent, terms.ceiling⟩

end Terms

end TokenClaim
