import TokenClaim.Pricing.Terms
/-!
Some of the terms, given in place of the configured ones.
-/

set_option autoImplicit false

namespace TokenClaim

structure TermsOverride where
  paid : Option Bool
  onCurve : Option Bool
  slope : Option UInt64
  base : Option UInt64
  ceiling : Option UInt64
  flatPrice : Option UInt64
  exponent : Option UInt32
  deriving DecidableEq

namespace TermsOverride

def none : TermsOverride := ⟨.none, .none, .none, .none, .none, .none, .none⟩

def apply (override : TermsOverride) (terms : Terms) : Terms where
  paid := override.paid.getD terms.paid
  onCurve := override.onCurve.getD terms.onCurve
  slope := override.slope.getD terms.slope
  base := override.base.getD terms.base
  -- A ceiling can be set, but not taken away.
  ceiling := override.ceiling.or terms.ceiling
  flatPrice := override.flatPrice.getD terms.flatPrice
  exponent := override.exponent.getD terms.exponent

end TermsOverride

end TokenClaim
