import TokenClaim.Checked
import TokenClaim.Refusal
/-!
What a claim costs. Prices are in lamports for one token unit; the unit sold at supply `s` is the
one after `s` others. Sums are closed forms in 128 bits.
-/

set_option autoImplicit false

namespace TokenClaim

/-- The unit at supply `s` costs `base + slope * s ^ exponent`. -/
structure BondingCurve where
  base : UInt64
  slope : UInt64
  exponent : UInt32
  /-- The highest price at which a unit is sold. -/
  ceiling : Option UInt64
  deriving DecidableEq

inductive Pricing where
  | free
  | flat (price : UInt64) (ceiling : Option UInt64)
  | curve (curve : BondingCurve)
  deriving DecidableEq

def boundedPower (n : Nat) (exponent : UInt32) : Result Nat :=
  if maxExponent < exponent then .error (.invalidAccount (.unsupportedExponent exponent))
  else orOverflow (word128? (Nat.pow n exponent.toNat))

def triangular (n : Nat) : Option Nat :=
  -- Whichever of `n` and `n - 1` is even is halved before they are multiplied.
  word128? (if n % 2 = 0 then n / 2 * (n - 1) else n * ((n - 1) / 2))

/-- The sum of `k ^ exponent` for `k` below `n`, each step in 128 bits. -/
def powerSum (n : Nat) (exponent : UInt32) : Result Nat :=
  if n = 0 then .ok 0
  else
    match exponent.toNat with
    | 0 => .ok n
    | 1 => orOverflow (triangular n)
    | 2 => orOverflow do
      let product ← word128? ((n - 1) * n)
      let product ← word128? (product * (2 * (n - 1) + 1))
      return product / 6
    | 3 => orOverflow do
      let sum ← triangular n
      word128? (sum * sum)
    | _ => .error (.invalidAccount (.unsupportedExponent exponent))

def checkCeiling (price : Nat) : Option UInt64 → Result Unit
  | some ceiling =>
    if ceiling.toNat < price then .error (.ceilingExceeded price ceiling) else .ok ()
  | none => .ok ()

def flatCost (amount price : UInt64) (ceiling : Option UInt64) : Result UInt64 := do
  if amount = 0 then return 0
  checkCeiling price.toNat ceiling
  orOverflow (Word64.mul? amount price)

namespace BondingCurve

def priceAt (curve : BondingCurve) (supply : UInt64) : Result Nat := do
  if curve.slope = 0 then return curve.base.toNat
  let power ← boundedPower supply.toNat curve.exponent
  orOverflow do
    let rise ← word128? (curve.slope.toNat * power)
    word128? (rise + curve.base.toNat)

def lastPrice (curve : BondingCurve) (last : UInt64) : Result Nat :=
  match curve.priceAt last, curve.ceiling with
  -- A price that 128 bits do not hold is above any ceiling.
  | .error .overflow, some ceiling => .error (.ceilingExceeded (word128Size - 1) ceiling)
  | price, ceiling => do
    let price ← price
    checkCeiling price ceiling
    return price

def riseCost (curve : BondingCurve) (amount supply : UInt64) : Result Nat := do
  if curve.slope = 0 then return 0
  let upper ← powerSum (supply.toNat + amount.toNat) curve.exponent
  let lower ← powerSum supply.toNat curve.exponent
  if upper < lower then throw .overflow
  orOverflow (word128? ((upper - lower) * curve.slope.toNat))

def cost (curve : BondingCurve) (amount supply : UInt64) : Result UInt64 := do
  if amount = 0 then return 0
  let last ← orOverflow (Word64.add? supply (amount - 1))
  let _ ← curve.lastPrice last
  let base ← orOverflow (word128? (amount.toNat * curve.base.toNat))
  let rise ← curve.riseCost amount supply
  orOverflow do
    let total ← word128? (base + rise)
    Word64.ofNat? total

end BondingCurve

namespace Pricing

def unitPrice (pricing : Pricing) (supply : UInt64) : Result UInt64 :=
  match pricing with
  | .free => .ok 0
  | .flat price _ => .ok price
  | .curve line => do
    let price ← line.priceAt supply
    orOverflow (Word64.ofNat? price)

/-- The lamports owed for `amount` units when `supply` units are already out. -/
def cost (pricing : Pricing) (supply amount : UInt64) : Result UInt64 :=
  match pricing with
  | .free => .ok 0
  | .flat price ceiling => flatCost amount price ceiling
  | .curve line => line.cost amount supply

end Pricing

structure Quote where
  amount : UInt64
  supply : UInt64
  cost : UInt64
  /-- The price of the last unit, or of the next one if none is asked for. -/
  marginalPrice : UInt64
  deriving DecidableEq

namespace Quote

def of (pricing : Pricing) (supply amount : UInt64) : Result Quote := do
  let cost ← pricing.cost supply amount
  let last ← orOverflow (Word64.add? supply (amount - (if amount = 0 then 0 else 1)))
  let marginalPrice ← pricing.unitPrice last
  return ⟨amount, supply, cost, marginalPrice⟩

end Quote

def lamportsPerCoin : Nat := 1000000000

def coinText (lamports : UInt64) : String :=
  let places := Nat.toDigits 10 (lamports.toNat % lamportsPerCoin)
  toString (lamports.toNat / lamportsPerCoin) ++ "." ++
    String.ofList (List.replicate (9 - places.length) '0' ++ places)

end TokenClaim
