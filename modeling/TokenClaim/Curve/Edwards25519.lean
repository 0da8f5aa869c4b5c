import TokenClaim.Bytes
import TokenClaim.Curve.Modular
/-!
Which 32-byte strings are the short form of a point of the curve `-x² + y² = 1 + d x² y²` over the
numbers modulo `2 ^ 255 - 19`.
-/

set_option autoImplicit false

namespace TokenClaim.Edwards25519

def prime : Nat := Nat.pow 2 255 - 19

/-- The curve's `d`, which is `-121665 / 121666`. -/
def coefficient : Nat :=
  37095705934669439343138083508754565189542113879843219016388785533085940283555

def isPoint (short : Digest) : Bool :=
  -- The highest bit is the sign of `x`; the bits below it are `y`.
  let y := LittleEndian.read short.toBytes % Nat.pow 2 255 % prime
  let square := y * y % prime
  -- A point has `x² = (y² - 1) / (d y² + 1)`. The divisor is never zero, so that the quotient is a
  -- square exactly if the product is.
  Modular.isSquare prime ((square + (prime - 1)) * (coefficient * square + 1))

end TokenClaim.Edwards25519
