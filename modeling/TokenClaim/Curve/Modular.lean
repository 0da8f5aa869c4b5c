/-!
Powers and squares in the field of numbers modulo a prime.
-/

set_option autoImplicit false

namespace TokenClaim.Modular

def power (modulus base exponent : Nat) : Nat :=
  if exponent = 0 then 1 % modulus
  else
    let rest := power modulus (base * base % modulus) (exponent / 2)
    if exponent % 2 = 0 then rest else rest * base % modulus
termination_by exponent

/-- Some number squares to `value` modulo the odd prime `modulus`: Euler's criterion. -/
def isSquare (modulus value : Nat) : Bool :=
  value % modulus == 0 || power modulus (value % modulus) ((modulus - 1) / 2) == 1

def inverse (modulus value : Nat) : Nat := power modulus value (modulus - 2)

def sub (modulus a b : Nat) : Nat := (a + (modulus - b)) % modulus

end TokenClaim.Modular
