/-!
Unsigned numbers as digits of a base.
-/

set_option autoImplicit false

namespace TokenClaim.Text.Numeral

inductive Fault where
  | empty
  | invalidDigit
  | tooLarge
  deriving DecidableEq

def Fault.message : Fault → String
  | empty => "cannot parse integer from empty string"
  | invalidDigit => "invalid digit found in string"
  | tooLarge => "number too large to fit in target type"

def alphanumeric? (c : Char) : Option Nat :=
  let point := c.toNat
  if 48 ≤ point && point ≤ 57 then some (point - 48)
  else if 97 ≤ point && point ≤ 122 then some (point - 87)
  else if 65 ≤ point && point ≤ 90 then some (point - 55)
  else none

def digit? (base : Nat) (c : Char) : Option Nat := (alphanumeric? c).filter (· < base)

/-- Read digits after a number already read. At each digit the number has to stay below `bound`;
of two faults the one further left is told, and at one digit the digit's own. -/
def readDigits (base bound : Nat) : Nat → List Char → Except Fault Nat
  | value, [] => .ok value
  | value, c :: rest =>
    match digit? base c with
    | none => .error .invalidDigit
    | some d =>
      if value * base + d < bound then readDigits base bound (value * base + d) rest
      else .error .tooLarge

def readBelow (base bound : Nat) : List Char → Except Fault Nat
  | [] => .error .empty
  -- A plus sign may stand in front of digits, but not for them.
  | ['+'] => .error .invalidDigit
  | '+' :: digits => readDigits base bound 0 digits
  | digits => readDigits base bound 0 digits

def readWord64 (base : Nat) (text : List Char) : Except Fault UInt64 :=
  (readBelow base UInt64.size text).map UInt64.ofNat

end TokenClaim.Text.Numeral
