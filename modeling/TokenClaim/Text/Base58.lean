import TokenClaim.Bytes
import TokenClaim.Text.Quoted
import TokenClaim.Text.Utf8
/-!
Bytes as base-58 text: the bytes are one number, most significant first, and each leading zero byte
is one leading `1`.
-/

set_option autoImplicit false

namespace TokenClaim.Text

/-- The digits of a number, most significant first and none for zero. -/
def positional (base : Nat) (value : Nat) : List Nat :=
  if 2 ≤ base ∧ value ≠ 0 then positional base (value / base) ++ [value % base] else []
termination_by value
decreasing_by
  rename_i proper
  exact Nat.div_lt_self (Nat.pos_of_ne_zero proper.2) proper.1

def ofPositional (base : Nat) (digits : List Nat) : Nat :=
  digits.foldl (fun value digit => value * base + digit) 0

namespace Base58

/-- The digits in order: no zero, no capital O or I, no small l. -/
def alphabet : List Char :=
  "123456789ABCDEFGHJKLMNPQRSTUVWXYZabcdefghijkmnopqrstuvwxyz".toList

def digitChar (value : Nat) : Char := alphabet.getD value '1'

def digitValue? (code : UInt8) : Option Nat :=
  alphabet.findIdx? fun c => c.toNat == code.toNat

def encode (bytes : Bytes) : String :=
  let zeros := (bytes.takeWhile (· == 0)).length
  String.ofList
    (List.replicate zeros '1' ++ (positional 58 (BigEndian.read bytes)).map digitChar)

inductive Fault where
  | badDigit (code : UInt8) (position : Nat)
  | notAscii (position : Nat)
  deriving DecidableEq

def Fault.message : Fault → String
  | badDigit code position =>
    s!"provided string contained invalid character {quoteChar (Char.ofNat code.toNat)} at byte {position}"
  | notAscii position =>
    s!"provided string contained non-ascii character starting at byte {position}"

def readDigits (position : Nat) : Bytes → Except Fault (List Nat)
  | [] => .ok []
  | code :: rest =>
    if 127 < code then .error (.notAscii position)
    else match digitValue? code with
      | none => .error (.badDigit code position)
      | some digit => return digit :: (← readDigits (position + 1) rest)

def decode (text : String) : Except Fault Bytes := do
  let digits ← readDigits 0 (utf8 text)
  let zeros := (digits.takeWhile (· == 0)).length
  return List.replicate zeros 0 ++
    (positional 256 (ofPositional 58 digits)).map UInt8.ofNat

end Base58

end TokenClaim.Text
