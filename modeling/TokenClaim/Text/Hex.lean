import TokenClaim.Bytes
import TokenClaim.Text.Quoted
import TokenClaim.Text.Utf8
/-!
Bytes as hexadecimal text. Writing uses lower-case digits; reading accepts both cases.
-/

set_option autoImplicit false

namespace TokenClaim.Text.Hex

def digit (value : Nat) : Char :=
  if value < 10 then Char.ofNat (48 + value) else Char.ofNat (87 + value)

def encodeChars (bytes : Bytes) : List Char :=
  bytes.flatMap fun byte => [digit (byte.toNat / 16), digit (byte.toNat % 16)]

def encode (bytes : Bytes) : String := String.ofList (encodeChars bytes)

def digitValue? (code : UInt8) : Option Nat :=
  if 48 ≤ code && code ≤ 57 then some (code.toNat - 48)
  else if 97 ≤ code && code ≤ 102 then some (code.toNat - 87)
  else if 65 ≤ code && code ≤ 70 then some (code.toNat - 55)
  else none

inductive Fault where
  | oddLength
  | badDigit (code : UInt8) (position : Nat)
  deriving DecidableEq

/-- A bad byte is shown as the character with its number. -/
def Fault.message : Fault → String
  | oddLength => "Odd number of digits"
  | badDigit code position =>
    s!"Invalid character {quoteChar (Char.ofNat code.toNat)} at position {position}"

def readDigit (code : UInt8) (position : Nat) : Except Fault Nat :=
  match digitValue? code with
  | some value => .ok value
  | none => .error (.badDigit code position)

/-- Read pairs of digits; the first stands at `position`. A digit without a partner ends the
reading. -/
def decodePairs (position : Nat) : Bytes → Except Fault Bytes
  | high :: low :: rest => do
    let upper ← readDigit high position
    let lower ← readDigit low (position + 1)
    let bytes ← decodePairs (position + 2) rest
    return UInt8.ofNat (16 * upper + lower) :: bytes
  | _ => .ok []

def decodeBytes (text : Bytes) : Except Fault Bytes :=
  if text.length % 2 = 0 then decodePairs 0 text else .error .oddLength

def decode (text : String) : Except Fault Bytes := decodeBytes (utf8 text)

def encodeMarked (bytes : Bytes) : String := "0x" ++ encode bytes

def dropMark : List Char → List Char
  | '0' :: 'x' :: rest => rest
  | text => text

def dropMarks : List Char → List Char
  | '0' :: 'x' :: rest => dropMarks rest
  | text => text

end TokenClaim.Text.Hex
