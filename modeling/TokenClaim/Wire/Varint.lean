import TokenClaim.Bytes
import TokenClaim.Wire.Fault
/-!
Numbers in groups of seven bits, least significant first. Every byte but the last has its high bit
set. A reader accepts zero groups at the end, but not more than 64 bits.
-/

set_option autoImplicit false

namespace TokenClaim.Wire

namespace Varint

def write (value : Nat) : Bytes :=
  if value < 128 then [UInt8.ofNat value]
  else UInt8.ofNat (128 + value % 128) :: write (value / 128)
termination_by value

/-- Read at most `left` bytes; with one left, only the lowest bit is free. -/
def readUpTo : Nat → Bytes → Option (Nat × Bytes)
  | 0, _ => none
  | _ + 1, [] => none
  | left + 1, byte :: rest =>
    if byte.toNat < 128 then
      if left = 0 ∧ 1 < byte.toNat then none else some (byte.toNat, rest)
    else (readUpTo left rest).map fun (value, rest) => (byte.toNat - 128 + 128 * value, rest)

def read (data : Bytes) : Except Cause (Nat × Bytes) :=
  match readUpTo 10 data with
  | some result => .ok result
  | none => .error .badVarint

end Varint

def writeKey (number : Nat) (type : WireType) : Bytes := Varint.write (8 * number + type.code)

def readKey (data : Bytes) : Except Cause (Nat × WireType × Bytes) := do
  let (key, rest) ← Varint.read data
  if UInt32.size ≤ key then throw (.badKey key)
  -- The layout is looked at before the number.
  match WireType.ofCode? (key % 8) with
  | none => throw (.badWireType (key % 8))
  | some type =>
    if key / 8 = 0 then throw .numberZero
    return (key / 8, type, rest)

def readLength (data : Bytes) : Except Cause (Nat × Bytes) := do
  let (length, rest) ← Varint.read data
  if rest.length < length then throw .underflow
  return (length, rest)

end TokenClaim.Wire
