import TokenClaim.Attestation.Balance
import TokenClaim.Curve.Secp256k1
import TokenClaim.Hash.Sha256
import TokenClaim.Text.Hex
/-!
Recoverable signatures over a digest: two numbers `r` and `s` of 32 bytes each and a recovery byte.
The signer's address follows from the signature.
-/

set_option autoImplicit false

namespace TokenClaim

open Secp256k1

abbrev Signature := Octets 65

namespace Signature

def ofParts (r s : Nat) (recoveryByte : UInt8) : Signature :=
  ⟨BigEndian.write 32 r ++ BigEndian.write 32 s ++ [recoveryByte], by simp⟩

inductive Fault where
  | badLength (length : Nat)
  | badKeyLength (length : Nat)
  | badRecoveryByte (byte : UInt8)
  /-- `r` or `s` is not below the curve's order. -/
  | outOfRange
  /-- No key could have made the signature. -/
  | unrecoverable
  | otherSigner (signer : EthAddress) (expected : Bytes)
  deriving DecidableEq

def Fault.message : Fault → String
  | badLength length => s!"expected a 65-byte signature, got {length}"
  | badKeyLength length => s!"expected a 20-byte address, got {length}"
  | badRecoveryByte byte => s!"invalid recovery byte {byte.toNat}"
  | outOfRange => "signature: InvalidSignature"
  | unrecoverable => "recover: InvalidSignature"
  | otherSigner signer expected =>
    s!"signer {Text.Hex.encodeMarked signer.toBytes} does not match {Text.Hex.encodeMarked expected}"

/-- Whether the recovery byte says that the nonce's point has an odd `y`. -/
def parity? (byte : UInt8) : Option Bool :=
  if byte = 0 ∨ byte = 27 then some false
  else if byte = 1 ∨ byte = 28 then some true
  else none

def addressOf (x y : Nat) : EthAddress :=
  let hash := keccak256 (BigEndian.write 32 x ++ BigEndian.write 32 y)
  ⟨hash.toBytes.drop 12, by simp [hash.length_toBytes]⟩

/-- The public key for which `(r, s)` signs `hash` with the nonce's point at `r`. -/
def recoverKey? (hash : Digest) (r s : Nat) (odd : Bool) : Option (Nat × Nat) := do
  if r = 0 ∨ s = 0 then none
  let nonce ← liftX? r odd
  let inverse := Modular.inverse order r
  let ofGenerator := (order - hash.toNat % order) * inverse % order
  let ofNonce := s * inverse % order
  (Point.add (nonce.multiple ofNonce) (generator.multiple ofGenerator)).affine?

def recover (digest : Digest) (signature : Signature) : Except Fault EthAddress := do
  let recoveryByte := signature.toBytes.getD 64 0
  match parity? recoveryByte with
  | none => throw (.badRecoveryByte recoveryByte)
  | some odd =>
    let r := BigEndian.read (signature.toBytes.take 32)
    let s := BigEndian.read ((signature.toBytes.drop 32).take 32)
    if order ≤ r ∨ order ≤ s then throw .outOfRange
    match recoverKey? (Balance.personalHash digest) r s odd with
    | none => throw .unrecoverable
    | some (x, y) => return addressOf x y

def verify (digest : Digest) (signature expected : Bytes) : Except Fault Unit := do
  match Octets.ofBytes? 65 signature with
  | none => throw (.badLength signature.length)
  | some signature =>
    if expected.length ≠ 20 then throw (.badKeyLength expected.length)
    let signer ← recover digest signature
    if signer.toBytes ≠ expected then throw (.otherSigner signer expected)

end Signature

end TokenClaim
