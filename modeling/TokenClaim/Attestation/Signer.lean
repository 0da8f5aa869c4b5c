import TokenClaim.Attestation.Signature
import TokenClaim.Text.Blank
/-!
Signing. The nonce follows from the key and the message, so a signer has one signature for each
digest.
-/

set_option autoImplicit false

namespace TokenClaim

open Secp256k1

structure Signer where
  secret : Nat
  positive : 0 < secret
  belowOrder : secret < order
  deriving DecidableEq

namespace Signer

inductive Fault where
  | notHex (fault : Text.Hex.Fault)
  | badLength
  | outOfRange
  deriving DecidableEq

def Fault.message : Fault → String
  | notHex fault => fault.message
  | badLength => "invalid secret key: InvalidInputLength"
  | outOfRange => "invalid secret key: InvalidSecretKey"

/-- Read a key of 32 bytes in hexadecimal digits, with blanks around it and `0x` in front. -/
def parse (text : String) : Except Fault Signer := do
  let digits := Text.Hex.dropMarks (Text.trim text.toList)
  let bytes ← (Text.Hex.decode (String.ofList digits)).mapError .notHex
  if bytes.length ≠ 32 then throw .badLength
  let secret := BigEndian.read bytes
  if valid : 0 < secret ∧ secret < order then return ⟨secret, valid.1, valid.2⟩
  else throw .outOfRange

def address (signer : Signer) : EthAddress :=
  let (x, y) := ((generator.multiple signer.secret).affine?).getD (0, 0)
  Signature.addressOf x y

structure NonceState where
  key : Digest
  value : Digest

namespace NonceState

def mix (tag : UInt8) (input : Bytes) (state : NonceState) : NonceState :=
  let key := hmacSha256 state.key.toBytes (state.value.toBytes ++ tag :: input)
  ⟨key, hmacSha256 key.toBytes state.value.toBytes⟩

def start (input : Bytes) : NonceState :=
  mix 0x01 input (mix 0x00 input ⟨Octets.replicate 32 0x00, Octets.replicate 32 0x01⟩)

def next (state : NonceState) : Digest × NonceState :=
  let value := hmacSha256 state.key.toBytes state.value.toBytes
  (value, mix 0x00 [] ⟨state.key, value⟩)

end NonceState

def signWithNonce? (secret message nonce : Nat) : Option (Nat × Nat × Nat) := do
  if nonce = 0 ∨ order ≤ nonce then none
  let (x, y) ← (generator.multiple nonce).affine?
  let r := x % order
  let s := Modular.inverse order nonce * (r * secret + message) % order
  if s = 0 then none
  let recovery := (if order ≤ x then 2 else 0) + y % 2
  -- Of `s` and its opposite the lower one is taken, which goes with the other parity.
  if order / 2 < s then return (r, order - s, if y % 2 = 0 then recovery + 1 else recovery - 1)
  else return (r, s, recovery)

def signFrom (secret message : Nat) : (attempts : Nat) → NonceState → Option (Nat × Nat × Nat)
  | 0, _ => none
  | attempts + 1, state =>
    let (nonce, state) := state.next
    match signWithNonce? secret message nonce.toNat with
    | some signature => some signature
    | none => signFrom secret message attempts state

/-- How many nonces are tried. Each fails with a probability below `2 ^ -127`. -/
def maxAttempts : Nat := 64

def parts? (signer : Signer) (digest : Digest) : Option (Nat × Nat × Nat) :=
  let message := (Balance.personalHash digest).toNat % order
  let input := BigEndian.write 32 signer.secret ++ BigEndian.write 32 message
  signFrom signer.secret message maxAttempts (NonceState.start input)

def sign (signer : Signer) (digest : Digest) : Signature :=
  let parts := (signer.parts? digest).getD (0, 0, 0)
  Signature.ofParts parts.1 parts.2.1 (UInt8.ofNat (parts.2.2 + 27))

def attest (signer : Signer) (address : EthAddress) (amount : UInt64) (intent : Bytes) : Signature :=
  signer.sign (Balance.digest address amount intent)

/-- A description that leaves the key out. -/
def describe (signer : Signer) : String :=
  let address := Text.Hex.encodeMarked signer.address.toBytes
  "AttestationSigner \x7b address: " ++ Text.quote address ++ ", .. \x7d"

end Signer

end TokenClaim
