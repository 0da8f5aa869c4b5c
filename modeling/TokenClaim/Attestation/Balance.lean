import TokenClaim.Hash.Keccak
import TokenClaim.Text.Utf8
/-!
What the attesting parties sign: that a source address may claim an amount under an intent.
-/

set_option autoImplicit false

namespace TokenClaim.Balance

/-- The address, the amount in eight bytes, least significant first, and the intent's identifier. -/
def message (address : EthAddress) (amount : UInt64) (intent : Bytes) : Bytes :=
  address.toBytes ++ Word64.toBytes amount ++ intent

def digest (address : EthAddress) (amount : UInt64) (intent : Bytes) : Digest :=
  keccak256 (message address amount intent)

/-- What a wallet puts in front of a 32-byte message. -/
def personalMark : Bytes := 0x19 :: Text.utf8 "Ethereum Signed Message:\n32"

def personalHash (digest : Digest) : Digest := keccak256 (personalMark ++ digest.toBytes)

end TokenClaim.Balance
