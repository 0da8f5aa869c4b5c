import TokenClaim.Attestation.Quorum
import TokenClaim.Record.Layout
import TokenClaim.Text.Numeral
import TokenClaim.Wire.Fault
/-!
Why an operation is refused, and the wording of each reason. A refused operation changes nothing.
-/

set_option autoImplicit false

namespace TokenClaim

/-- What is wrong with a descriptor, with parameters, or with a quantity or address given as
text. -/
inductive Malformed where
  | wire (fault : Wire.Fault)
  | fieldLength (field : String) (length : Nat)
  | decimals (value : Nat)
  | tableCounts (addresses amounts : Nat)
  | tableAddress (length : Nat)
  | duplicateAddress (address : EthAddress)
  | overAllocated (allocated minted : UInt64)
  | rootMismatch
  | tableRequired
  | tableTooLong (entries limit : Nat)
  | rootOrTableRequired
  | exponent (value : UInt32)
  | ceilingBelowBase (ceiling base : UInt64)
  | intentLength (length : Nat)
  | emptyQuantity (text : String)
  | badQuantity (text : String) (fault : Text.Numeral.Fault)
  | badAddress (text : String) (fault : Text.Hex.Fault)
  | addressLength (length : Nat)
  | amountTooLarge (amount : Nat)
  deriving DecidableEq

def maxExponent : UInt32 := 3

def Malformed.message : Malformed → String
  | wire fault => fault.message
  | fieldLength field length => s!"{field} has invalid length {length}"
  | decimals value => s!"unsupported decimals {value}"
  | tableCounts addresses amounts =>
    s!"token mapping has {addresses} addresses but {amounts} amounts"
  | tableAddress length => s!"token mapping address of {length} bytes"
  | duplicateAddress address =>
    s!"duplicate address {Text.Hex.encodeMarked address.toBytes} in token mapping"
  | overAllocated allocated minted =>
    s!"token mapping allocates {allocated.toNat} but only {minted.toNat} are minted"
  | rootMismatch => "merkle root does not match token mapping"
  | tableRequired => "inline authorization needs a token mapping table"
  | tableTooLong entries limit =>
    s!"{entries} token mapping entries exceed the inline limit of {limit}"
  | rootOrTableRequired => "merkle authorization needs a root or a token mapping table"
  | exponent value => s!"curve exponent {value.toNat} exceeds {maxExponent.toNat}"
  | ceilingBelowBase ceiling base =>
    s!"max price {ceiling.toNat} is below base price {base.toNat}"
  | intentLength length =>
    s!"intent id of {length} bytes is not a whole number of 8-byte chunks"
  | emptyQuantity text => s!"empty hex quantity {Text.quote text}"
  | badQuantity text fault => s!"hex quantity {Text.quote text}: {fault.message}"
  | badAddress text fault => s!"eth address {Text.quote text}: {fault.message}"
  | addressLength length => s!"eth address must be 20 bytes, got {length}"
  | amountTooLarge amount => s!"the amount {amount} is too large to be minted"

inductive AccountFault where
  | noDiscriminator (length : Nat)
  | wrongDiscriminator
  | truncated (field : String) (offset : Nat)
  | layout (fault : Record.Fault)
  | unsupportedExponent (exponent : UInt32)
  | exponentOutOfRange
  deriving DecidableEq

def AccountFault.message : AccountFault → String
  | noDiscriminator length => s!"account of {length} bytes has no discriminator"
  | wrongDiscriminator => "discriminator mismatch"
  | truncated field offset => s!"{field} at offset {offset} is truncated"
  | layout fault => fault.message
  | unsupportedExponent exponent => s!"unsupported curve exponent {exponent.toNat}"
  | exponentOutOfRange => "curve exponent out of range"

inductive Refusal where
  | malformed (cause : Malformed)
  | invalidAttestation (role : Role) (fault : Attestation.Fault)
  | allocationExceeded (requested allocated : UInt64)
  | invalidProof
  | zeroAmount
  /-- The price is told as far as 128 bits hold it. -/
  | ceilingExceeded (price : Nat) (ceiling : UInt64)
  | insufficientFunds (required available : UInt64)
  | vaultDepleted (requested available : UInt64)
  | alreadyClaimed
  | alreadyInitialized
  | vampNotFound
  | invalidAccount (fault : AccountFault)
  | noAddress
  | overflow
  deriving DecidableEq

def Refusal.message : Refusal → String
  | malformed cause => s!"Malformed vamping data: {cause.message}"
  | invalidAttestation role fault => s!"Invalid {role.name} attestation: {fault.message}"
  | allocationExceeded requested allocated =>
    s!"Requested {requested.toNat} tokens but the allocation is {allocated.toNat}"
  | invalidProof => "Invalid Merkle proof"
  | zeroAmount => "Claim amount must be greater than zero"
  | ceilingExceeded price ceiling => s!"Unit price {price} exceeds the max price {ceiling.toNat}"
  | insufficientFunds required available =>
    s!"Claim costs {required.toNat} lamports but only {available.toNat} are available"
  | vaultDepleted requested available =>
    s!"Token vault holds {available.toNat} tokens, {requested.toNat} requested"
  | alreadyClaimed => "Tokens already claimed for this address"
  | alreadyInitialized => "Vamp state already initialized"
  | vampNotFound => "Vamp state not found"
  | invalidAccount fault => s!"Invalid account data: {fault.message}"
  | noAddress => "Unable to find a viable program address"
  | overflow => "Arithmetic overflow"

abbrev Result := Except Refusal

def orOverflow {α : Type} (value : Option α) : Result α :=
  match value with
  | some value => .ok value
  | none => .error .overflow

end TokenClaim
