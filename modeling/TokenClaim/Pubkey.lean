import TokenClaim.Text.Base58
/-!
Account keys of the destination ledger, and their base-58 text.
-/

set_option autoImplicit false

namespace TokenClaim

abbrev Pubkey := Octets 32

namespace Pubkey

def toText (key : Pubkey) : String := Text.Base58.encode key.toBytes

inductive Fault where
  | notBase58 (fault : Text.Base58.Fault)
  | badLength (length : Nat)
  deriving DecidableEq

def Fault.message : Fault → String
  | notBase58 fault => s!"invalid pubkey: {fault.message}"
  | badLength length => s!"invalid pubkey: expected 32 bytes, got {length}"

def parse (text : String) : Except Fault Pubkey :=
  match Text.Base58.decode text with
  | .error fault => .error (.notBase58 fault)
  | .ok bytes =>
    match Octets.ofBytes? 32 bytes with
    | some key => .ok key
    | none => .error (.badLength bytes.length)

end Pubkey

end TokenClaim
