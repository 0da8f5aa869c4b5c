import TokenClaim.Pubkey
import TokenClaim.Record.Account
/-!
The marker of a claim: while it stands, its source address has claimed.
-/

set_option autoImplicit false

namespace TokenClaim

structure ClaimMarker where
  isClaimed : Bool
  bump : UInt8
  address : EthAddress
  claimant : Pubkey
  amount : UInt64
  cost : UInt64
  deriving DecidableEq

namespace ClaimMarker

open Record in
def layout : Layout ClaimMarker :=
  (Layout.flag.pair (Layout.byte.pair ((Layout.octets 20).pair ((Layout.octets 32).pair
    (Layout.word64.pair Layout.word64))))).reshape
    (fun (isClaimed, bump, address, claimant, amount, cost) =>
      ⟨isClaimed, bump, address, claimant, amount, cost⟩)
    (fun m => (m.isClaimed, m.bump, m.address, m.claimant, m.amount, m.cost))

def kind : Record.Kind ClaimMarker where
  discriminator := ⟨[71, 73, 19, 83, 53, 228, 242, 53], rfl⟩
  layout := layout

def toAccount (marker : ClaimMarker) : Result Bytes :=
  (kind.write marker).mapError .invalidAccount

def ofAccount (data : Bytes) : Result ClaimMarker := (kind.read data).mapError .invalidAccount

end ClaimMarker

end TokenClaim
