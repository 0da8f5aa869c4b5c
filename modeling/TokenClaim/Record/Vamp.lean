import TokenClaim.Allocation
import TokenClaim.Pricing.Terms
import TokenClaim.Pubkey
import TokenClaim.Record.Account
/-!
The record of a vamp: what was fixed when it was created, and three counters that claims move.
-/

set_option autoImplicit false

namespace TokenClaim

structure TokenMetadata where
  name : String
  symbol : String
  uri : String
  decimals : UInt8
  erc20 : Bytes
  deriving DecidableEq

structure VampRecord where
  bump : UInt8
  mint : Pubkey
  solverKey : Bytes
  validatorKey : Bytes
  identifier : UInt64
  intent : Bytes
  /-- The tokens claimed so far. -/
  totalClaimed : UInt64
  /-- The lamports paid so far. -/
  reserve : UInt64
  /-- The tokens in circulation, which the curve is priced by. -/
  supply : UInt64
  exponent : UInt64
  initialPrice : UInt64
  payVault : Pubkey
  slope : UInt64
  base : UInt64
  ceiling : Option UInt64
  paid : Bool
  onCurve : Bool
  flatPrice : UInt64
  authority : Pubkey
  /-- Empty where the claimed address itself signs as owner. -/
  ownerKey : Bytes
  vault : Pubkey
  minted : UInt64
  metadata : TokenMetadata
  authorization : Authorization
  deriving DecidableEq

namespace Record.Layout

def allocation : Layout Allocation :=
  ((octets 20).pair (word64.pair byte)).reshape
    (fun (address, amount, decimals) => ⟨address, amount, decimals⟩)
    (fun a => (a.address, a.amount, a.decimals))

def authorization : Layout Authorization where
  write
    | .table entries => 0 :: (list allocation).write entries
    | .root root => 1 :: root.toBytes
  fits
    | .table entries => (list allocation).fits entries
    | .root _ => true
  read data := do
    let (variant, rest) ← takeByte data
    if variant = 0 then
      let (entries, rest) ← (list allocation).read rest
      return (.table entries, rest)
    else if variant = 1 then
      let (root, rest) ← (octets 32).read rest
      return (.root root, rest)
    else throw (.badVariant variant)

def metadata : Layout TokenMetadata :=
  (text.pair (text.pair (text.pair (byte.pair bytes)))).reshape
    (fun (name, symbol, uri, decimals, erc20) => ⟨name, symbol, uri, decimals, erc20⟩)
    (fun m => (m.name, m.symbol, m.uri, m.decimals, m.erc20))

end Record.Layout

namespace VampRecord

open Record in
def layout : Layout VampRecord :=
  (Layout.byte.pair ((Layout.octets 32).pair (Layout.bytes.pair (Layout.bytes.pair
    (Layout.word64.pair (Layout.bytes.pair (Layout.word64.pair (Layout.word64.pair
    (Layout.word64.pair (Layout.word64.pair (Layout.word64.pair ((Layout.octets 32).pair
    (Layout.word64.pair (Layout.word64.pair (Layout.word64.optional.pair (Layout.flag.pair
    (Layout.flag.pair (Layout.word64.pair ((Layout.octets 32).pair (Layout.bytes.pair
    ((Layout.octets 32).pair (Layout.word64.pair (Layout.metadata.pair
    Layout.authorization))))))))))))))))))))))).reshape
    (fun (bump, mint, solverKey, validatorKey, identifier, intent, totalClaimed, reserve, supply,
        exponent, initialPrice, payVault, slope, base, ceiling, paid, onCurve, flatPrice,
        authority, ownerKey, vault, minted, metadata, authorization) =>
      ⟨bump, mint, solverKey, validatorKey, identifier, intent, totalClaimed, reserve, supply,
        exponent, initialPrice, payVault, slope, base, ceiling, paid, onCurve, flatPrice,
        authority, ownerKey, vault, minted, metadata, authorization⟩)
    (fun r => (r.bump, r.mint, r.solverKey, r.validatorKey, r.identifier, r.intent,
        r.totalClaimed, r.reserve, r.supply, r.exponent, r.initialPrice, r.payVault, r.slope,
        r.base, r.ceiling, r.paid, r.onCurve, r.flatPrice, r.authority, r.ownerKey, r.vault,
        r.minted, r.metadata, r.authorization))

def kind : Record.Kind VampRecord where
  discriminator := ⟨[222, 91, 2, 48, 244, 96, 192, 196], rfl⟩
  layout := layout

def toAccount (record : VampRecord) : Result Bytes :=
  (kind.write record).mapError .invalidAccount

def ofAccount (data : Bytes) : Result VampRecord := (kind.read data).mapError .invalidAccount

/-- How units are priced. An exponent that 32 bits do not hold is none that a curve can have. -/
def pricing (record : VampRecord) : Result Pricing :=
  if !record.paid then .ok .free
  else if !record.onCurve then .ok (.flat record.flatPrice record.ceiling)
  else if UInt32.size ≤ record.exponent.toNat then .error (.invalidAccount .exponentOutOfRange)
  else .ok (.curve ⟨record.base, record.slope, UInt32.ofNat record.exponent.toNat, record.ceiling⟩)

def ownerKeyFor (record : VampRecord) (address : EthAddress) : Bytes :=
  if record.ownerKey.isEmpty then address.toBytes else record.ownerKey

/-- The tokens that an address may claim. Where only a root is kept, a proof has to show them. -/
def allocationFor (record : VampRecord) (address : EthAddress) (proof : Option AllocationProof) :
    Result UInt64 :=
  match record.authorization with
  | .table entries => .ok (entries.amountOf address)
  | .root root =>
    match proof with
    | none => .error .invalidProof
    | some proof =>
      let claimed : Allocation := ⟨address, proof.amount, record.metadata.decimals⟩
      if Merkle.verify claimed.leaf proof.siblings root proof.index then .ok proof.amount
      else .error .invalidProof

end VampRecord

end TokenClaim
