import TokenClaim.Descriptor.Basic
import TokenClaim.Ledger.Basic
import TokenClaim.Quantity
/-!
The operations on a ledger: a vamp is created from a descriptor, and its tokens are claimed. All
checks and new balances come first; an operation that is refused leaves the ledger as it was.
-/

set_option autoImplicit false

namespace TokenClaim

/-- What is the same for all operations. -/
structure Engine where
  program : Pubkey
  policy : AuthorizationPolicy
  /-- The terms of vamps for which neither the creator nor the descriptor sets any. -/
  terms : Terms
  scheme : SignatureScheme

structure CreateRequest where
  authority : Pubkey
  /-- By default the fold of the intent. -/
  identifier : Option UInt64
  descriptor : Bytes
  /-- Goes before the descriptor's terms. -/
  terms : Option Terms

structure ClaimRequest where
  mint : Pubkey
  /-- Pays the cost and receives the tokens. -/
  claimant : Pubkey
  address : EthAddress
  amount : UInt64
  attestation : Attestation
  proof : Option AllocationProof

structure Receipt where
  mint : Pubkey
  claimant : Pubkey
  address : EthAddress
  /-- Where the claim's marker stands. -/
  marker : Pubkey
  amount : UInt64
  cost : UInt64
  totalClaimed : UInt64
  reserve : UInt64
  supply : UInt64
  deriving DecidableEq

namespace Engine

def newRecord (addresses : VampAddresses) (authority : Pubkey) (identifier : UInt64)
    (descriptor : Descriptor) (terms : Terms) (initialPrice : UInt64) : VampRecord where
  bump := addresses.recordBump
  mint := addresses.mint
  solverKey := descriptor.solverKey
  validatorKey := descriptor.validatorKey
  identifier := identifier
  intent := descriptor.intent
  totalClaimed := 0
  reserve := 0
  supply := 0
  exponent := UInt64.ofNat terms.exponent.toNat
  initialPrice := initialPrice
  payVault := addresses.payVault
  slope := terms.slope
  base := terms.base
  ceiling := terms.ceiling
  paid := terms.paid
  onCurve := terms.onCurve
  flatPrice := terms.flatPrice
  authority := authority
  ownerKey := descriptor.ownerKey
  vault := addresses.vault
  minted := descriptor.amount
  metadata := {
    name := descriptor.name
    symbol := descriptor.symbol
    uri := descriptor.uri.getD ""
    decimals := descriptor.decimals
    erc20 := descriptor.erc20 }
  authorization := descriptor.authorization

def create (engine : Engine) (request : CreateRequest) (ledger : Ledger) :
    Result (VampRecord × Ledger) := do
  let descriptor ← Descriptor.read engine.policy request.descriptor
  -- What the creator asks for goes before what the descriptor says, and that before the default.
  let terms := (request.terms.or descriptor.terms).getD engine.terms
  terms.validate
  let identifier ← match request.identifier with
    | some identifier => pure identifier
    | none => foldIntent descriptor.intent
  let addresses ← match VampAddresses.derive? request.authority identifier engine.program with
    | some addresses => pure addresses
    | none => throw .noAddress
  if ledger.accounts.contains addresses.record then throw .alreadyInitialized
  let initialPrice ← terms.pricing.unitPrice 0
  let record := newRecord addresses request.authority identifier descriptor terms initialPrice
  let data ← record.toAccount
  return (record, {
    accounts := ledger.accounts.insert addresses.record data
    lamports := ledger.lamports.insertIfNew addresses.payVault 0
    tokens := ledger.tokens.insert (addresses.mint, addresses.vault) descriptor.amount
    events := ledger.events ++
      [.minted addresses.mint addresses.record descriptor.name descriptor.symbol descriptor.erc20
        descriptor.amount] })

def roleKeys (record : VampRecord) (address : EthAddress) : PerRole Bytes :=
  ⟨record.solverKey, record.validatorKey, record.ownerKeyFor address⟩

def authorize (engine : Engine) (record : VampRecord) (request : ClaimRequest) : Result Unit := do
  let digest := Balance.digest request.address request.amount record.intent
  match Attestation.verify engine.scheme digest request.attestation
      (roleKeys record request.address) with
  | .error (role, fault) => throw (.invalidAttestation role fault)
  | .ok () => pure ()
  if request.amount = 0 then throw .zeroAmount
  let allocated ← record.allocationFor request.address request.proof
  if allocated < request.amount then throw (.allocationExceeded request.amount allocated)

/-- The balances after a claim, each from the ledger before it. -/
structure Settlement where
  claimantLamports : UInt64
  payVaultLamports : UInt64
  vaultTokens : UInt64
  claimantTokens : UInt64

def settle (ledger : Ledger) (record : VampRecord) (claimant : Pubkey) (amount cost : UInt64) :
    Result Settlement := do
  let available := ledger.lamportsOf claimant
  let claimantLamports ← match Word64.sub? available cost with
    | some balance => pure balance
    | none => throw (.insufficientFunds cost available)
  let payVaultLamports ← orOverflow (Word64.add? (ledger.lamportsOf record.payVault) cost)
  let held := ledger.tokensOf record.mint record.vault
  let vaultTokens ← match Word64.sub? held amount with
    | some balance => pure balance
    | none => throw (.vaultDepleted amount held)
  let claimantTokens ← orOverflow (Word64.add? (ledger.tokensOf record.mint claimant) amount)
  return ⟨claimantLamports, payVaultLamports, vaultTokens, claimantTokens⟩

def count (record : VampRecord) (amount cost : UInt64) : Result VampRecord := do
  let totalClaimed ← orOverflow (Word64.add? record.totalClaimed amount)
  let reserve ← orOverflow (Word64.add? record.reserve cost)
  let supply ← orOverflow (Word64.add? record.supply amount)
  return { record with totalClaimed, reserve, supply }

def claim (engine : Engine) (request : ClaimRequest) (ledger : Ledger) :
    Result (Receipt × Ledger) := do
  let addresses ← Ledger.findAddresses request.mint engine.program
  let record ← ledger.recordAt addresses.record
  engine.authorize record request
  let pricing ← record.pricing
  let cost ← pricing.cost record.supply request.amount
  let settlement ← settle ledger record request.claimant request.amount cost
  let counted ← count record request.amount cost
  let recordData ← counted.toAccount
  let (markerAddress, bump) ← Ledger.findMarker addresses.record request.address engine.program
  let marker : ClaimMarker :=
    ⟨true, bump, request.address, request.claimant, request.amount, cost⟩
  let markerData ← marker.toAccount
  if ledger.accounts.contains markerAddress then throw .alreadyClaimed
  let receipt : Receipt := {
    mint := record.mint
    claimant := request.claimant
    address := request.address
    marker := markerAddress
    amount := request.amount
    cost := cost
    totalClaimed := counted.totalClaimed
    reserve := counted.reserve
    supply := counted.supply }
  -- Every new balance was taken from the ledger before the claim. Where the claimant is one of the
  -- vamp's own vaults, the later of the two entries stands.
  return (receipt, {
    accounts := (ledger.accounts.insert markerAddress markerData).insert addresses.record recordData
    lamports := (ledger.lamports.insert request.claimant settlement.claimantLamports).insert
      record.payVault settlement.payVaultLamports
    tokens := (ledger.tokens.insert (record.mint, record.vault) settlement.vaultTokens).insert
      (record.mint, request.claimant) settlement.claimantTokens
    events := ledger.events ++
      [.claimed record.mint request.claimant request.address request.amount cost counted.supply] })

end Engine

end TokenClaim
