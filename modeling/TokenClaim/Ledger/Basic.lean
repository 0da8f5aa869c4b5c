import TokenClaim.Ledger.Table
import TokenClaim.Record.Claim
import TokenClaim.Record.Vamp
import TokenClaim.VampAddresses
/-!
The ledger that vamps live on: accounts, balances and the events so far.
-/

set_option autoImplicit false

namespace TokenClaim

inductive Event where
  | minted (mint record : Pubkey) (name symbol : String) (erc20 : Bytes) (amount : UInt64)
  /-- `supply` is the supply after the claim. -/
  | claimed (mint claimant : Pubkey) (address : EthAddress) (amount cost supply : UInt64)
  deriving DecidableEq

structure Ledger where
  /-- Account data by address. -/
  accounts : Table Pubkey Bytes
  lamports : Table Pubkey UInt64
  /-- Token balances by mint and holder. -/
  tokens : Table (Pubkey × Pubkey) UInt64
  /-- The oldest first. -/
  events : List Event

namespace Ledger

def empty : Ledger := ⟨.empty, .empty, .empty, []⟩

def lamportsOf (ledger : Ledger) (owner : Pubkey) : UInt64 := (ledger.lamports.find? owner).getD 0

def tokensOf (ledger : Ledger) (mint owner : Pubkey) : UInt64 :=
  (ledger.tokens.find? (mint, owner)).getD 0

def deposit (ledger : Ledger) (owner : Pubkey) (amount : UInt64) : Result (UInt64 × Ledger) :=
  match Word64.add? (ledger.lamportsOf owner) amount with
  | none => .error .overflow
  | some balance => .ok (balance, { ledger with lamports := ledger.lamports.insert owner balance })

def findAddresses (mint program : Pubkey) : Result VampAddresses :=
  match VampAddresses.ofMint? mint program with
  | some addresses => .ok addresses
  | none => .error .noAddress

def findMarker (record : Pubkey) (address : EthAddress) (program : Pubkey) :
    Result (Pubkey × UInt8) :=
  match (DerivedAccount.marker record address).find? program with
  | some found => .ok found
  | none => .error .noAddress

def recordAt (ledger : Ledger) (address : Pubkey) : Result VampRecord :=
  match ledger.accounts.find? address with
  | none => .error .vampNotFound
  | some data => VampRecord.ofAccount data

def vamp (ledger : Ledger) (program mint : Pubkey) : Result VampRecord := do
  let addresses ← findAddresses mint program
  ledger.recordAt addresses.record

def marker (ledger : Ledger) (program mint : Pubkey) (address : EthAddress) :
    Result (Option ClaimMarker) := do
  let addresses ← findAddresses mint program
  let (markerAddress, _) ← findMarker addresses.record address program
  match ledger.accounts.find? markerAddress with
  | none => return none
  | some data => return some (← ClaimMarker.ofAccount data)

def isClaimed (ledger : Ledger) (program mint : Pubkey) (address : EthAddress) : Result Bool := do
  return match ← ledger.marker program mint address with
    | some marker => marker.isClaimed
    | none => false

def quote (ledger : Ledger) (program mint : Pubkey) (amount : UInt64) : Result Quote := do
  let record ← ledger.vamp program mint
  let pricing ← record.pricing
  Quote.of pricing record.supply amount

end Ledger

end TokenClaim
