import TokenClaim.ProgramAddress
/-!
Where the accounts of a vamp stand. Every address follows from the vamp's mint, and the mint from
its creator and its number.
-/

set_option autoImplicit false

namespace TokenClaim

/-- The accounts that a program derives, each with what it is derived from. -/
inductive DerivedAccount where
  | mint (authority : Pubkey) (identifier : UInt64)
  | record (mint : Pubkey)
  | vault (mint : Pubkey)
  | payVault (mint : Pubkey)
  | marker (record : Pubkey) (address : EthAddress)
  deriving DecidableEq

namespace DerivedAccount

def seeds : DerivedAccount → List Bytes
  | mint authority identifier =>
    [Text.utf8 "mint", authority.toBytes, Word64.toBytes identifier]
  | record key => [Text.utf8 "vamp", key.toBytes]
  | vault key => [Text.utf8 "vault", key.toBytes]
  | payVault key => [Text.utf8 "sol_vault", key.toBytes]
  | marker key address => [Text.utf8 "claim", key.toBytes, address.toBytes]

def find? (account : DerivedAccount) (program : Pubkey) : Option (Pubkey × UInt8) :=
  ProgramAddress.search? account.seeds program

end DerivedAccount

structure VampAddresses where
  mint : Pubkey
  record : Pubkey
  recordBump : UInt8
  /-- The holder of the tokens not yet claimed. -/
  vault : Pubkey
  /-- The account that claims are paid to. -/
  payVault : Pubkey
  deriving DecidableEq

namespace VampAddresses

def ofMint? (mint program : Pubkey) : Option VampAddresses := do
  let (record, recordBump) ← (DerivedAccount.record mint).find? program
  let (vault, _) ← (DerivedAccount.vault mint).find? program
  let (payVault, _) ← (DerivedAccount.payVault mint).find? program
  return ⟨mint, record, recordBump, vault, payVault⟩

def derive? (authority : Pubkey) (identifier : UInt64) (program : Pubkey) :
    Option VampAddresses := do
  let (mint, _) ← (DerivedAccount.mint authority identifier).find? program
  ofMint? mint program

end VampAddresses

end TokenClaim
