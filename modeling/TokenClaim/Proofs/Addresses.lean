import TokenClaim.Proofs.Checked
import TokenClaim.Proofs.ProgramAddress
import TokenClaim.VampAddresses
/-!
Where derived accounts come to stand. An address is the hash of a string that starts with the
account's seeds. The seeds of each kind of account have a length of their own, and within a kind
their parts have fixed lengths, so that the string tells the account and the bump: two accounts
share an address only if two strings have the same hash.
-/

set_option autoImplicit false

namespace TokenClaim

namespace DerivedAccount

variable {program : Pubkey}

theorem find?_eq_listed (account : DerivedAccount) :
    account.find? program =
      if ProgramAddress.maxSeeds ≤ account.seeds.length then none
      else ProgramAddress.Listed.searchBelow account.seeds program 256 :=
  ProgramAddress.search?_eq_listed account.seeds program

def hashed? (account : DerivedAccount) (program : Pubkey) : Option Bytes :=
  (account.find? program).map fun found =>
    ProgramAddress.preimage (account.seeds ++ [[found.2]]) program

/-- No two of the strings that the accounts are derived from have the same hash. -/
def CollisionFree (program : Pubkey) (accounts : List DerivedAccount) : Prop :=
  ∀ first ∈ accounts.filterMap (·.hashed? program),
    ∀ second ∈ accounts.filterMap (·.hashed? program), sha256 first = sha256 second → first = second

theorem CollisionFree.mono {accounts more : List DerivedAccount} (free : CollisionFree program more)
    (within : accounts ⊆ more) : CollisionFree program accounts :=
  fun first here second there => free first (List.filterMap_subset _ within here) second
    (List.filterMap_subset _ within there)

theorem eq_sha256_of_find? {account : DerivedAccount} {address : Pubkey} {bump : UInt8}
    (found : account.find? program = some (address, bump)) :
    address = sha256 (ProgramAddress.preimage (account.seeds ++ [[bump]]) program) :=
  ProgramAddress.eq_sha256_of_search? found

theorem CollisionFree.of_apart {accounts : List DerivedAccount}
    (apart : ∀ first ∈ accounts, ∀ second ∈ accounts, ∀ place bump other,
      first.find? program = some (place, bump) → second.find? program = some (place, other) →
        first = second) : CollisionFree program accounts := by
  intro string here other there collide
  obtain ⟨first, member, hashed⟩ := List.mem_filterMap.mp here
  obtain ⟨second, listed, also⟩ := List.mem_filterMap.mp there
  obtain ⟨⟨place, bump⟩, found, rfl⟩ := Option.map_eq_some_iff.mp hashed
  obtain ⟨⟨address, otherBump⟩, foundOther, rfl⟩ := Option.map_eq_some_iff.mp also
  obtain rfl : place = address :=
    (eq_sha256_of_find? found).trans (collide.trans (eq_sha256_of_find? foundOther).symm)
  obtain rfl := apart first member second listed place bump otherBump found foundOther
  rw [found] at foundOther
  cases foundOther
  rfl

theorem hashed?_of_find? {account : DerivedAccount} {address : Pubkey} {bump : UInt8}
    (found : account.find? program = some (address, bump)) :
    account.hashed? program =
      some (ProgramAddress.preimage (account.seeds ++ [[bump]]) program) := by
  rw [hashed?, found, Option.map_some]

theorem length_seeds (account : DerivedAccount) :
    account.seeds.flatten.length =
      match account with
      | mint _ _ => 44
      | record _ => 36
      | vault _ => 37
      | payVault _ => 41
      | marker _ _ => 57 := by
  have names : (Text.utf8 "mint").length = 4 ∧ (Text.utf8 "vamp").length = 4 ∧
      (Text.utf8 "vault").length = 5 ∧ (Text.utf8 "sol_vault").length = 9 ∧
      (Text.utf8 "claim").length = 5 := ⟨rfl, rfl, rfl, rfl, rfl⟩
  cases account <;> simp [seeds, names, Octets.length_toBytes]

theorem key_of_seeds {name : Bytes} {key other : Pubkey}
    (same : [name, key.toBytes].flatten = [name, other.toBytes].flatten) : key = other := by
  obtain ⟨-, rest⟩ := List.append_inj same rfl
  obtain ⟨keys, -⟩ := List.append_inj rest (key.length_toBytes.trans other.length_toBytes.symm)
  exact Octets.toBytes_injective keys

/-- Seeds are put together without marks between them, and can still be told apart. -/
theorem seeds_injective {first second : DerivedAccount}
    (same : first.seeds.flatten = second.seeds.flatten) : first = second := by
  have lengths := congrArg List.length same
  rw [length_seeds, length_seeds] at lengths
  -- Accounts of two kinds differ in length; within a kind the name is cut off, and the key.
  cases first with
  | mint authority identifier =>
    cases second with
    | mint other otherIdentifier =>
      obtain ⟨-, rest⟩ := List.append_inj same rfl
      obtain ⟨keys, rest⟩ := List.append_inj rest
        (authority.length_toBytes.trans other.length_toBytes.symm)
      obtain ⟨numbers, -⟩ := List.append_inj rest rfl
      have words := congrArg Word64.ofBytes numbers
      rw [Word64.ofBytes_toBytes, Word64.ofBytes_toBytes] at words
      rw [Octets.toBytes_injective keys, words]
    | _ => cases lengths
  | record key =>
    cases second with
    | record other => exact congrArg record (key_of_seeds same)
    | _ => cases lengths
  | vault key =>
    cases second with
    | vault other => exact congrArg vault (key_of_seeds same)
    | _ => cases lengths
  | payVault key =>
    cases second with
    | payVault other => exact congrArg payVault (key_of_seeds same)
    | _ => cases lengths
  | marker key address =>
    cases second with
    | marker other otherAddress =>
      obtain ⟨-, rest⟩ := List.append_inj same rfl
      obtain ⟨keys, rest⟩ := List.append_inj rest
        (key.length_toBytes.trans other.length_toBytes.symm)
      obtain ⟨addresses, -⟩ := List.append_inj rest
        (address.length_toBytes.trans otherAddress.length_toBytes.symm)
      rw [Octets.toBytes_injective keys, Octets.toBytes_injective addresses]
    | _ => cases lengths

theorem preimage_injective {first second : DerivedAccount} {bump other : UInt8}
    (same : ProgramAddress.preimage (first.seeds ++ [[bump]]) program =
      ProgramAddress.preimage (second.seeds ++ [[other]]) program) :
    first = second ∧ bump = other := by
  -- From the end: the mark, the program's key and the bump are as long in both strings.
  obtain ⟨front, -⟩ := List.append_inj' same rfl
  obtain ⟨seeds, -⟩ := List.append_inj' front rfl
  rw [List.flatten_append, List.flatten_append] at seeds
  obtain ⟨seeds, bumps⟩ := List.append_inj' seeds rfl
  exact ⟨seeds_injective seeds, List.head_eq_of_cons_eq bumps⟩

theorem CollisionFree.eq_of_find? {accounts : List DerivedAccount}
    (free : CollisionFree program accounts) {first second : DerivedAccount}
    (here : first ∈ accounts) (there : second ∈ accounts) {place : Pubkey} {bump other : UInt8}
    (found : first.find? program = some (place, bump))
    (foundOther : second.find? program = some (place, other)) :
    first = second ∧ bump = other :=
  preimage_injective
    (free _ (List.mem_filterMap.mpr ⟨first, here, hashed?_of_find? found⟩) _
      (List.mem_filterMap.mpr ⟨second, there, hashed?_of_find? foundOther⟩)
      ((eq_sha256_of_find? found).symm.trans (eq_sha256_of_find? foundOther)))

theorem record_ne_marker {accounts : List DerivedAccount} (free : CollisionFree program accounts)
    {mint vamp place other : Pubkey} {source : EthAddress} {bump otherBump : UInt8}
    (record : DerivedAccount.record mint ∈ accounts)
    (marker : DerivedAccount.marker vamp source ∈ accounts)
    (found : (DerivedAccount.record mint).find? program = some (place, bump))
    (marked : (DerivedAccount.marker vamp source).find? program = some (other, otherBump)) :
    place ≠ other := by
  rintro rfl
  cases (free.eq_of_find? record marker found marked).1

/-- Two derivations of a program lead to one address exactly if they are the same, arguments, bump
and all, unless the two strings that are hashed last collide. -/
theorem same_address_iff {first second : DerivedAccount} {place other : Pubkey}
    {bump otherBump : UInt8} (found : first.find? program = some (place, bump))
    (foundOther : second.find? program = some (other, otherBump))
    (free : CollisionFree program [first, second]) :
    place = other ↔ first = second ∧ bump = otherBump := by
  constructor
  · rintro rfl
    exact free.eq_of_find? (by simp) (by simp) found foundOther
  · rintro ⟨rfl, -⟩
    rw [found] at foundOther
    cases foundOther
    rfl

section
-- One vamp of a program: the name of its vault's kind is the end of that of its pay vault's kind.
def sampleProgram : Pubkey := .replicate 32 0

def sampleMint : Pubkey := .replicate 32 6

def sampleVault : Pubkey :=
  ⟨[159, 5, 196, 8, 109, 209, 35, 119, 164, 29, 253, 168, 105, 246, 230, 30, 93, 86, 55, 65, 32,
    253, 17, 111, 109, 27, 94, 60, 29, 249, 183, 211], rfl⟩

def samplePayVault : Pubkey :=
  ⟨[86, 123, 141, 255, 131, 243, 80, 20, 87, 162, 245, 180, 142, 185, 152, 186, 107, 218, 80, 12,
    193, 181, 171, 166, 180, 122, 111, 200, 90, 87, 184, 73], rfl⟩

theorem find_sampleVaults :
    (vault sampleMint).find? sampleProgram = some (sampleVault, 255) ∧
      (payVault sampleMint).find? sampleProgram = some (samplePayVault, 255) := by
  rw [find?_eq_listed, find?_eq_listed]
  decide +kernel

/-- A vault and the pay vault of the same vamp, both with the highest bump. -/
theorem same_address_iff_vaults :
    CollisionFree sampleProgram [vault sampleMint, payVault sampleMint] ∧
      (sampleVault = samplePayVault ↔
        vault sampleMint = payVault sampleMint ∧ (255 : UInt8) = 255) := by
  obtain ⟨foundVault, foundPayVault⟩ := find_sampleVaults
  have elsewhere : sampleVault ≠ samplePayVault := by decide
  have free : CollisionFree sampleProgram [vault sampleMint, payVault sampleMint] := by
    refine .of_apart ?_
    simp only [List.forall_mem_cons, foundVault, foundPayVault, List.not_mem_nil,
      false_implies, implies_true, and_true, Option.some.injEq, Prod.mk.injEq, reduceCtorEq]
    grind
  exact ⟨free, same_address_iff foundVault foundPayVault free⟩

end

end DerivedAccount

namespace VampAddresses

theorem find_record_of_ofMint? {mint program : Pubkey} {addresses : VampAddresses}
    (found : ofMint? mint program = some addresses) :
    (DerivedAccount.record mint).find? program =
      some (addresses.record, addresses.recordBump) := by
  simp only [ofMint?, Option.bind_eq_bind, Option.bind_eq_some_iff] at found
  obtain ⟨⟨record, bump⟩, derived, vault, -, payVault, -, same⟩ := found
  cases same
  exact derived

end VampAddresses

end TokenClaim
