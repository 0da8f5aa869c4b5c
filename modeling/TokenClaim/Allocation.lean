import TokenClaim.Merkle
/-!
Who may claim how much: a table of allocations, or only the Merkle root of one.
-/

set_option autoImplicit false

namespace TokenClaim

/-- The tokens that one source address may claim, in units of `10 ^ -decimals` tokens. -/
structure Allocation where
  address : EthAddress
  amount : UInt64
  decimals : UInt8
  deriving DecidableEq

namespace Allocation

def leafBytes (allocation : Allocation) : Bytes :=
  allocation.address.toBytes ++ Word64.toBytes allocation.amount ++ [allocation.decimals]

def leaf (allocation : Allocation) : Digest := keccak256 allocation.leafBytes

end Allocation

abbrev AllocationTable := List Allocation

namespace AllocationTable

def leaves (table : AllocationTable) : List Digest := table.map Allocation.leaf

def root (table : AllocationTable) : Digest := Merkle.root table.leaves

def amountOf (table : AllocationTable) (address : EthAddress) : UInt64 :=
  match table.find? (·.address = address) with
  | some entry => entry.amount
  | none => 0

end AllocationTable

/-- Says that the leaf at `index` allocates `amount`, and leads from there to the root. -/
structure AllocationProof where
  amount : UInt64
  index : Nat
  siblings : List Digest
  deriving DecidableEq

def AllocationTable.prove? (table : AllocationTable) (address : EthAddress) :
    Option AllocationProof := do
  let index ← table.findIdx? (·.address = address)
  let entry ← table[index]?
  let siblings ← Merkle.prove? table.leaves index
  return ⟨entry.amount, index, siblings⟩

inductive Authorization where
  | table (entries : AllocationTable)
  | root (root : Digest)
  deriving DecidableEq

namespace Authorization

def entries : Authorization → AllocationTable
  | table rows => rows
  | root _ => []

def merkleRoot : Authorization → Digest
  | table rows => rows.root
  | root kept => kept

end Authorization

end TokenClaim
