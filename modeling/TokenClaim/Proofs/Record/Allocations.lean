import TokenClaim.Proofs.Ledger.Tokens
import TokenClaim.Proofs.Merkle.Soundness
/-!
What proofs of allocations are worth to a vamp that keeps only the root of its table. Whatever proof
is shown, an address is granted what an entry of the table gives to it, and the proof that the table
makes for it is accepted.
-/

set_option autoImplicit false

namespace TokenClaim

namespace Allocation

theorem length_leafBytes (entry : Allocation) : entry.leafBytes.length = 29 := by
  simp [leafBytes, entry.address.length_toBytes]

theorem leafBytes_injective {first second : Allocation}
    (same : first.leafBytes = second.leafBytes) : first = second := by
  unfold leafBytes at same
  rw [List.append_assoc, List.append_assoc] at same
  -- the fields have fixed widths: 20 bytes, 8 bytes and one
  have front := List.append_inj same
    (by rw [first.address.length_toBytes, second.address.length_toBytes])
  have back := List.append_inj front.2 (by simp)
  have address := Octets.toBytes_injective front.1
  have amount : first.amount = second.amount := by
    simpa using congrArg Word64.ofBytes back.1
  have decimals : first.decimals = second.decimals := List.head_eq_of_cons_eq back.2
  cases first
  cases second
  congr

end Allocation

def AllocationTable.hashedStrings (table : AllocationTable) : List Bytes :=
  table.map Allocation.leafBytes ++ Merkle.treeStrings table.leaves

def AllocationProof.hashedStrings (proof : AllocationProof) (claimed : Allocation) : List Bytes :=
  claimed.leafBytes :: Merkle.climbStrings claimed.leaf proof.index proof.siblings

theorem AllocationTable.leaves_eq_map (table : AllocationTable) :
    table.leaves = (table.map Allocation.leafBytes).map keccak256 := by
  rw [leaves, List.map_map]
  rfl

/-- A leaf is hashed from 29 bytes and an inner node from 64, so that none passes for the other. -/
theorem AllocationTable.length_ne_of_mem_leafBytes {table : AllocationTable} :
    ∀ string ∈ table.map Allocation.leafBytes, string.length ≠ 64 := by
  intro string member
  obtain ⟨entry, -, rfl⟩ := List.mem_map.mp member
  simp [entry.length_leafBytes]

theorem AllocationTable.mem_of_verify {table : AllocationTable} {claimed : Allocation}
    {proof : AllocationProof} (nonempty : table ≠ [])
    (free : CollisionFree (table.hashedStrings ++ proof.hashedStrings claimed))
    (accepted : Merkle.verify claimed.leaf proof.siblings table.root proof.index = true) :
    claimed ∈ table := by
  rw [hashedStrings, AllocationProof.hashedStrings, leaves_eq_map] at free
  rw [AllocationTable.root, leaves_eq_map] at accepted
  have member := Merkle.mem_of_verify (by simpa using nonempty) length_ne_of_mem_leafBytes
    (by simp [claimed.length_leafBytes]) free accepted
  obtain ⟨entry, known, same⟩ := List.mem_map.mp member
  exact Allocation.leafBytes_injective same ▸ known

theorem AllocationTable.find?_of_mem {table : AllocationTable} {entry : Allocation}
    (distinct : (table.map (·.address)).Nodup) (member : entry ∈ table) :
    table.find? (·.address = entry.address) = some entry := by
  induction table with
  | nil => cases member
  | cons first rest ih =>
    rw [List.map_cons, List.nodup_cons] at distinct
    rcases List.mem_cons.mp member with rfl | later
    · exact List.find?_cons_of_pos (by simp)
    · have other : first.address ≠ entry.address := fun same =>
        distinct.1 (List.mem_map.mpr ⟨entry, later, same.symm⟩)
      rw [List.find?_cons_of_neg (by simpa using other)]
      exact ih distinct.2 later

theorem AllocationTable.getElem?_leaves {table : AllocationTable} {index : Nat} {entry : Allocation}
    (here : table[index]? = some entry) : table.leaves[index]? = some entry.leaf := by
  rw [leaves, List.getElem?_map, here]
  rfl

theorem AllocationTable.prove?_of_findIdx? {table : AllocationTable} {address : EthAddress}
    {index : Nat} {entry : Allocation} {path : List Digest}
    (found : table.findIdx? (·.address = address) = some index) (here : table[index]? = some entry)
    (proved : Merkle.prove? table.leaves index = some path) :
    table.prove? address = some ⟨entry.amount, index, path⟩ := by
  simp only [prove?, found, here, proved, Option.bind_eq_bind, Option.bind_some]
  rfl

theorem AllocationTable.exists_prove {table : AllocationTable} {address : EthAddress}
    {entry : Allocation} (first : table.find? (·.address = address) = some entry) :
    ∃ proof, table.prove? address = some proof ∧ proof.amount = entry.amount ∧
      Merkle.verify entry.leaf proof.siblings table.root proof.index = true := by
  rw [List.find?_eq_bind_findIdx?_getElem?] at first
  obtain ⟨index, found, here⟩ := Option.bind_eq_some_iff.mp first
  obtain ⟨path, proved, -, accepted⟩ := Merkle.exists_prove (getElem?_leaves here)
  exact ⟨⟨entry.amount, index, path⟩, prove?_of_findIdx? found here proved, rfl, accepted⟩

/-- A vamp that keeps a table and one that keeps its root grant the same to a table's address. -/
theorem VampRecord.allocationFor_prove {record : VampRecord} {table : AllocationTable}
    {entry : Allocation} (distinct : (table.map (·.address)).Nodup) (member : entry ∈ table)
    (decimals : entry.decimals = record.metadata.decimals)
    (kept : record.authorization = .table table ∨ record.authorization = .root table.root) :
    ∃ proof, table.prove? entry.address = some proof ∧
      record.allocationFor entry.address (some proof) = .ok entry.amount := by
  have first := AllocationTable.find?_of_mem distinct member
  obtain ⟨proof, proved, amount, accepted⟩ := AllocationTable.exists_prove first
  refine ⟨proof, proved, ?_⟩
  rcases kept with table | root
  · simp only [allocationFor, table, AllocationTable.amountOf, first]
  · simp only [allocationFor, root, amount, ← decimals]
    exact if_pos accepted

/-- Where a vamp keeps the root of a table, an amount that it grants to an address is one that the
table has for the address. -/
theorem VampRecord.mem_of_granted {record : VampRecord} {table : AllocationTable}
    {address : EthAddress} {proof : AllocationProof} {amount : UInt64} (nonempty : table ≠ [])
    (rooted : record.authorization = .root table.root)
    (free : CollisionFree (table.hashedStrings ++
      proof.hashedStrings ⟨address, proof.amount, record.metadata.decimals⟩))
    (granted : record.allocationFor address (some proof) = .ok amount) :
    ⟨address, amount, record.metadata.decimals⟩ ∈ table := by
  simp only [allocationFor, rooted] at granted
  split at granted
  case isTrue accepted =>
    cases granted
    exact AllocationTable.mem_of_verify nonempty free accepted
  case isFalse => cases granted

namespace Market

def freshByRoot : VampRecord := { fresh first 49 with authorization := .root shares.root }

def secondProof : AllocationProof := ⟨3, 1, [Allocation.leaf ⟨holder, 5, 0⟩]⟩

theorem collisionFree_shares : CollisionFree (shares.hashedStrings ++
    secondProof.hashedStrings ⟨.replicate 20 4, 3, 0⟩) := by
  -- the tree of two leaves has one pair, and the check hashes the second leaf and that pair again
  have pair : Merkle.treeStrings shares.leaves =
      [(Allocation.leaf ⟨holder, 5, 0⟩).toBytes ++
        (Allocation.leaf ⟨.replicate 20 4, 3, 0⟩).toBytes] := by
    rw [Merkle.treeStrings, AllocationTable.leaves, shares, List.map_cons, List.map_singleton,
      Merkle.levels_pair]
    rfl
  have distinct : (([Allocation.leafBytes ⟨holder, 5, 0⟩,
      Allocation.leafBytes ⟨.replicate 20 4, 3, 0⟩,
      (Allocation.leaf ⟨holder, 5, 0⟩).toBytes ++
        (Allocation.leaf ⟨.replicate 20 4, 3, 0⟩).toBytes] : List Bytes).map keccak256).Nodup := by
    decide +kernel
  refine (CollisionFree.of_nodup distinct).mono ?_
  rw [AllocationTable.hashedStrings, pair]
  intro string member
  simpa [shares, secondProof, AllocationProof.hashedStrings, Merkle.climbStrings,
    Merkle.parentString, or_comm, or_assoc, or_left_comm] using member

end Market

theorem mem_of_granted_second_share :
    Market.freshByRoot.allocationFor (.replicate 20 4) (some Market.secondProof) = .ok 3 ∧
      ⟨.replicate 20 4, 3, 0⟩ ∈ Market.shares := by
  have granted : Market.freshByRoot.allocationFor (.replicate 20 4) (some Market.secondProof) =
      .ok 3 := by
    have accepted : Merkle.verify (Allocation.leaf ⟨.replicate 20 4, 3, 0⟩)
        Market.secondProof.siblings Market.shares.root Market.secondProof.index = true := by
      rw [AllocationTable.root, AllocationTable.leaves, Market.shares, List.map_cons,
        List.map_singleton, Merkle.root, Merkle.levels_pair]
      simp [Merkle.verify, Merkle.climb, Merkle.rootOf, Market.secondProof]
    exact if_pos accepted
  exact ⟨granted, VampRecord.mem_of_granted (by simp [Market.shares]) rfl
    Market.collisionFree_shares granted⟩

end TokenClaim
