import Mathlib.Data.Nat.Log
import TokenClaim.Proofs.Record.Allocations
/-!
Which leaves can be proved: those that a tree was built over and none of those that it was filled up
with, each by as many siblings as it takes doublings to reach the number of leaves. What a table
proves for an address is its first entry.
-/

set_option autoImplicit false

namespace TokenClaim

namespace Merkle

variable {leaves : List Digest} {index : Nat} {path : List Digest}

theorem heightFor_eq_clog (count : Nat) : heightFor count = Nat.clog 2 count := by
  unfold heightFor
  split
  · rename_i few
    exact (Nat.clog_of_right_le_one few 2).symm
  · rename_i several
    -- the smallest power of two that holds `count` is the first one above `count - 1`
    apply Nat.le_antisymm
    · have below : 2 ^ (count - 1).log2 ≤ count - 1 := Nat.log2_self_le (by omega)
      exact (Nat.lt_clog_iff_pow_lt Nat.one_lt_two).mpr (by omega)
    · have above : count - 1 < 2 ^ ((count - 1).log2 + 1) := Nat.lt_log2_self
      exact Nat.clog_le_of_le_pow (by omega)

/-- The siblings are accepted for the leaf at the index, and are as many as a tree of so many leaves
has levels above them. -/
def Proves (leaves : List Digest) (index : Nat) (path : List Digest) : Prop :=
  ∃ leaf, leaves[index]? = some leaf ∧ verify leaf path (root leaves) index = true ∧
    path.length = Nat.clog 2 leaves.length

theorem proves_of_prove? (proved : prove? leaves index = some path) :
    Proves leaves index path := by
  have inside : index < leaves.length := by
    by_contra outside
    rw [prove?, if_neg outside] at proved
    cases proved
  obtain ⟨other, same, length, accepted⟩ := exists_prove (List.getElem?_eq_getElem inside)
  obtain rfl := Option.some.inj (proved.symm.trans same)
  exact ⟨_, List.getElem?_eq_getElem inside, accepted, length.trans (heightFor_eq_clog _)⟩

theorem prove?_isSome_iff : (prove? leaves index).isSome ↔ index < leaves.length := by
  constructor
  · intro given
    obtain ⟨path, proved⟩ := Option.isSome_iff_exists.mp given
    obtain ⟨leaf, here, -⟩ := proves_of_prove? proved
    exact (List.getElem?_eq_some_iff.mp here).1
  · intro inside
    obtain ⟨path, proved, -⟩ := exists_prove (List.getElem?_eq_getElem inside)
    rw [proved, Option.isSome_some]

end Merkle

namespace AllocationTable

variable {table : AllocationTable} {address : EthAddress} {proof : AllocationProof}

def ProvesFirst (table : AllocationTable) (address : EthAddress) (proof : AllocationProof) : Prop :=
  table.findIdx? (·.address = address) = some proof.index ∧
    (∃ entry, table[proof.index]? = some entry ∧ entry.amount = proof.amount) ∧
    Merkle.Proves table.leaves proof.index proof.siblings

theorem provesFirst_of_prove? (proved : table.prove? address = some proof) :
    table.ProvesFirst address proof := by
  simp only [prove?, Option.bind_eq_bind, Option.bind_eq_some_iff] at proved
  obtain ⟨index, found, entry, here, path, leads, same⟩ := proved
  cases same
  exact ⟨found, ⟨entry, here, rfl⟩, Merkle.proves_of_prove? leads⟩

theorem prove?_isSome_iff :
    (table.prove? address).isSome ↔ ∃ entry ∈ table, entry.address = address := by
  constructor
  · intro given
    obtain ⟨proof, proved⟩ := Option.isSome_iff_exists.mp given
    obtain ⟨found, ⟨entry, here, -⟩, -⟩ := provesFirst_of_prove? proved
    obtain ⟨inside, named, -⟩ := List.findIdx?_eq_some_iff_getElem.mp found
    exact ⟨_, List.getElem_mem inside, of_decide_eq_true named⟩
  · rintro ⟨entry, member, rfl⟩
    cases first : table.find? (·.address = entry.address) with
    | none =>
      exact absurd (decide_eq_true rfl) (List.find?_eq_none.mp first entry member)
    | some other =>
      obtain ⟨proof, proved, -⟩ := exists_prove first
      rw [proved, Option.isSome_some]

end AllocationTable

/-- A tree proves the leaves that it was built over, and a table the addresses that it lists; each
proof that is made is accepted, and has one sibling for every level of the tree. -/
theorem every_leaf_is_proved :
    (∀ (leaves : List Digest) (index : Nat),
      ((Merkle.prove? leaves index).isSome ↔ index < leaves.length) ∧
        ∀ path, Merkle.prove? leaves index = some path → Merkle.Proves leaves index path) ∧
    ∀ (table : AllocationTable) (address : EthAddress),
      ((table.prove? address).isSome ↔ ∃ entry ∈ table, entry.address = address) ∧
        ∀ proof, table.prove? address = some proof → table.ProvesFirst address proof :=
  ⟨fun _ _ => ⟨Merkle.prove?_isSome_iff, fun _ => Merkle.proves_of_prove?⟩,
    fun _ _ => ⟨AllocationTable.prove?_isSome_iff, fun _ => AllocationTable.provesFirst_of_prove?⟩⟩

theorem every_leaf_is_proved_five :
    (∃ path, Merkle.prove? ([1, 2, 3, 4, 5].map (Octets.replicate 32)) 4 = some path ∧
      path.length = 3) ∧
    ∃ proof, Market.shares.prove? (.replicate 20 4) = some proof ∧
      proof.index = 1 ∧ proof.amount = 3 ∧ proof.siblings.length = 1 := by
  obtain ⟨ofLeaves, ofTables⟩ := every_leaf_is_proved
  constructor
  · obtain ⟨given, proves⟩ := ofLeaves ([1, 2, 3, 4, 5].map (Octets.replicate 32)) 4
    obtain ⟨path, proved⟩ := Option.isSome_iff_exists.mp (given.mpr (by decide))
    obtain ⟨-, -, -, length⟩ := proves path proved
    exact ⟨path, proved, length.trans rfl⟩
  · obtain ⟨given, proves⟩ := ofTables Market.shares (.replicate 20 4)
    obtain ⟨proof, proved⟩ := Option.isSome_iff_exists.mp
      (given.mpr ⟨⟨.replicate 20 4, 3, 0⟩, by simp [Market.shares], rfl⟩)
    obtain ⟨found, ⟨entry, here, amount⟩, -, -, -, length⟩ := proves proof proved
    have second : 1 = proof.index := Option.some.inj found
    rw [← second] at here
    cases here
    exact ⟨proof, proved, second.symm, amount.symm, length.trans rfl⟩

end TokenClaim
