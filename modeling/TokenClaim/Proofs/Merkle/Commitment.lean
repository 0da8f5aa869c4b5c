import Mathlib.Data.List.Dedup
import TokenClaim.Proofs.Descriptor.Acceptance
import TokenClaim.Proofs.Record.Allocations
/-!
A root stands for one table. As long as the hash tells apart the strings that are hashed for two
trees, trees of equal roots have equal levels, down to the leaves: none is higher than the other,
since no leaf is the hash of a pair. Tables without doubles are then equal too, although a list of
leaves is filled up with its last one.
-/

set_option autoImplicit false

namespace TokenClaim

theorem CollisionFree.eq_of_map {strings first second : List Bytes} (free : CollisionFree strings)
    (within : first ⊆ strings) (withinToo : second ⊆ strings)
    (same : first.map keccak256 = second.map keccak256) : first = second := by
  induction first generalizing second with
  | nil => exact (List.map_eq_nil_iff.mp same.symm).symm
  | cons head rest ih =>
    cases second with
    | nil => cases same
    | cons other tail =>
      rw [List.map_cons, List.map_cons, List.cons.injEq] at same
      rw [List.cons_subset] at within withinToo
      rw [free _ within.1 _ withinToo.1 same.1, ih within.2 withinToo.2 same.2]

theorem CollisionFree.nodup_map {strings few : List Bytes} (free : CollisionFree strings)
    (within : few ⊆ strings) (distinct : few.Nodup) : (few.map keccak256).Nodup :=
  distinct.map_on fun _ here _ there => free _ (within here) _ (within there)

namespace Merkle

theorem pairStrings_injective {level other : List Digest} (even : level.length % 2 = 0)
    (otherEven : other.length % 2 = 0) (same : pairStrings level = pairStrings other) :
    level = other := by
  fun_induction pairStrings level generalizing other with
  | case1 left right rest ih =>
    rcases other with - | ⟨otherLeft, - | ⟨otherRight, otherRest⟩⟩
    · cases same
    · cases same
    · rw [pairStrings, List.cons.injEq] at same
      obtain ⟨lefts, rights⟩ := List.append_inj same.1
        (left.length_toBytes.trans otherLeft.length_toBytes.symm)
      simp only [List.length_cons] at even otherEven
      rw [Octets.toBytes_injective lefts, Octets.toBytes_injective rights,
        ih (by omega) (by omega) same.2]
  | case2 level short =>
    -- an even level without a pair is empty
    rcases level with - | ⟨left, - | ⟨right, rest⟩⟩
    · rcases other with - | ⟨otherLeft, - | ⟨otherRight, otherRest⟩⟩
      · rfl
      · cases otherEven
      · cases same
    · cases even
    · exact absurd rfl (short left right rest)

theorem length_of_mem_pairStrings {level : List Digest} {string : Bytes}
    (member : string ∈ pairStrings level) : string.length = 64 := by
  obtain ⟨left, -, right, -, rfl⟩ := exists_of_mem_pairStrings member
  rw [List.length_append, left.length_toBytes, right.length_toBytes]

section
variable {height more : Nat} {level other : List Digest}

theorem eq_of_rootOf (full : level.length = 2 ^ height) (otherFull : other.length = 2 ^ height)
    (free : CollisionFree
      ((levelsFrom level).flatMap pairStrings ++ (levelsFrom other).flatMap pairStrings))
    (same : rootOf (levelsFrom level) = rootOf (levelsFrom other)) : level = other := by
  -- One level up the parents are equal, and their hashes tell the pairs.
  induction height generalizing level other with
  | zero =>
    obtain ⟨node, rfl⟩ := List.length_eq_one_iff.mp full
    obtain ⟨otherNode, rfl⟩ := List.length_eq_one_iff.mp otherFull
    rw [levelsFrom_singleton, levelsFrom_singleton] at same
    exact congrArg (fun only => [only]) same
  | succ height ih =>
    have half := Nat.two_pow_succ height
    have positive := Nat.two_pow_pos height
    have unfolded : levelsFrom level = level :: levelsFrom (parents level) :=
      levelsFrom_of_lt (by omega)
    have otherUnfolded : levelsFrom other = other :: levelsFrom (parents other) :=
      levelsFrom_of_lt (by omega)
    rw [unfolded, otherUnfolded, List.flatMap_cons, List.flatMap_cons] at free
    rw [unfolded, otherUnfolded, rootOf_cons (levelsFrom_ne_nil _),
      rootOf_cons (levelsFrom_ne_nil _)] at same
    have above : parents level = parents other := by
      refine ih ?_ ?_ (free.mono ?_) same
      · rw [length_parents]
        omega
      · rw [length_parents]
        omega
      · intro string member
        simp only [List.mem_append] at member ⊢
        grind
    rw [parents_eq_map, parents_eq_map] at above
    refine pairStrings_injective (by omega) (by omega) (free.eq_of_map ?_ ?_ above)
    · exact fun string member => by simp [member]
    · exact fun string member => by simp [member]

theorem mem_levelsFrom_of_rootOf (full : level.length = 2 ^ height)
    (higher : other.length = 2 ^ (height + more))
    (free : CollisionFree
      ((levelsFrom level).flatMap pairStrings ++ (levelsFrom other).flatMap pairStrings))
    (same : rootOf (levelsFrom level) = rootOf (levelsFrom other)) : level ∈ levelsFrom other := by
  induction more generalizing other with
  | zero =>
    rw [eq_of_rootOf full higher free same, levelsFrom]
    split <;> exact List.mem_cons_self
  | succ more ih =>
    have half := Nat.two_pow_succ (height + more)
    have positive := Nat.two_pow_pos (height + more)
    rw [← Nat.add_assoc] at higher
    have unfolded : levelsFrom other = other :: levelsFrom (parents other) :=
      levelsFrom_of_lt (by omega)
    rw [unfolded, List.flatMap_cons] at free
    rw [unfolded, rootOf_cons (levelsFrom_ne_nil _)] at same
    rw [unfolded]
    refine List.mem_cons_of_mem _ (ih ?_ (free.mono ?_) same)
    · rw [length_parents]
      omega
    · intro string member
      simp only [List.mem_append] at member ⊢
      grind

theorem exists_pair_of_mem_above {above : List Digest} {node : Digest}
    (higher : above ∈ levelsFrom (parents level)) (member : node ∈ above) :
    ∃ string ∈ pairStrings level ++ (levelsFrom (parents level)).flatMap pairStrings,
      keccak256 string = node := by
  rcases mem_levelsFrom (List.mem_flatten_of_mem higher member) with
    parent | ⟨left, -, right, -, hashed, same⟩
  · rw [parents_eq_map] at parent
    obtain ⟨string, paired, same⟩ := List.mem_map.mp parent
    exact ⟨string, List.mem_append_left _ paired, same⟩
  · exact ⟨_, List.mem_append_right _ hashed, same⟩

/-- If no leaf is the hash of a pair, then no tree of the same root is higher. -/
theorem eq_of_rootOf_of_leaves (full : level.length = 2 ^ height)
    (higher : other.length = 2 ^ (height + more))
    (free : CollisionFree
      ((levelsFrom level).flatMap pairStrings ++ (levelsFrom other).flatMap pairStrings))
    (leaves : ∀ node ∈ level, ∀ string ∈ (levelsFrom other).flatMap pairStrings,
      keccak256 string ≠ node)
    (same : rootOf (levelsFrom level) = rootOf (levelsFrom other)) : level = other := by
  have stands := mem_levelsFrom_of_rootOf full higher free same
  by_cases single : other.length ≤ 1
  · rw [levelsFrom_of_le single] at stands
    exact List.mem_singleton.mp stands
  · rw [levelsFrom_of_lt (Nat.not_le.mp single)] at stands leaves
    rcases List.mem_cons.mp stands with equal | above
    · exact equal
    · have nonempty : level ≠ [] :=
        List.ne_nil_of_length_pos (full ▸ Nat.two_pow_pos height)
      obtain ⟨string, paired, hashed⟩ :=
        exists_pair_of_mem_above above (List.head_mem nonempty)
      exact absurd hashed (leaves _ (List.head_mem nonempty) string paired)

end

theorem dedup_padded {leaves : List Digest} (distinct : leaves.Nodup) :
    (padded leaves).dedup = leaves := by
  rcases leaves.eq_nil_or_concat' with rfl | ⟨front, last, rfl⟩
  · rfl
  · obtain ⟨copies, filled⟩ : ∃ copies,
        padded (front ++ [last]) = front ++ List.replicate (copies + 1) last := by
      refine ⟨widthFor (front ++ [last]).length - (front ++ [last]).length, ?_⟩
      rw [padded, List.getLast?_concat]
      exact List.append_assoc _ _ _
    rw [List.nodup_append] at distinct
    rw [filled, List.Disjoint.dedup_append, distinct.1.dedup, List.replicate_dedup (by omega)]
    intro node here there
    exact distinct.2.2 node here last (by simp) (List.eq_of_mem_replicate there)

section
variable {strings others : List Bytes}

theorem padded_eq_of_root (nonempty : strings ≠ []) (othersNonempty : others ≠ [])
    (lengths : ∀ string ∈ strings, string.length ≠ 64)
    (free : CollisionFree ((strings ++ treeStrings (strings.map keccak256)) ++
      (others ++ treeStrings (others.map keccak256))))
    (lower : heightFor strings.length ≤ heightFor others.length)
    (same : root (strings.map keccak256) = root (others.map keccak256)) :
    padded (strings.map keccak256) = padded (others.map keccak256) := by
  have filled : strings.map keccak256 ≠ [] := by simpa using nonempty
  have othersFilled : others.map keccak256 ≠ [] := by simpa using othersNonempty
  obtain ⟨more, height⟩ := Nat.exists_eq_add_of_le lower
  rw [treeStrings, treeStrings, levels_of_ne_nil filled, levels_of_ne_nil othersFilled] at free
  rw [root, root, levels_of_ne_nil filled, levels_of_ne_nil othersFilled] at same
  have full : (padded (strings.map keccak256)).length = 2 ^ heightFor strings.length := by
    rw [length_padded filled, List.length_map]
  have higher : (padded (others.map keccak256)).length = 2 ^ (heightFor strings.length + more) := by
    rw [length_padded othersFilled, List.length_map, height]
  refine eq_of_rootOf_of_leaves full higher (free.mono ?_) ?_ same
  · intro string member
    simp only [List.mem_append] at member ⊢
    grind
  · -- a leaf has a string of its own, which is no pair's
    intro node member string paired hashed
    obtain ⟨leaf, known, rfl⟩ := List.mem_map.mp (mem_of_mem_padded member)
    have equal := free string (by simp [paired]) leaf (by simp [known]) hashed
    obtain ⟨above, -, inside⟩ := List.mem_flatMap.mp paired
    exact lengths leaf known (equal ▸ length_of_mem_pairStrings inside)

theorem eq_of_root (nonempty : strings ≠ []) (othersNonempty : others ≠ [])
    (lengths : ∀ string ∈ strings ++ others, string.length ≠ 64)
    (distinct : strings.Nodup) (othersDistinct : others.Nodup)
    (free : CollisionFree ((strings ++ treeStrings (strings.map keccak256)) ++
      (others ++ treeStrings (others.map keccak256))))
    (same : root (strings.map keccak256) = root (others.map keccak256)) : strings = others := by
  have swapped := free.mono List.perm_append_comm.subset
  have filled : padded (strings.map keccak256) = padded (others.map keccak256) := by
    rw [List.forall_mem_append] at lengths
    rcases Nat.le_total (heightFor strings.length) (heightFor others.length) with lower | higher
    · exact padded_eq_of_root nonempty othersNonempty lengths.1 free lower same
    · exact (padded_eq_of_root othersNonempty nonempty lengths.2 swapped higher same.symm).symm
  have within : strings ⊆ (strings ++ treeStrings (strings.map keccak256)) ++
      (others ++ treeStrings (others.map keccak256)) := fun string member => by simp [member]
  have othersWithin : others ⊆ (strings ++ treeStrings (strings.map keccak256)) ++
      (others ++ treeStrings (others.map keccak256)) := fun string member => by simp [member]
  have leaves := congrArg List.dedup filled
  rw [dedup_padded (free.nodup_map within distinct),
    dedup_padded (free.nodup_map othersWithin othersDistinct)] at leaves
  exact free.eq_of_map within othersWithin leaves

end

end Merkle

namespace AllocationTable

variable {table other : AllocationTable}

theorem nodup_leafBytes (distinct : (table.map (·.address)).Nodup) :
    (table.map Allocation.leafBytes).Nodup :=
  distinct.of_map.map fun _ _ => Allocation.leafBytes_injective

theorem eq_of_root (nonempty : table ≠ []) (otherNonempty : other ≠ [])
    (distinct : (table.map (·.address)).Nodup) (otherDistinct : (other.map (·.address)).Nodup)
    (free : CollisionFree (table.hashedStrings ++ other.hashedStrings))
    (same : table.root = other.root) : table = other := by
  rw [hashedStrings, hashedStrings, leaves_eq_map, leaves_eq_map] at free
  rw [root, root, leaves_eq_map, leaves_eq_map] at same
  have strings := Merkle.eq_of_root (by simpa using nonempty) (by simpa using otherNonempty)
    (List.forall_mem_append.mpr ⟨length_ne_of_mem_leafBytes, length_ne_of_mem_leafBytes⟩)
    (nodup_leafBytes distinct) (nodup_leafBytes otherDistinct) free same
  exact List.map_injective_iff.mpr (fun _ _ => Allocation.leafBytes_injective) strings

/-- Tables in which no address stands twice have one root only if they are one table; and only the
table itself passes for the one whose root is given with it. -/
theorem root_commits (nonempty : table ≠ []) (otherNonempty : other ≠ [])
    (distinct : (table.map (·.address)).Nodup) (otherDistinct : (other.map (·.address)).Nodup)
    (free : CollisionFree (table.hashedStrings ++ other.hashedStrings)) :
    (table.root = other.root ↔ table = other) ∧
      (Descriptor.checkRoot other (some table.root) = .ok () ↔ table = other) := by
  have commits : table.root = other.root ↔ table = other :=
    ⟨eq_of_root nonempty otherNonempty distinct otherDistinct free, congrArg root⟩
  refine ⟨commits, ?_⟩
  rw [Descriptor.checkRoot_eq_ok_iff, ← commits]
  constructor
  · exact fun passes => (passes _ rfl otherNonempty).symm
  · intro same given known _
    exact same.symm.trans (Option.some.inj known)

end AllocationTable

/-- Two shares, in a tree of two levels, and the first of them alone, which is its own root. -/
theorem root_commits_two_shares :
    Market.shares.root ≠ AllocationTable.root [⟨Market.holder, 5, 0⟩] ∧
      Descriptor.checkRoot [⟨Market.holder, 5, 0⟩] (some Market.shares.root) ≠ .ok () := by
  have single : Merkle.treeStrings (AllocationTable.leaves [⟨Market.holder, 5, 0⟩]) = [] := by
    rw [Merkle.treeStrings, AllocationTable.leaves, List.map_singleton, Merkle.levels_singleton]
    rfl
  have free : CollisionFree (Market.shares.hashedStrings ++
      AllocationTable.hashedStrings [⟨Market.holder, 5, 0⟩]) := by
    refine Market.collisionFree_shares.mono fun string member => ?_
    rw [AllocationTable.hashedStrings, AllocationTable.hashedStrings, single] at member
    simp only [AllocationTable.hashedStrings, Market.shares, List.mem_append, List.map_cons,
      List.map_nil, List.mem_cons] at member ⊢
    grind
  have commits := AllocationTable.root_commits (by simp [Market.shares]) (by simp) (by decide)
    (by decide) free
  have apart : Market.shares ≠ [⟨Market.holder, 5, 0⟩] := by decide
  exact ⟨fun same => apart (commits.1.mp same), fun passes => apart (commits.2.mp passes)⟩

end TokenClaim
