import Mathlib.Data.List.Nodup
import TokenClaim.Proofs.Merkle.Levels
/-!
What is proved by siblings that lead to a tree's root, where whoever gives them is free in the
index and in any number of siblings. As long as the hash tells the strings apart that are hashed for
the tree and on the way, every node on the way stands in the tree, and the first one is a leaf if it
is the hash of no pair of nodes.
-/

set_option autoImplicit false

namespace TokenClaim

/-- No two of the strings have the same hash. -/
def CollisionFree (strings : List Bytes) : Prop :=
  ∀ first ∈ strings, ∀ second ∈ strings, keccak256 first = keccak256 second → first = second

theorem CollisionFree.mono {strings more : List Bytes} (free : CollisionFree more)
    (within : strings ⊆ more) : CollisionFree strings :=
  fun first here second there => free first (within here) second (within there)

theorem CollisionFree.of_nodup {strings : List Bytes}
    (distinct : (strings.map keccak256).Nodup) : CollisionFree strings :=
  fun _ here _ there => List.inj_on_of_nodup_map distinct here there

namespace Merkle

def pairStrings : List Digest → List Bytes
  | left :: right :: rest => (left.toBytes ++ right.toBytes) :: pairStrings rest
  | _ => []

def treeStrings (leaves : List Digest) : List Bytes := (levels leaves).flatMap pairStrings

def parentString (node sibling : Digest) (index : Nat) : Bytes :=
  if index % 2 = 0 then node.toBytes ++ sibling.toBytes else sibling.toBytes ++ node.toBytes

def climbStrings (node : Digest) (index : Nat) : List Digest → List Bytes
  | [] => []
  | sibling :: above =>
    parentString node sibling index ::
      climbStrings (keccak256 (parentString node sibling index)) (index / 2) above

theorem parents_eq_map (level : List Digest) : parents level = (pairStrings level).map keccak256 := by
  fun_induction parents level with
  | case1 left right rest ih =>
    rw [ih]
    rfl
  | case2 level short =>
    rcases level with - | ⟨left, - | ⟨right, rest⟩⟩
    · rfl
    · rfl
    · exact absurd rfl (short left right rest)

theorem climb_cons (node sibling : Digest) (index : Nat) (above : List Digest) :
    climb node index (sibling :: above) =
      climb (keccak256 (parentString node sibling index)) (index / 2) above := by
  rw [climb, parentString]
  split <;> rfl

theorem exists_of_mem_pairStrings {level : List Digest} {string : Bytes}
    (member : string ∈ pairStrings level) :
    ∃ left ∈ level, ∃ right ∈ level, string = left.toBytes ++ right.toBytes := by
  fun_induction pairStrings level with
  | case1 left right rest ih =>
    rcases List.mem_cons.mp member with rfl | further
    · exact ⟨left, by simp, right, by simp, rfl⟩
    · obtain ⟨first, here, second, there, same⟩ := ih further
      exact ⟨first, by simp [here], second, by simp [there], same⟩
  | case2 => cases member

theorem mem_levelsFrom {level : List Digest} {node : Digest}
    (member : node ∈ (levelsFrom level).flatten) :
    node ∈ level ∨ ∃ left ∈ (levelsFrom level).flatten, ∃ right ∈ (levelsFrom level).flatten,
      left.toBytes ++ right.toBytes ∈ (levelsFrom level).flatMap pairStrings ∧
        keccak256 (left.toBytes ++ right.toBytes) = node := by
  -- Level by level: the next one holds hashes of this one's pairs.
  fun_induction levelsFrom level with
  | case1 level several ih =>
    rw [List.flatten_cons, List.mem_append] at member
    simp only [List.flatten_cons, List.mem_append, List.flatMap_cons]
    rcases member with first | above
    · exact Or.inl first
    rcases ih above with parent | ⟨left, here, right, there, hashed, same⟩
    · rw [parents_eq_map] at parent
      obtain ⟨string, paired, same⟩ := List.mem_map.mp parent
      obtain ⟨left, here, right, there, rfl⟩ := exists_of_mem_pairStrings paired
      exact Or.inr ⟨left, Or.inl here, right, Or.inl there, Or.inl paired, same⟩
    · exact Or.inr ⟨left, Or.inr here, right, Or.inr there, Or.inr hashed, same⟩
  | case2 level single => exact Or.inl (by simpa using member)

theorem rootOf_mem_levelsFrom {level : List Digest} (nonempty : level ≠ []) :
    rootOf (levelsFrom level) ∈ (levelsFrom level).flatten := by
  fun_induction levelsFrom level with
  | case1 level several ih =>
    have upper : parents level ≠ [] := by
      apply List.ne_nil_of_length_pos
      rw [length_parents]
      omega
    rw [rootOf_cons (levelsFrom_ne_nil _), List.flatten_cons]
    exact List.mem_append_right _ (ih upper)
  | case2 level single =>
    match level, nonempty with
    | node :: _, _ => simp [rootOf]

theorem length_parentString (node sibling : Digest) (index : Nat) :
    (parentString node sibling index).length = 64 := by
  unfold parentString
  split <;> simp [node.length_toBytes, sibling.length_toBytes]

theorem eq_or_eq_of_parentString {node sibling left right : Digest} {index : Nat}
    (same : parentString node sibling index = left.toBytes ++ right.toBytes) :
    node = left ∨ node = right := by
  -- Digests have one length, so that equal strings have equal halves.
  unfold parentString at same
  split at same
  · have halves := List.append_inj same (by rw [node.length_toBytes, left.length_toBytes])
    exact Or.inl (Octets.toBytes_injective halves.1)
  · have halves := List.append_inj same (by rw [sibling.length_toBytes, left.length_toBytes])
    exact Or.inr (Octets.toBytes_injective halves.2)

theorem mem_of_parent {strings : List Bytes} {level : List Digest} {node sibling : Digest}
    {index : Nat}
    (leafStrings : ∀ hash ∈ level, ∃ string ∈ strings, keccak256 string = hash)
    (lengths : ∀ string ∈ strings, string.length ≠ 64)
    (free : CollisionFree
      (parentString node sibling index :: strings ++ (levelsFrom level).flatMap pairStrings))
    (parent : keccak256 (parentString node sibling index) ∈ (levelsFrom level).flatten) :
    node ∈ (levelsFrom level).flatten := by
  rcases mem_levelsFrom parent with leaf | ⟨left, here, right, there, hashed, same⟩
  · -- a leaf is the hash of a string of another length
    obtain ⟨string, known, same⟩ := leafStrings _ leaf
    have equal := free string (by simp [known]) (parentString node sibling index) (by simp) same
    exact absurd (equal ▸ length_parentString node sibling index) (lengths string known)
  · -- an inner node has the string of its own pair, in which the node is one of the two
    have equal := free _ (by simp [hashed]) (parentString node sibling index) (by simp) same
    rcases eq_or_eq_of_parentString equal.symm with rfl | rfl
    · exact here
    · exact there

/-- Every node from which siblings lead to the top of a tree stands in the tree. -/
theorem mem_of_climb {strings : List Bytes} {level : List Digest} {node : Digest} {index : Nat}
    {path : List Digest} (nonempty : level ≠ [])
    (leafStrings : ∀ hash ∈ level, ∃ string ∈ strings, keccak256 string = hash)
    (lengths : ∀ string ∈ strings, string.length ≠ 64)
    (free : CollisionFree
      (climbStrings node index path ++ (strings ++ (levelsFrom level).flatMap pairStrings)))
    (reached : (climb node index path).1 = rootOf (levelsFrom level)) :
    node ∈ (levelsFrom level).flatten := by
  -- from the root down the siblings: each step finds the node one level below
  induction path generalizing node index with
  | nil =>
    rw [show node = rootOf (levelsFrom level) from reached]
    exact rootOf_mem_levelsFrom nonempty
  | cons sibling above ih =>
    rw [climb_cons] at reached
    have parent := ih (free.mono (List.subset_cons_self _ _)) reached
    refine mem_of_parent leafStrings lengths (free.mono ?_) parent
    intro string member
    simp only [climbStrings, List.cons_append, List.mem_cons, List.mem_append] at member ⊢
    grind

/-- A string whose hash is proved, and that is no string of an inner node, is that of a leaf. -/
theorem mem_of_verify {strings : List Bytes} {string : Bytes} {path : List Digest} {index : Nat}
    (nonempty : strings ≠ []) (lengths : ∀ leaf ∈ strings, leaf.length ≠ 64)
    (short : string.length ≠ 64)
    (free : CollisionFree (strings ++ treeStrings (strings.map keccak256) ++
      string :: climbStrings (keccak256 string) index path))
    (accepted : verify (keccak256 string) path (root (strings.map keccak256)) index = true) :
    string ∈ strings := by
  have filled : strings.map keccak256 ≠ [] := by simpa using nonempty
  have leafStrings : ∀ hash ∈ padded (strings.map keccak256),
      ∃ leaf ∈ strings, keccak256 leaf = hash :=
    fun hash member => List.mem_map.mp (mem_of_mem_padded member)
  rw [treeStrings, levels_of_ne_nil filled] at free
  have reached : (climb (keccak256 string) index path).1 =
      rootOf (levelsFrom (padded (strings.map keccak256))) := by
    rw [← levels_of_ne_nil filled]
    exact of_decide_eq_true (Bool.and_eq_true_iff.mp accepted).2
  have climbed : CollisionFree (climbStrings (keccak256 string) index path ++
      (strings ++ (levelsFrom (padded (strings.map keccak256))).flatMap pairStrings)) := by
    refine free.mono fun other member => ?_
    simp only [List.mem_append, List.mem_cons] at member ⊢
    grind
  have stands := mem_of_climb (padded_ne_nil filled) leafStrings lengths climbed reached
  rcases mem_levelsFrom stands with leaf | ⟨left, -, right, -, hashed, same⟩
  · obtain ⟨known, member, same⟩ := leafStrings _ leaf
    exact free known (by simp [member]) string (by simp) same ▸ member
  · -- the string would be that of an inner node, which is 64 bytes long
    have equal := free _ (by simp [hashed]) string (by simp) same
    refine absurd ?_ short
    rw [← equal, List.length_append, left.length_toBytes, right.length_toBytes]

end Merkle

end TokenClaim
