import TokenClaim.Hash.Keccak
/-!
Merkle trees over a list of hashes. The list is filled up with its last hash to a power of two;
every level above holds the hashes of neighbouring pairs.
-/

set_option autoImplicit false

namespace TokenClaim.Merkle

def join (left right : Digest) : Digest := keccak256 (left.toBytes ++ right.toBytes)

/-- The parents of neighbouring nodes; a node without a neighbour has none. -/
def parents : List Digest → List Digest
  | left :: right :: rest => join left right :: parents rest
  | _ => []

theorem length_parents (level : List Digest) : (parents level).length = level.length / 2 := by
  fun_induction parents level with
  | case1 left right rest ih => simp only [List.length_cons, ih]; omega
  | case2 level short =>
    match level, short with
    | [], _ => rfl
    | [_], _ => simp
    | left :: right :: rest, short => exact absurd rfl (short left right rest)

def heightFor (count : Nat) : Nat := if count ≤ 1 then 0 else (count - 1).log2 + 1

/-- The smallest power of two that is at least `count`. -/
def widthFor (count : Nat) : Nat := Nat.pow 2 (heightFor count)

theorem le_widthFor (count : Nat) : count ≤ widthFor count := by
  unfold widthFor heightFor
  split
  · assumption
  · exact Nat.le_of_pred_lt Nat.lt_log2_self

def padded (leaves : List Digest) : List Digest :=
  match leaves.getLast? with
  | some last => leaves ++ List.replicate (widthFor leaves.length - leaves.length) last
  | none => []

def levelsFrom (level : List Digest) : List (List Digest) :=
  if 1 < level.length then level :: levelsFrom (parents level) else [level]
termination_by level.length
decreasing_by rw [length_parents]; omega

/-- The levels from the leaves to the root. Without leaves there is one level with one zero hash. -/
def levels (leaves : List Digest) : List (List Digest) :=
  if leaves.isEmpty then [[Octets.replicate 32 0]] else levelsFrom (padded leaves)

def rootOf (levels : List (List Digest)) : Digest :=
  ((levels.getLast?.bind List.head?)).getD (Octets.replicate 32 0)

def root (leaves : List Digest) : Digest := rootOf (levels leaves)

def siblingIndex (index : Nat) : Nat := if index % 2 = 0 then index + 1 else index - 1

def siblings : Nat → List (List Digest) → Option (List Digest)
  | index, level :: next :: rest => do
    let sibling ← level[siblingIndex index]?
    let above ← siblings (index / 2) (next :: rest)
    return sibling :: above
  | _, _ => some []

def prove? (leaves : List Digest) (index : Nat) : Option (List Digest) :=
  if index < leaves.length then siblings index (levels leaves) else none

/-- Climb from a node by its siblings: the node reached, and what is left of the index. -/
def climb (node : Digest) (index : Nat) : List Digest → Digest × Nat
  | [] => (node, index)
  | sibling :: above =>
    climb (if index % 2 = 0 then join node sibling else join sibling node) (index / 2) above

def verify (leaf : Digest) (siblings : List Digest) (root : Digest) (index : Nat) : Bool :=
  let (top, left) := climb leaf index siblings
  left = 0 && top = root

end TokenClaim.Merkle
