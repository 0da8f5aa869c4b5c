import Mathlib.Algebra.Ring.Nat
import TokenClaim.Merkle
/-!
The levels of a Merkle tree, and that the siblings which prove a leaf lead from it to the root, one
for each level below the root.
-/

set_option autoImplicit false

namespace TokenClaim.Merkle

theorem padded_ne_nil {leaves : List Digest} (nonempty : leaves ≠ []) : padded leaves ≠ [] := by
  rw [padded, List.getLast?_eq_some_getLast nonempty]
  exact List.append_ne_nil_of_left_ne_nil nonempty _

theorem length_padded {leaves : List Digest} (nonempty : leaves ≠ []) :
    (padded leaves).length = 2 ^ heightFor leaves.length := by
  have enough := le_widthFor leaves.length
  have width : widthFor leaves.length = 2 ^ heightFor leaves.length := rfl
  rw [padded, List.getLast?_eq_some_getLast nonempty]
  simp only [List.length_append, List.length_replicate]
  omega

theorem mem_of_mem_padded {leaves : List Digest} {node : Digest} (member : node ∈ padded leaves) :
    node ∈ leaves := by
  unfold padded at member
  cases last : leaves.getLast? with
  | none => simp [last] at member
  | some final =>
    rw [last] at member
    rcases List.mem_append.mp member with given | filled
    · exact given
    · rw [List.eq_of_mem_replicate filled]
      exact List.mem_of_getLast? last

theorem getElem?_padded {leaves : List Digest} {index : Nat} (inside : index < leaves.length) :
    (padded leaves)[index]? = leaves[index]? := by
  have nonempty : leaves ≠ [] := List.ne_nil_of_length_pos (Nat.zero_lt_of_lt inside)
  rw [padded, List.getLast?_eq_some_getLast nonempty]
  exact List.getElem?_append_left inside

theorem levelsFrom_of_lt {level : List Digest} (several : 1 < level.length) :
    levelsFrom level = level :: levelsFrom (parents level) := by
  rw [levelsFrom, if_pos several]

theorem levelsFrom_of_le {level : List Digest} (single : level.length ≤ 1) :
    levelsFrom level = [level] := by
  rw [levelsFrom, if_neg (Nat.not_lt.mpr single)]

theorem levelsFrom_singleton (only : Digest) : levelsFrom [only] = [[only]] :=
  levelsFrom_of_le (Nat.le_refl 1)

theorem levelsFrom_ne_nil (level : List Digest) : levelsFrom level ≠ [] := by
  rw [levelsFrom]
  split <;> simp

theorem levels_of_ne_nil {leaves : List Digest} (nonempty : leaves ≠ []) :
    levels leaves = levelsFrom (padded leaves) := by
  rw [levels, if_neg (by simpa using nonempty)]

theorem levels_singleton (only : Digest) : levels [only] = [[only]] := by
  have full : padded [only] = [only] := rfl
  rw [levels_of_ne_nil (by simp), full, levelsFrom_singleton]

theorem levels_pair (left right : Digest) :
    levels [left, right] = [[left, right], [join left right]] := by
  have full : padded [left, right] = [left, right] := rfl
  have above : parents [left, right] = [join left right] := rfl
  rw [levels_of_ne_nil (by simp), full, levelsFrom_of_lt (by simp), above, levelsFrom_singleton]

theorem rootOf_cons {level : List Digest} {above : List (List Digest)} (nonempty : above ≠ []) :
    rootOf (level :: above) = rootOf above := by
  rw [rootOf, rootOf, List.getLast?_cons, List.getLast?_eq_some_getLast nonempty]
  rfl

theorem getElem?_parents {level : List Digest} {index : Nat} {left right : Digest}
    (first : level[2 * index]? = some left) (second : level[2 * index + 1]? = some right) :
    (parents level)[index]? = some (join left right) := by
  induction index generalizing level with
  | zero =>
    match level, first, second with
    | _ :: _ :: _, rfl, rfl => rfl
  | succ index ih =>
    match level, first, second with
    | _ :: _ :: rest, first, second =>
      exact @ih rest first second

theorem getElem?_parents_of_sibling {level : List Digest} {index : Nat} {node sibling : Digest}
    (here : level[index]? = some node) (beside : level[siblingIndex index]? = some sibling) :
    (parents level)[index / 2]? =
      some (if index % 2 = 0 then join node sibling else join sibling node) := by
  unfold siblingIndex at beside
  -- an even index is that of a left node, an odd one that of a right node
  rcases Nat.mod_two_eq_zero_or_one index with even | odd
  · have whole : 2 * (index / 2) = index := by omega
    rw [if_pos even] at beside ⊢
    exact getElem?_parents (by rwa [whole]) (by rwa [whole])
  · have left : 2 * (index / 2) = index - 1 := by omega
    have right : 2 * (index / 2) + 1 = index := by omega
    rw [if_neg (by omega)] at beside ⊢
    exact getElem?_parents (by rwa [left]) (by rwa [right])

theorem siblings_cons {level : List Digest} {above : List (List Digest)} {index : Nat}
    {sibling : Digest} {path : List Digest} (nonempty : above ≠ [])
    (beside : level[siblingIndex index]? = some sibling)
    (rest : siblings (index / 2) above = some path) :
    siblings index (level :: above) = some (sibling :: path) := by
  match above, nonempty with
  | next :: higher, _ =>
    rw [siblings, beside, Option.bind_eq_bind, Option.bind_some, rest]
    rfl

theorem exists_siblings {height : Nat} {level : List Digest} {index : Nat} {node : Digest}
    (full : level.length = 2 ^ height) (here : level[index]? = some node) :
    ∃ path, siblings index (levelsFrom level) = some path ∧ path.length = height ∧
      climb node index path = (rootOf (levelsFrom level), 0) := by
  -- One level up the width is halved, and the node's parent stands at half the index.
  induction height generalizing level index node with
  | zero =>
    obtain ⟨only, rfl⟩ := List.length_eq_one_iff.mp full
    obtain ⟨inside, rfl⟩ := List.getElem?_eq_some_iff.mp here
    have first : index = 0 := Nat.lt_one_iff.mp inside
    subst first
    rw [levelsFrom_singleton]
    exact ⟨[], rfl, rfl, rfl⟩
  | succ height ih =>
    obtain ⟨inside, -⟩ := List.getElem?_eq_some_iff.mp here
    have half := Nat.two_pow_succ height
    have several : 1 < level.length := by
      have positive := Nat.two_pow_pos height
      omega
    have within : siblingIndex index < level.length := by
      unfold siblingIndex
      split <;> omega
    obtain ⟨sibling, beside⟩ : ∃ sibling, level[siblingIndex index]? = some sibling :=
      ⟨_, List.getElem?_eq_getElem within⟩
    have parent := getElem?_parents_of_sibling here beside
    have halved : (parents level).length = 2 ^ height := by
      rw [length_parents]
      omega
    obtain ⟨path, proved, length, climbed⟩ := ih halved parent
    have nonempty := levelsFrom_ne_nil (parents level)
    rw [levelsFrom_of_lt several]
    refine ⟨sibling :: path, siblings_cons nonempty beside proved, congrArg (· + 1) length, ?_⟩
    rw [climb, climbed, rootOf_cons nonempty]

/-- Each leaf has a proof, as long as the tree is high, and the proof is accepted. -/
theorem exists_prove {leaves : List Digest} {index : Nat} {leaf : Digest}
    (here : leaves[index]? = some leaf) :
    ∃ path, prove? leaves index = some path ∧ path.length = heightFor leaves.length ∧
      verify leaf path (root leaves) index = true := by
  obtain ⟨inside, -⟩ := List.getElem?_eq_some_iff.mp here
  have nonempty : leaves ≠ [] := List.ne_nil_of_length_pos (Nat.zero_lt_of_lt inside)
  obtain ⟨path, proved, length, climbed⟩ := exists_siblings (length_padded nonempty)
    ((getElem?_padded inside).trans here)
  refine ⟨path, ?_, length, ?_⟩
  · rw [prove?, if_pos inside, levels_of_ne_nil nonempty, proved]
  · rw [verify, climbed, root, levels_of_ne_nil nonempty]
    simp

end TokenClaim.Merkle
