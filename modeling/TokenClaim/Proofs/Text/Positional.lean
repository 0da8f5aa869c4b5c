import Mathlib.Data.List.Induction
import Mathlib.Data.List.TakeWhile
import TokenClaim.Text.Base58
/-!
Numbers as digits of a base. Digits without a zero in front are those of their number, so that
digits of one base can be rewritten in another and back as long as the zeros in front are counted.
-/

set_option autoImplicit false

namespace TokenClaim.Text

variable {base : Nat} {digits : List Nat}

theorem ofPositional_concat (base : Nat) (digits : List Nat) (digit : Nat) :
    ofPositional base (digits ++ [digit]) = ofPositional base digits * base + digit := by
  simp [ofPositional]

theorem ofPositional_zeros (base count : Nat) (digits : List Nat) :
    ofPositional base (List.replicate count 0 ++ digits) = ofPositional base digits := by
  induction count with
  | zero => rfl
  | succ count ih =>
    rw [List.replicate_succ, List.cons_append, ← ih]
    simp [ofPositional]

/-- What is written of a number in a base: digits of that base, without a zero in front. -/
structure Canonical (base : Nat) (digits : List Nat) : Prop where
  small : ∀ digit ∈ digits, digit < base
  leading : digits.head? ≠ some 0

theorem Canonical.of_concat {digit : Nat} (canonical : Canonical base (digits ++ [digit])) :
    Canonical base digits where
  small other member := canonical.small other (List.mem_append_left _ member)
  leading zero := canonical.leading (by rw [List.head?_append, zero]; rfl)

theorem positional_zero (base : Nat) : positional base 0 = [] := by
  rw [positional, if_neg fun both => both.2 rfl]

section Base
variable (proper : 2 ≤ base)
include proper

theorem positional_of_pos {value : Nat} (positive : 0 < value) :
    positional base value = positional base (value / base) ++ [value % base] := by
  rw [positional, if_pos ⟨proper, positive.ne'⟩]

theorem ofPositional_positional (value : Nat) :
    ofPositional base (positional base value) = value := by
  induction value using Nat.strongRecOn with
  | ind value ih =>
    rcases Nat.eq_zero_or_pos value with rfl | positive
    · rw [positional_zero base]
      rfl
    · rw [positional_of_pos proper positive, ofPositional_concat,
        ih _ (Nat.div_lt_self positive proper), Nat.div_add_mod']

theorem positional_canonical (value : Nat) : Canonical base (positional base value) := by
  induction value using Nat.strongRecOn with
  | ind value ih =>
    rcases Nat.eq_zero_or_pos value with rfl | positive
    · rw [positional_zero base]
      exact ⟨by simp, by simp⟩
    · have higher := ih _ (Nat.div_lt_self positive proper)
      rw [positional_of_pos proper positive]
      constructor
      · intro digit member
        rcases List.mem_append.mp member with earlier | last
        · exact higher.small digit earlier
        · rw [List.mem_singleton.mp last]
          exact Nat.mod_lt _ (by omega)
      · intro zero
        rw [List.head?_append] at zero
        cases first : (positional base (value / base)).head? with
        | some digit =>
          rw [first] at zero
          exact higher.leading (first.trans zero)
        | none =>
          -- A number of one digit is that digit.
          have single := ofPositional_positional proper (value / base)
          rw [List.head?_eq_none_iff.mp first] at single
          rw [first] at zero
          have last : value % base = 0 := Option.some.inj zero
          have whole := Nat.div_add_mod value base
          rw [last, ← single] at whole
          exact positive.ne' (whole.symm.trans (Nat.mul_zero base))

theorem positional_ofPositional (canonical : Canonical base digits) :
    positional base (ofPositional base digits) = digits := by
  induction digits using List.reverseRecOn with
  | nil => exact positional_zero base
  | append_singleton digits digit ih =>
    have small := canonical.small digit (List.mem_append_right _ (List.mem_singleton_self digit))
    have earlier := ih canonical.of_concat
    have quotient :
        (ofPositional base digits * base + digit) / base = ofPositional base digits := by
      rw [Nat.add_comm, Nat.add_mul_div_right _ _ (by omega), Nat.div_eq_of_lt small, Nat.zero_add]
    have remainder : (ofPositional base digits * base + digit) % base = digit := by
      rw [Nat.add_comm, Nat.add_mul_mod_self_right, Nat.mod_eq_of_lt small]
    have positive : 0 < ofPositional base digits * base + digit := by
      rcases Nat.eq_zero_or_pos (ofPositional base digits) with zero | positive
      · -- Nothing is before the last digit then, so that it is the leading one.
        rw [zero, positional_zero base] at earlier
        subst earlier
        have leading : digit ≠ 0 := fun none => canonical.leading (by rw [none]; rfl)
        omega
      · exact Nat.add_pos_left (Nat.mul_pos positive (by omega)) _
    rw [ofPositional_concat, positional_of_pos proper positive, quotient, remainder, earlier]

end Base

def zeros (digits : List Nat) : Nat := (digits.takeWhile (· == 0)).length

theorem zeros_append {count : Nat} (leading : digits.head? ≠ some 0) :
    zeros (List.replicate count 0 ++ digits) = count := by
  induction count with
  | zero =>
    cases digits with
    | nil => rfl
    | cons first rest =>
      have nonzero : first ≠ 0 := fun zero => leading (congrArg some zero)
      simp [zeros, nonzero]
  | succ count ih =>
    rw [List.replicate_succ, List.cons_append]
    exact congrArg (· + 1) ih

theorem exists_zeros_append (small : ∀ digit ∈ digits, digit < base) :
    ∃ tail, digits = List.replicate (zeros digits) 0 ++ tail ∧ Canonical base tail := by
  have front : digits.takeWhile (· == 0) = List.replicate (zeros digits) 0 :=
    List.eq_replicate_of_mem fun digit member => by
      simpa using List.mem_takeWhile_imp member
  refine ⟨digits.dropWhile (· == 0), ?_, ?_, ?_⟩
  · rw [← front, List.takeWhile_append_dropWhile]
  · exact fun digit member => small digit ((List.dropWhile_sublist _).subset member)
  · intro zero
    have kept := List.head?_dropWhile_not (· == 0) digits
    rw [zero] at kept
    cases kept

/-- The digits of one base rewritten in another, zero by zero and then the number. -/
def rebase (source target : Nat) (digits : List Nat) : List Nat :=
  List.replicate (zeros digits) 0 ++ positional target (ofPositional source digits)

theorem rebase_lt (source : Nat) {target : Nat} (proper : 2 ≤ target) (digits : List Nat) :
    ∀ digit ∈ rebase source target digits, digit < target := by
  intro digit member
  rcases List.mem_append.mp member with zero | written
  · rw [List.eq_of_mem_replicate zero]
    omega
  · exact (positional_canonical proper _).small digit written

theorem rebase_rebase {source target : Nat} (fromProper : 2 ≤ source) (toProper : 2 ≤ target)
    (small : ∀ digit ∈ digits, digit < source) :
    rebase target source (rebase source target digits) = digits := by
  obtain ⟨tail, split, canonical⟩ := exists_zeros_append small
  have number : ofPositional source digits = ofPositional source tail := by
    rw [split, ofPositional_zeros]
  have leading := (positional_canonical toProper (ofPositional source digits)).leading
  calc rebase target source (rebase source target digits)
      = List.replicate (zeros digits) 0 ++ positional source (ofPositional source digits) := by
        rw [rebase, rebase, zeros_append leading, ofPositional_zeros,
          ofPositional_positional toProper]
    _ = List.replicate (zeros digits) 0 ++ tail := by
        rw [number, positional_ofPositional fromProper canonical]
    _ = digits := split.symm

end TokenClaim.Text
