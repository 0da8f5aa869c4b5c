import Mathlib.Data.List.Forall2
import TokenClaim.Text.Numeral
/-!
Numbers below a bound are read exactly: the reader takes digits whose number is below the bound,
with at most one plus sign in front, and nothing else. The bound is looked at after each digit, but
as a number only grows with its digits, that is the same as looking once at the end.
-/

set_option autoImplicit false

namespace TokenClaim.Text.Numeral

variable {base bound start value : Nat} {digits : List Nat} {chars : List Char}

/-- The number whose last digits are given, after the number of those before. -/
def followed (base start : Nat) (digits : List Nat) : Nat :=
  digits.foldl (fun value digit => value * base + digit) start

theorem le_followed (positive : 0 < base) (start : Nat) (digits : List Nat) :
    start ≤ followed base start digits := by
  induction digits generalizing start with
  | nil => exact Nat.le_refl start
  | cons digit digits ih =>
    calc start ≤ start * base := Nat.le_mul_of_pos_right start positive
      _ ≤ start * base + digit := Nat.le_add_right _ digit
      _ ≤ followed base start (digit :: digits) := ih _

theorem readDigits_eq_ok_iff (positive : 0 < base) (below : start < bound) :
    readDigits base bound start chars = .ok value ↔
      value < bound ∧ ∃ digits, List.Forall₂ (digit? base · = some ·) chars digits ∧
        followed base start digits = value := by
  induction chars generalizing start with
  | nil =>
    simp only [readDigits, Except.ok.injEq, List.forall₂_nil_left_iff, exists_eq_left]
    constructor
    · rintro rfl
      exact ⟨below, rfl⟩
    · exact And.right
  | cons c chars ih =>
    simp only [readDigits, List.forall₂_cons_left_iff]
    cases read : digit? base c with
    | none => simp
    | some digit =>
      by_cases fits : start * base + digit < bound
      · simp only [if_pos fits, ih fits]
        constructor
        · rintro ⟨small, digits, alike, rfl⟩
          exact ⟨small, _, ⟨digit, digits, rfl, alike, rfl⟩, rfl⟩
        · rintro ⟨small, _, ⟨first, digits, same, alike, rfl⟩, rfl⟩
          cases same
          exact ⟨small, digits, alike, rfl⟩
      · simp only [if_neg fits]
        constructor
        · intro refused
          cases refused
        · rintro ⟨small, _, ⟨first, digits, same, -, rfl⟩, rfl⟩
          cases same
          have grown := le_followed positive (start * base + digit) digits
          exact absurd (Nat.lt_of_le_of_lt grown small) fits

theorem readBelow_eq_ok_iff :
    readBelow base bound chars = .ok value ↔ ∃ digits, digits ≠ [] ∧
      (chars = digits ∨ chars = '+' :: digits) ∧ readDigits base bound 0 digits = .ok value := by
  constructor
  · intro found
    unfold readBelow at found
    split at found
    · cases found
    · cases found
    · rename_i digits single
      exact ⟨digits, fun none => single (by rw [none]), Or.inr rfl, found⟩
    · rename_i some _ _
      exact ⟨chars, some, Or.inl rfl, found⟩
  · rintro ⟨digits, some, rfl | rfl, found⟩
    · unfold readBelow
      split
      · exact absurd rfl some
      · cases found
      · -- The sign would have been read as a digit.
        cases found
      · exact found
    · unfold readBelow
      split
      · rename_i none
        cases none
      · rename_i single
        exact absurd (List.cons.inj single).2 some
      · rename_i same
        rw [(List.cons.inj same).2] at found
        exact found
      · rename_i unsigned
        exact absurd rfl (unsigned digits)

theorem readWord64_eq_ok_iff (positive : 0 < base) {word : UInt64} :
    readWord64 base chars = .ok word ↔ readBelow base UInt64.size chars = .ok word.toNat := by
  rw [readWord64]
  constructor
  · intro found
    cases read : readBelow base UInt64.size chars with
    | error fault =>
      rw [read] at found
      cases found
    | ok value =>
      rw [read] at found
      cases found
      obtain ⟨digits, -, -, number⟩ := readBelow_eq_ok_iff.mp read
      have small := (readDigits_eq_ok_iff positive (by decide)).mp number
      rw [UInt64.toNat_ofNat_of_lt' small.1]
  · intro read
    rw [read]
    exact congrArg Except.ok UInt64.ofNat_toNat

end TokenClaim.Text.Numeral
