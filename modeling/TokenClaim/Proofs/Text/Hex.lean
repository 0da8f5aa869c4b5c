import TokenClaim.Proofs.Checked
import TokenClaim.Proofs.Text.Utf8
import TokenClaim.Text.Hex
/-!
Hexadecimal digits in either case. Bytes are read from any text that is theirs but for the case of
its letters.
-/

set_option autoImplicit false

namespace TokenClaim.Text.Hex

section Digits

variable {c : Char} {value : Nat}

structure IsDigit (c : Char) (value : Nat) : Prop where
  small : value < 16
  lower : c.toLower = digit value

theorem toNat_digit :
    ∀ value < 16, (digit value).toNat = if value < 10 then 48 + value else 87 + value := by
  decide

theorem toNat_toLower (c : Char) :
    c.toLower.toNat = if 65 ≤ c.toNat ∧ c.toNat ≤ 90 then c.toNat + 32 else c.toNat := by
  have range : c.val ≥ 'A'.val ∧ c.val ≤ 'Z'.val ↔ 65 ≤ c.toNat ∧ c.toNat ≤ 90 := by
    rw [ge_iff_le, UInt32.le_iff_toNat_le, UInt32.le_iff_toNat_le]
    rfl
  unfold Char.toLower
  by_cases upper : 65 ≤ c.toNat ∧ c.toNat ≤ 90
  · have shifted : (c.val + ('a'.val - 'A'.val)).toNat = c.toNat + 32 := by
      rw [UInt32.toNat_add, Char.toNat_val]
      change (c.toNat + 32) % 2 ^ 32 = c.toNat + 32
      omega
    rw [dif_pos (range.mpr upper), if_pos upper]
    exact shifted
  · rw [dif_neg (mt range.mp upper), if_neg upper]

/-- The codes of the digits: `0` to `9`, `a` to `f` and `A` to `F`. -/
theorem isDigit_iff :
    IsDigit c value ↔ 48 ≤ c.toNat ∧ c.toNat ≤ 57 ∧ value = c.toNat - 48 ∨
      97 ≤ c.toNat ∧ c.toNat ≤ 102 ∧ value = c.toNat - 87 ∨
      65 ≤ c.toNat ∧ c.toNat ≤ 70 ∧ value = c.toNat - 55 := by
  have lowered := toNat_toLower c
  constructor
  · rintro ⟨small, lower⟩
    have same := toNat_digit value small
    rw [← lower, lowered] at same
    split at same <;> split at same <;> omega
  · intro range
    have small : value < 16 := by omega
    refine ⟨small, Char.toNat_inj.mp ?_⟩
    rw [lowered, toNat_digit value small]
    split <;> split <;> omega

theorem IsDigit.ascii (isDigit : IsDigit c value) : c.toNat < 128 := by
  have range := isDigit_iff.mp isDigit
  omega

theorem digitValue?_code (isDigit : IsDigit c value) : digitValue? (code c) = some value := by
  have same := toNat_code isDigit.ascii
  have range := isDigit_iff.mp isDigit
  simp only [digitValue?, Bool.and_eq_true, decide_eq_true_eq, UInt8.le_iff_toNat_le, same,
    UInt8.reduceToNat]
  split
  · congr 1
    omega
  split
  · congr 1
    omega
  split
  · congr 1
    omega
  · omega

end Digits

/-- The digits of bytes, but for the case of letters. -/
def Spells (digits : List Char) (bytes : Bytes) : Prop :=
  digits.map Char.toLower = encodeChars bytes

namespace Spells

variable {digits : List Char} {bytes : Bytes}

theorem eq_nil (spells : Spells digits []) : digits = [] := List.map_eq_nil_iff.mp spells

theorem eq_cons {byte : UInt8} (spells : Spells digits (byte :: bytes)) :
    ∃ high low rest, digits = high :: low :: rest ∧ IsDigit high (byte.toNat / 16) ∧
      IsDigit low (byte.toNat % 16) ∧ Spells rest bytes := by
  have small := byte.toNat_lt
  have pair : digits.map Char.toLower =
      digit (byte.toNat / 16) :: digit (byte.toNat % 16) :: encodeChars bytes := spells
  obtain ⟨high, after, rfl, upper, further⟩ := List.map_eq_cons_iff.mp pair
  obtain ⟨low, rest, rfl, lower, others⟩ := List.map_eq_cons_iff.mp further
  exact ⟨high, low, rest, rfl, ⟨by omega, upper⟩, ⟨by omega, lower⟩, others⟩

theorem ne_nil (spells : Spells digits bytes) (nonempty : bytes ≠ []) : digits ≠ [] := by
  cases bytes with
  | nil => exact absurd rfl nonempty
  | cons byte bytes =>
    obtain ⟨high, low, rest, rfl, -⟩ := spells.eq_cons
    exact List.cons_ne_nil _ _

theorem all_digits (spells : Spells digits bytes) : ∀ c ∈ digits, ∃ value, IsDigit c value := by
  induction bytes generalizing digits with
  | nil =>
    rw [spells.eq_nil]
    intro c none
    cases none
  | cons byte bytes ih =>
    obtain ⟨high, low, rest, rfl, upper, lower, others⟩ := spells.eq_cons
    simp only [List.forall_mem_cons]
    exact ⟨⟨_, upper⟩, ⟨_, lower⟩, ih others⟩

theorem length_eq (spells : Spells digits bytes) : digits.length = 2 * bytes.length := by
  induction bytes generalizing digits with
  | nil => rw [spells.eq_nil]; rfl
  | cons byte bytes ih =>
    obtain ⟨high, low, rest, rfl, -, -, others⟩ := spells.eq_cons
    simp only [List.length_cons, ih others]
    omega

theorem decodePairs (spells : Spells digits bytes) (position : Nat) :
    decodePairs position (digits.map code) = .ok bytes := by
  induction bytes generalizing digits position with
  | nil => rw [spells.eq_nil]; rfl
  | cons byte bytes ih =>
    obtain ⟨high, low, rest, rfl, upper, lower, others⟩ := spells.eq_cons
    have halves : UInt8.ofNat (16 * (byte.toNat / 16) + byte.toNat % 16) = byte := by
      rw [Nat.div_add_mod, UInt8.ofNat_toNat]
    simp only [List.map_cons, Hex.decodePairs, readDigit, digitValue?_code upper,
      digitValue?_code lower, ih others, ok_bind, halves]
    rfl

theorem decode (spells : Spells digits bytes) : decode (String.ofList digits) = .ok bytes := by
  have ascii : ∀ c ∈ digits, c.toNat < 128 := by
    intro c member
    obtain ⟨value, isDigit⟩ := spells.all_digits c member
    exact isDigit.ascii
  have even : (digits.map code).length % 2 = 0 := by
    rw [List.length_map, spells.length_eq]
    omega
  rw [Hex.decode, utf8_ofList_ascii ascii, decodeBytes, if_pos even, spells.decodePairs]

end Spells

end TokenClaim.Text.Hex
