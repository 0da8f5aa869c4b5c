import Mathlib.Algebra.Ring.Nat
import TokenClaim.Proofs.Checked
import TokenClaim.Wire.Varint
/-!
Numbers, keys and lengths on the wire: a reader takes back what was written and leaves what follows,
and it always takes something.
-/

set_option autoImplicit false

namespace TokenClaim.Wire

namespace Varint

theorem write_of_lt {value : Nat} (small : value < 128) : write value = [UInt8.ofNat value] := by
  rw [write, if_pos small]

theorem write_of_le {value : Nat} (large : 128 ≤ value) :
    write value = UInt8.ofNat (128 + value % 128) :: write (value / 128) := by
  rw [write, if_neg (Nat.not_lt.mpr large)]

theorem write_ne_nil (value : Nat) : write value ≠ [] := by
  rw [write]
  split <;> simp

/-- With `left + 1` bytes allowed, the last of them has one bit to give. -/
theorem readUpTo_write {left value : Nat} (rest : Bytes) (fits : value < 2 * 128 ^ left) :
    readUpTo (left + 1) (write value ++ rest) = some (value, rest) := by
  induction left generalizing value with
  | zero =>
    have bit : (UInt8.ofNat value).toNat = value := by
      rw [UInt8.toNat_ofNat']
      omega
    rw [write_of_lt (by omega), List.singleton_append, readUpTo, bit, if_pos (by omega),
      if_neg (by omega)]
  | succ left ih =>
    by_cases small : value < 128
    · have byte : (UInt8.ofNat value).toNat = value := by
        rw [UInt8.toNat_ofNat']
        omega
      rw [write_of_lt small, List.singleton_append, readUpTo, byte, if_pos small,
        if_neg (by omega)]
    · have byte : (UInt8.ofNat (128 + value % 128)).toNat = 128 + value % 128 := by
        rw [UInt8.toNat_ofNat']
        omega
      have further : value / 128 < 2 * 128 ^ left := by
        rw [Nat.pow_succ] at fits
        omega
      have digits : 128 + value % 128 - 128 + 128 * (value / 128) = value := by omega
      rw [write_of_le (Nat.not_lt.mp small), List.cons_append, readUpTo, if_neg (by omega),
        ih further, Option.map_some, byte]
      simp only [digits]

theorem read_write {value : Nat} (rest : Bytes) (fits : value < 2 ^ 64) :
    read (write value ++ rest) = .ok (value, rest) := by
  have ten : readUpTo (9 + 1) (write value ++ rest) = some (value, rest) :=
    readUpTo_write rest fits
  rw [read, ten]

theorem length_write_le {count value : Nat} (fits : value < 128 ^ (count + 1)) :
    (write value).length ≤ count + 1 := by
  induction count generalizing value with
  | zero =>
    have single : write value = [UInt8.ofNat value] := write_of_lt (by omega)
    simp [single]
  | succ count ih =>
    by_cases small : value < 128
    · rw [write_of_lt small, List.length_singleton]
      omega
    · have further : value / 128 < 128 ^ (count + 1) := by
        rw [Nat.pow_succ] at fits
        omega
      rw [write_of_le (Nat.not_lt.mp small), List.length_cons]
      exact Nat.succ_le_succ (ih further)

theorem length_write_le_ten {value : Nat} (fits : value < 2 ^ 64) : (write value).length ≤ 10 := by
  have digits : value < 128 ^ (9 + 1) := by omega
  exact length_write_le digits

theorem read_eq_ok_iff {value : Nat} {data rest : Bytes} :
    read data = .ok (value, rest) ↔ readUpTo 10 data = some (value, rest) := by
  unfold read
  split
  · rename_i found
    rw [found, Except.ok.injEq, Option.some.injEq]
  · rename_i none
    simp [none]

theorem readUpTo_first {left value : Nat} {data rest : Bytes}
    (found : readUpTo left data = some (value, rest)) :
    ∃ first tail, data = first :: tail ∧ first.toNat % 128 = value % 128 ∧ rest <:+ tail := by
  induction left generalizing value data with
  | zero => cases found
  | succ left ih =>
    cases data with
    | nil => cases found
    | cons byte tail =>
      refine ⟨byte, tail, rfl, ?_⟩
      rw [readUpTo] at found
      split at found
      · split at found
        · cases found
        · cases found
          exact ⟨rfl, List.suffix_rfl⟩
      · obtain ⟨⟨high, after⟩, inner, same⟩ := Option.map_eq_some_iff.mp found
        cases same
        obtain ⟨second, further, rfl, -, behind⟩ := ih inner
        exact ⟨by omega, behind.trans (List.suffix_cons _ _)⟩

theorem read_first {value : Nat} {data rest : Bytes} (found : read data = .ok (value, rest)) :
    ∃ first tail, data = first :: tail ∧ first.toNat % 128 = value % 128 ∧ rest <:+ tail :=
  readUpTo_first (read_eq_ok_iff.mp found)

theorem read_shortens {value : Nat} {data rest : Bytes} (found : read data = .ok (value, rest)) :
    rest.length < data.length := by
  obtain ⟨first, tail, rfl, -, behind⟩ := read_first found
  exact Nat.lt_succ_of_le behind.length_le

end Varint

def validNumber (number : Nat) : Bool := 0 < number && number < 2 ^ 29

theorem readKey_writeKey {number : Nat} (type : WireType) (rest : Bytes)
    (valid : validNumber number = true) :
    readKey (writeKey number type ++ rest) = .ok (number, type, rest) := by
  simp only [validNumber, Bool.and_eq_true, decide_eq_true_eq] at valid
  have low := type.code_lt
  have code : (8 * number + type.code) % 8 = type.code := by omega
  have high : (8 * number + type.code) / 8 = number := by omega
  have small : ¬UInt32.size ≤ 8 * number + type.code := by
    simp only [UInt32.size]
    omega
  have key : Varint.read (Varint.write (8 * number + type.code) ++ rest) =
      .ok (8 * number + type.code, rest) := Varint.read_write rest (by omega)
  simp only [readKey, writeKey, key, ok_bind, if_neg small, code, high, WireType.ofCode?_code,
    if_neg (Nat.ne_of_gt valid.1)]
  rfl

theorem readLength_write {length : Nat} {rest : Bytes} (fits : length < 2 ^ 64)
    (enough : length ≤ rest.length) :
    readLength (Varint.write length ++ rest) = .ok (length, rest) := by
  simp only [readLength, Varint.read_write rest fits, ok_bind, if_neg (Nat.not_lt.mpr enough)]
  rfl

theorem readKey_eq_ok {number : Nat} {type : WireType} {data rest : Bytes}
    (found : readKey data = .ok (number, type, rest)) :
    ∃ key, Varint.read data = .ok (key, rest) ∧ key / 8 = number := by
  obtain ⟨⟨key, after⟩, read, found⟩ := bind_eq_ok_iff.mp found
  simp only at found
  split at found
  · cases found
  split at found
  · cases found
  split at found
  · cases found
  cases found
  exact ⟨key, read, rfl⟩

theorem readKey_shortens {number : Nat} {type : WireType} {data rest : Bytes}
    (found : readKey data = .ok (number, type, rest)) : rest.length < data.length := by
  obtain ⟨key, read, -⟩ := readKey_eq_ok found
  exact Varint.read_shortens read

theorem readLength_eq_ok {length : Nat} {data rest : Bytes}
    (found : readLength data = .ok (length, rest)) :
    rest.length < data.length ∧ length ≤ rest.length := by
  obtain ⟨⟨count, after⟩, read, found⟩ := bind_eq_ok_iff.mp found
  have shorter := Varint.read_shortens read
  simp only at found
  split at found
  · cases found
  · rename_i enough
    cases found
    exact ⟨shorter, Nat.not_lt.mp enough⟩

end TokenClaim.Wire
