import TokenClaim.Text.Utf8
/-!
Which bytes a text has in UTF-8: those of its characters one after the other, and one byte each
where the characters are ASCII.
-/

set_option autoImplicit false

namespace TokenClaim.Text

theorem utf8_injective {first second : String} (same : utf8 first = utf8 second) :
    first = second := by
  have read := ofUtf8?_utf8 first
  rw [same, ofUtf8?_utf8] at read
  exact (Option.some.inj read).symm

theorem utf8_ofList (chars : List Char) :
    utf8 (String.ofList chars) = chars.flatMap String.utf8EncodeChar := by
  rw [utf8, String.toByteArray_ofList, List.utf8Encode, List.data_toByteArray, List.toList_toArray]

theorem utf8_eq_flatMap (text : String) :
    utf8 text = text.toList.flatMap String.utf8EncodeChar := by
  rw [← utf8_ofList, String.ofList_toList]

def code (c : Char) : UInt8 := UInt8.ofNat c.toNat

theorem toNat_code {c : Char} (ascii : c.toNat < 128) : (code c).toNat = c.toNat := by
  rw [code, UInt8.toNat_ofNat']
  omega

theorem utf8_ofList_ascii {chars : List Char} (ascii : ∀ c ∈ chars, c.toNat < 128) :
    utf8 (String.ofList chars) = chars.map code := by
  rw [utf8_ofList]
  induction chars with
  | nil => rfl
  | cons c chars ih =>
    obtain ⟨first, others⟩ := List.forall_mem_cons.mp ascii
    have single : String.utf8EncodeChar c = [code c] := by
      rw [String.utf8EncodeChar, if_pos]
      · rfl
      · exact Nat.le_of_lt_succ first
    rw [List.flatMap_cons, single, ih others, List.map_cons, List.singleton_append]

/-- A byte below 128 is a character of its own. Of the others, those from 192 to 223 start a
character of two bytes, and have its bits above the lowest six. -/
theorem of_mem_utf8EncodeChar {c : Char} {byte : UInt8} (member : byte ∈ String.utf8EncodeChar c) :
    (byte.toNat < 128 → c.toNat = byte.toNat) ∧
      (192 ≤ byte.toNat → byte.toNat < 224 → c.toNat / 64 = byte.toNat - 192) := by
  simp only [String.utf8EncodeChar, Char.toNat_val] at member
  split at member
  · rw [List.mem_singleton.mp member, UInt8.toNat_ofNat']
    omega
  split at member
  · simp only [List.mem_cons, List.not_mem_nil, or_false] at member
    rcases member with rfl | rfl <;> rw [UInt8.toNat_ofNat'] <;> omega
  split at member
  · simp only [List.mem_cons, List.not_mem_nil, or_false] at member
    rcases member with rfl | rfl | rfl <;> rw [UInt8.toNat_ofNat'] <;> omega
  · simp only [List.mem_cons, List.not_mem_nil, or_false] at member
    rcases member with rfl | rfl | rfl | rfl <;> rw [UInt8.toNat_ofNat'] <;> omega

end TokenClaim.Text
