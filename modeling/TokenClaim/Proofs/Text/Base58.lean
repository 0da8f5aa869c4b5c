import Mathlib.Data.List.Nodup
import TokenClaim.Proofs.Checked
import TokenClaim.Proofs.Text.Positional
import TokenClaim.Proofs.Text.Utf8
import TokenClaim.Pubkey
/-!
Base-58 text has one spelling for each byte string. Reading it is rewriting its digits in base 256,
and writing is rewriting the bytes in base 58, with as many zeros in front; what is rewritten there
and back is as it was. So a key has one text.
-/

set_option autoImplicit false

namespace TokenClaim

theorem BigEndian.read_eq_ofPositional (bytes : Bytes) :
    read bytes = Text.ofPositional 256 (bytes.map UInt8.toNat) := by
  induction bytes using List.reverseRecOn with
  | nil => rfl
  | append_singleton bytes byte ih =>
    rw [List.map_append, List.map_singleton, Text.ofPositional_concat, ← ih, read,
      List.reverse_append, List.reverse_singleton, List.singleton_append, LittleEndian.read, read]
    omega

namespace Text.Base58

section Bytes

theorem toNat_lt_of_mem (bytes : Bytes) : ∀ digit ∈ bytes.map UInt8.toNat, digit < 256 := by
  intro digit member
  obtain ⟨byte, -, rfl⟩ := List.mem_map.mp member
  exact byte.toNat_lt

theorem map_ofNat_map_toNat (bytes : Bytes) :
    (bytes.map UInt8.toNat).map UInt8.ofNat = bytes := by
  rw [List.map_map]
  exact (List.map_congr_left fun _ _ => UInt8.ofNat_toNat).trans (List.map_id bytes)

theorem map_toNat_map_ofNat {digits : List Nat} (small : ∀ digit ∈ digits, digit < 256) :
    (digits.map UInt8.ofNat).map UInt8.toNat = digits := by
  rw [List.map_map]
  refine (List.map_congr_left fun digit member => ?_).trans (List.map_id digits)
  rw [Function.comp_apply, UInt8.toNat_ofNat', Nat.mod_eq_of_lt (small digit member)]
  rfl

end Bytes

section Alphabet

theorem nodup_alphabet : alphabet.Nodup := by decide +kernel

theorem ascii_alphabet : ∀ c ∈ alphabet, c.toNat < 128 := by
  have all : (alphabet.all fun c => c.toNat < 128) = true := by decide
  exact fun c member => of_decide_eq_true (List.all_eq_true.mp all c member)

variable {value : Nat}

theorem digitChar_eq_getElem (inside : value < alphabet.length) :
    digitChar value = alphabet[value] := by
  rw [digitChar, List.getD_eq_getElem?_getD, List.getElem?_eq_getElem inside, Option.getD_some]

theorem digitChar_ascii (small : value < 58) : (digitChar value).toNat < 128 := by
  have inside : value < alphabet.length := small
  rw [digitChar_eq_getElem inside]
  exact ascii_alphabet _ (List.getElem_mem inside)

theorem digitValue?_eq_some_iff {byte : UInt8} :
    digitValue? byte = some value ↔ value < 58 ∧ byte = code (digitChar value) := by
  rw [digitValue?, List.findIdx?_eq_some_iff_getElem]
  constructor
  · rintro ⟨inside, same, -⟩
    refine ⟨inside, ?_⟩
    rw [digitChar_eq_getElem inside, code, beq_iff_eq.mp same, UInt8.ofNat_toNat]
  · rintro ⟨small, rfl⟩
    have inside : value < alphabet.length := small
    have same := toNat_code (digitChar_ascii small)
    refine ⟨inside, ?_, fun earlier before equal => ?_⟩
    · rw [same, digitChar_eq_getElem inside]
      exact beq_self_eq_true _
    · rw [same, digitChar_eq_getElem inside, beq_iff_eq, Char.toNat_inj,
        nodup_alphabet.getElem_inj_iff] at equal
      omega

end Alphabet

theorem readDigits_eq_ok_iff {position : Nat} {bytes : Bytes} {digits : List Nat} :
    readDigits position bytes = .ok digits ↔
      (∀ digit ∈ digits, digit < 58) ∧ bytes = (digits.map digitChar).map code := by
  induction bytes generalizing position digits with
  | nil =>
    cases digits with
    | nil => simp [readDigits]
    | cons digit digits => simp [readDigits]
  | cons byte bytes ih =>
    rw [readDigits]
    constructor
    · intro found
      split at found
      · cases found
      split at found
      · cases found
      rename_i digit value
      obtain ⟨others, read, same⟩ := bind_eq_ok_iff.mp found
      cases same
      obtain ⟨small, rfl⟩ := digitValue?_eq_some_iff.mp value
      obtain ⟨smaller, rfl⟩ := ih.mp read
      exact ⟨List.forall_mem_cons.mpr ⟨small, smaller⟩, rfl⟩
    · rintro ⟨small, written⟩
      cases digits with
      | nil => cases written
      | cons digit digits =>
        obtain ⟨first, others⟩ := List.forall_mem_cons.mp small
        simp only [List.map_cons, List.cons.injEq] at written
        obtain ⟨rfl, rest⟩ := written
        have ascii : ¬127 < code (digitChar digit) := by
          rw [UInt8.lt_iff_toNat_lt, toNat_code (digitChar_ascii first)]
          exact Nat.not_lt.mpr (Nat.le_of_lt_succ (digitChar_ascii first))
        have read : readDigits (position + 1) bytes = .ok digits := ih.mpr ⟨others, rest⟩
        rw [if_neg ascii, digitValue?_eq_some_iff.mpr ⟨first, rfl⟩]
        simp only [read, ok_bind]
        rfl

theorem readDigits_utf8_eq_ok_iff {text : String} {digits : List Nat} :
    readDigits 0 (utf8 text) = .ok digits ↔
      (∀ digit ∈ digits, digit < 58) ∧ text = String.ofList (digits.map digitChar) := by
  rw [readDigits_eq_ok_iff]
  refine and_congr_right fun small => ?_
  have ascii : ∀ c ∈ digits.map digitChar, c.toNat < 128 := by
    intro c member
    obtain ⟨digit, listed, rfl⟩ := List.mem_map.mp member
    exact digitChar_ascii (small digit listed)
  rw [← utf8_ofList_ascii ascii]
  exact ⟨utf8_injective, congrArg utf8⟩

/-- Writing is rewriting in base 58. -/
theorem encode_eq (bytes : Bytes) :
    encode bytes = String.ofList ((rebase 256 58 (bytes.map UInt8.toNat)).map digitChar) := by
  have zero : (· == 0) ∘ UInt8.toNat = (· == (0 : UInt8)) := by
    funext byte
    rw [Function.comp_apply, Bool.eq_iff_iff, beq_iff_eq, beq_iff_eq, ← UInt8.toNat_inj]
    rfl
  have same : zeros (bytes.map UInt8.toNat) = (bytes.takeWhile (· == 0)).length := by
    rw [zeros, List.takeWhile_map, List.length_map, zero]
  rw [rebase, List.map_append, List.map_replicate, same, ← BigEndian.read_eq_ofPositional]
  rfl

theorem decode_eq_ok_iff_rebase {text : String} {bytes : Bytes} :
    decode text = .ok bytes ↔ ∃ digits, (∀ digit ∈ digits, digit < 58) ∧
      text = String.ofList (digits.map digitChar) ∧
      bytes = (rebase 58 256 digits).map UInt8.ofNat := by
  have written (digits : List Nat) : (rebase 58 256 digits).map UInt8.ofNat =
      List.replicate (zeros digits) 0 ++
        (positional 256 (ofPositional 58 digits)).map UInt8.ofNat := by
    rw [rebase, List.map_append, List.map_replicate]
    rfl
  simp only [decode, bind_eq_ok_iff, readDigits_utf8_eq_ok_iff, written, and_assoc]
  refine exists_congr fun digits => and_congr_right fun _ => and_congr_right fun _ => ?_
  exact ⟨fun same => (Except.ok.inj same).symm, fun same => congrArg Except.ok same.symm⟩

theorem decode_eq_ok_iff {text : String} {bytes : Bytes} :
    decode text = .ok bytes ↔ text = encode bytes := by
  rw [decode_eq_ok_iff_rebase, encode_eq]
  constructor
  · rintro ⟨digits, small, rfl, rfl⟩
    have bytewise := map_toNat_map_ofNat (rebase_lt 58 (by omega) digits)
    rw [bytewise, rebase_rebase (by omega) (by omega) small]
  · rintro rfl
    refine ⟨rebase 256 58 (bytes.map UInt8.toNat), rebase_lt 256 (by omega) _, rfl, ?_⟩
    rw [rebase_rebase (by omega) (by omega) (toNat_lt_of_mem bytes), map_ofNat_map_toNat]

end Text.Base58

/-- Reading takes exactly the texts that are written of keys: each key is read back, and no other
text denotes it. -/
theorem Pubkey.parse_eq_ok_iff (text : String) (key : Pubkey) :
    Pubkey.parse text = .ok key ↔ text = key.toText := by
  rw [Pubkey.toText, ← Text.Base58.decode_eq_ok_iff, Pubkey.parse]
  cases read : Text.Base58.decode text with
  | error fault => simp
  | ok bytes =>
    rw [Except.ok.injEq, ← Octets.ofBytes?_eq_some_iff]
    cases fits : Octets.ofBytes? 32 bytes with
    | none => simp [fits]
    | some found => simp [fits]

end TokenClaim
