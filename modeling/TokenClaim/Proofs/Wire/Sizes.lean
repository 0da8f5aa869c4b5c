import TokenClaim.Proofs.Wire.Varint
import TokenClaim.Wire.Message
/-!
How many bytes a message takes at most: five for the key of a field, ten for a number or a length,
and what the values take themselves.
-/

set_option autoImplicit false

namespace TokenClaim.Wire

theorem length_writeKey_le {number : Nat} (type : WireType) (valid : validNumber number = true) :
    (writeKey number type).length ≤ 5 := by
  simp only [validNumber, Bool.and_eq_true, decide_eq_true_eq] at valid
  have low := type.code_lt
  have digits : 8 * number + type.code < 128 ^ (4 + 1) := by omega
  exact Varint.length_write_le digits

theorem length_flatMap_le {α : Type} {write : α → Bytes} {bound : Nat} {values : List α}
    (each : ∀ value ∈ values, (write value).length ≤ bound) :
    (values.flatMap write).length ≤ bound * values.length := by
  induction values with
  | nil => exact Nat.zero_le _
  | cons value values ih =>
    obtain ⟨first, others⟩ := List.forall_mem_cons.mp each
    have rest := ih others
    rw [List.flatMap_cons, List.length_append, List.length_cons, Nat.mul_succ]
    omega

namespace Scalar

theorem length_word64_le (value : UInt64) : (word64.write value).length ≤ 10 :=
  Varint.length_write_le_ten value.toNat_lt

theorem length_word32_le (value : UInt32) : (word32.write value).length ≤ 10 := by
  have small := value.toNat_lt
  have fits : value.toNat < 2 ^ 64 := by omega
  exact Varint.length_write_le_ten fits

theorem length_flag_le (value : Bool) : (flag.write value).length ≤ 10 := by
  simp [flag]

/-- A length below 128 takes one byte, and so on. -/
theorem length_bytes_le {count : Nat} {value : Bytes} (fits : value.length < 128 ^ (count + 1)) :
    (bytes.write value).length ≤ value.length + (count + 1) := by
  have counted := Varint.length_write_le fits
  rw [bytes, List.length_append]
  omega

theorem length_bytes_le_ten {value : Bytes} (fits : value.length < 2 ^ 64) :
    (bytes.write value).length ≤ value.length + 10 := by
  have digits : value.length < 128 ^ (9 + 1) := by omega
  exact length_bytes_le digits

theorem length_text_le {value : String} (fits : value.utf8ByteSize < 2 ^ 64) :
    (text.write value).length ≤ value.utf8ByteSize + 10 :=
  length_bytes_le_ten fits

theorem length_writeField_le {α : Type} (scalar : Scalar α) {number : Nat} (value : α)
    (valid : validNumber number = true) :
    (scalar.writeField number value).length ≤ (scalar.write value).length + 5 := by
  have key := length_writeKey_le scalar.type valid
  rw [writeField, List.length_append]
  omega

end Scalar

section Fields

variable {M N α : Type} {number : Nat} {name : String} {scalar : Scalar α} {message : M}
  {bound : Nat}

theorem Field.length_single_le [DecidableEq α] {get : M → α} {set : α → M → M}
    (valid : validNumber number = true) (value : (scalar.write (get message)).length ≤ bound) :
    ((Field.single number name scalar get set).write message).length ≤ bound + 5 := by
  have written := scalar.length_writeField_le (get message) valid
  simp only [Field.single]
  split
  · exact Nat.zero_le _
  · omega

theorem Field.length_optional_le {get : M → Option α} {set : Option α → M → M}
    (valid : validNumber number = true)
    (value : ∀ value, get message = some value → (scalar.write value).length ≤ bound) :
    ((Field.optional number name scalar get set).write message).length ≤ bound + 5 := by
  simp only [Field.optional]
  split
  · rename_i given found
    have written := scalar.length_writeField_le given valid
    have small := value given found
    omega
  · exact Nat.zero_le _

theorem Field.length_repeated_le {get : M → List α} {set : List α → M → M}
    (valid : validNumber number = true)
    (each : ∀ value ∈ get message, (scalar.write value).length ≤ bound) :
    ((Field.repeated number name scalar get set).write message).length ≤
      (bound + 5) * (get message).length := by
  refine length_flatMap_le fun value member => ?_
  have written := scalar.length_writeField_le value valid
  have small := each value member
  omega

theorem Field.length_packed_le {get : M → List α} {set : List α → M → M}
    (valid : validNumber number = true)
    (each : ∀ value ∈ get message, (scalar.write value).length ≤ bound)
    (fits : bound * (get message).length < 2 ^ 64) :
    ((Field.packed number name scalar get set).write message).length ≤
      bound * (get message).length + 15 := by
  have values := length_flatMap_le each
  simp only [Field.packed]
  split
  · exact Nat.zero_le _
  · have part := Scalar.length_bytes_le_ten (Nat.lt_of_le_of_lt values fits)
    have written := Scalar.bytes.length_writeField_le ((get message).flatMap scalar.write) valid
    omega

theorem Schema.length_asField_le {inner : Schema N} {get : M → Option N} {set : Option N → M → M}
    (valid : validNumber number = true)
    (content : ∀ content, get message = some content → (inner.write content).length ≤ bound)
    (fits : bound < 2 ^ 64) :
    ((inner.asField number name get set).write message).length ≤ bound + 15 := by
  simp only [Schema.asField]
  split
  · rename_i given found
    have small := content given found
    have part := Scalar.length_bytes_le_ten (Nat.lt_of_le_of_lt small fits)
    have written := Scalar.bytes.length_writeField_le (inner.write given) valid
    omega
  · exact Nat.zero_le _

theorem Schema.length_write_le {schema : Schema M}
    (each : ∀ field ∈ schema.fields, (field.write message).length ≤ bound) :
    (schema.write message).length ≤ bound * schema.fields.length :=
  length_flatMap_le each

end Fields

end TokenClaim.Wire
